import Postroom.Proofs.Pattern.Matching
import Postroom.Proofs.Pattern.Wrapping

/-!
# Which messages are marked as spam

The pattern of a spam configuration is to describe the whole value of the field.  It is put between
`^(?:` and `)$` for that.  `SpamDetector.marks_whole_values_iff` says when this does what is meant:
a configuration is accepted if its pattern is one on its own, and a message is spam if the whole
value of the first field of the name is described.  It does not do so for two kinds of patterns.

* `SpamDetector.Splices` — one that closes the group around it and opens another one is none on its
  own, but is accepted, and a part of the value will do.
* `SpamDetector.Refused` — one that ends in a comment, or is nested to one of the last two levels
  there are, is one on its own, but is refused.
-/

namespace Postroom

/-- The value stands in the first field of a name. -/
def Message.IsFirst (m : Message) (name value : Text) : Prop :=
  ∃ before spelling after, m.fields = before ++ (spelling, value) :: after ∧
    Text.sameName spelling name ∧ ∀ field ∈ before, ¬Text.sameName field.1 name

theorem Message.header_eq_some_iff {m : Message} {name value : Text} :
    m.header name = some value ↔ m.IsFirst name value := by
  unfold Message.header Message.IsFirst
  rw [Option.map_eq_some_iff]
  simp only [List.find?_eq_some_iff_append]
  constructor
  · rintro ⟨⟨spelling, value⟩, ⟨hname, before, after, hfields, hbefore⟩, rfl⟩
    exact ⟨before, spelling, after, hfields, hname, fun field hf => by simpa using hbefore field hf⟩
  · rintro ⟨before, spelling, after, hfields, hname, hbefore⟩
    exact ⟨(spelling, value), ⟨hname, before, after, hfields,
      fun field hf => by simpa using hbefore field hf⟩, rfl⟩

namespace Pattern

/-- The pattern describes the text from its first character to its last one. -/
def Describes (p : Pattern) (text : Text) : Prop :=
  Spans text.toArray p 0 text.length

theorem holdsAt_textStart {t : Array Char} {i : ℕ} (hi : i ≤ t.size) :
    holdsAt t .textStart i ↔ i = 0 := by
  unfold holdsAt Look.holds
  by_cases hzero : i = 0
  · simp [hzero]
  · have hlt : i - 1 < t.size := by omega
    simp [hzero, hlt]

theorem holdsAt_textEnd {t : Array Char} {i : ℕ} : holdsAt t .textEnd i ↔ t.size ≤ i := by
  unfold holdsAt Look.holds
  simp

/-- The pattern for the whole of a text is found where the pattern describes the whole text. -/
theorem isFound_whole_iff {p : Pattern} {text : Text} :
    (whole p).isFound text ↔ p.Describes text := by
  rw [isFound_iff]
  constructor
  · rintro ⟨i, j, hi, k, ⟨hstart, rfl⟩, l, hspan, m, ⟨hend, -⟩, -⟩
    have hsize : text.toArray.size = text.length := List.size_toArray
    rw [holdsAt_textStart (by omega)] at hstart
    rw [holdsAt_textEnd] at hend
    have hle := le_and_le_of_spans hspan
    obtain rfl : l = text.length := by omega
    subst hstart
    exact hspan
  · intro h
    have hstart : holdsAt text.toArray .textStart 0 := (holdsAt_textStart (Nat.zero_le _)).2 rfl
    have hend : holdsAt text.toArray .textEnd text.length := holdsAt_textEnd.2 (by simp)
    exact ⟨0, text.length, Nat.zero_le _, 0, ⟨hstart, rfl⟩, text.length, h, text.length,
      ⟨hend, rfl⟩, rfl⟩

end Pattern

namespace SpamDetector

open Pattern

/-- The pattern closes the group around it, and what comes of it is accepted. -/
def Splices (p : Text) : Prop :=
  Reading.initial.Escapes p ∧ (compile? p).isSome

/-- The pattern is one on its own, and not too large, but it takes in the bracket that is to close
the group around it, or leaves too few levels for that group. -/
def Refused (p : Text) : Prop :=
  ∃ n, read? p = some n ∧ n.depth ≤ depthLimit ∧ (whole n.pattern).fits ∧
    (EndsInRemark p ∨ depthLimit < n.depth + 2)

/-- A message is spam for a detector with this field and pattern if the whole value of the first
field of the name, in any spelling of the name, is described by the pattern. -/
def MarksWhole (name p : Text) : Prop :=
  ∀ d, ofConfig ⟨some name, some p⟩ = .ok d → ∃ q, parse? p = some q ∧ ∀ m, d.isSpam m ↔
    name.trim ≠ [] ∧ ∃ value, m.IsFirst name.trim value ∧ q.Describes value

/-- A pattern that closes the group around it is none on its own. -/
theorem read?_of_escapes {p : Text} (h : Reading.initial.Escapes p) : read? p = .none := by
  unfold read?
  cases hrun : Reading.initial.run p with
  | none => rfl
  | some last => exact absurd h (Reading.not_escapes_of_run hrun)

/-- The pattern that a text is compiled to. -/
theorem compile?_eq_some_iff {p : Text} (hsplices : ¬Splices p) (q : Pattern) :
    compile? p = some q ↔
      ¬EndsInRemark p ∧ ∃ n, read? p = some n ∧ n.depth + 2 ≤ depthLimit ∧
        (whole n.pattern).fits ∧ q = whole n.pattern := by
  by_cases hescapes : Reading.initial.Escapes p
  · have hnone : compile? p = .none := by
      simpa [Splices, hescapes] using hsplices
    simp [hnone, read?_of_escapes hescapes]
  · unfold compile?
    rw [Option.filter_eq_some_iff, parse?_eq, Option.map_eq_some_iff]
    simp only [Option.filter_eq_some_iff, read?_anchored hescapes, decide_eq_true_eq]
    constructor
    · rintro ⟨⟨n, ⟨⟨hremark, inner, hread, rfl⟩, hdepth⟩, rfl⟩, hfits⟩
      exact ⟨hremark, inner, hread, hdepth, hfits, rfl⟩
    · rintro ⟨hremark, inner, hread, hdepth, hfits, rfl⟩
      exact ⟨⟨_, ⟨⟨hremark, inner, hread, rfl⟩, hdepth⟩, rfl⟩, hfits⟩

theorem ofConfig_eq_ok_iff {name p : Text} {d : SpamDetector} :
    ofConfig ⟨some name, some p⟩ = .ok d ↔
      ∃ q, compile? p = some q ∧ d = ⟨SpamConfig.marker ⟨some name, some p⟩, some q⟩ := by
  unfold ofConfig
  simp only
  cases compile? p with
  | none => simp
  | some q => simp [eq_comm]

/-- A detector with a field and a pattern. -/
theorem isSpam_whole_iff {name : Text} {p : Option Text} {q : Pattern} {m : Message} :
    isSpam ⟨SpamConfig.marker ⟨some name, p⟩, some (whole q)⟩ m ↔
      name.trim ≠ [] ∧ ∃ value, m.IsFirst name.trim value ∧ q.Describes value := by
  have hmarker : SpamConfig.marker ⟨some name, p⟩ =
      if name.trim = [] then .none else some name.trim := by
    unfold SpamConfig.marker
    by_cases hblank : name.trim = [] <;> simp [hblank]
  simp only [← Message.header_eq_some_iff, ← isFound_whole_iff]
  unfold isSpam
  rw [hmarker]
  by_cases hblank : name.trim = []
  · simp [hblank]
  · simp only [if_neg hblank, Option.bind_some]
    cases m.header name.trim <;> simp [hblank]

/-- A configuration is accepted if its pattern is one on its own that does not end in a comment and
is neither nested too deeply nor too large. -/
theorem exists_ofConfig_iff {name p : Text} (hsplices : ¬Splices p) :
    (∃ d, ofConfig ⟨some name, some p⟩ = .ok d) ↔
      ¬EndsInRemark p ∧ ∃ n, read? p = some n ∧ n.depth + 2 ≤ depthLimit ∧
        (whole n.pattern).fits := by
  simp only [ofConfig_eq_ok_iff, compile?_eq_some_iff hsplices]
  constructor
  · rintro ⟨d, q, ⟨hremark, n, hread, hdepth, hfits, -⟩, -⟩
    exact ⟨hremark, n, hread, hdepth, hfits⟩
  · rintro ⟨hremark, n, hread, hdepth, hfits⟩
    exact ⟨_, _, ⟨hremark, n, hread, hdepth, hfits, rfl⟩, rfl⟩

/-- With a pattern that does not splice, the whole value decides. -/
theorem marksWhole_of_not_splices {name p : Text} (hsplices : ¬Splices p) : MarksWhole name p := by
  intro d h
  obtain ⟨q, hq, rfl⟩ := ofConfig_eq_ok_iff.1 h
  obtain ⟨-, n, hread, hdepth, -, rfl⟩ := (compile?_eq_some_iff hsplices q).1 hq
  exact ⟨n.pattern, parse?_eq_some_iff.2 ⟨n, hread, by omega, rfl⟩, fun m => isSpam_whole_iff⟩

/-- What is accepted is a pattern on its own, unless that is refused for the brackets around it. -/
theorem exists_ofConfig_iff_parse? {name p : Text} (hsplices : ¬Splices p) :
    ((∃ d, ofConfig ⟨some name, some p⟩ = .ok d) ↔ ∃ q, parse? p = some q ∧ (whole q).fits) ↔
      ¬Refused p := by
  rw [exists_ofConfig_iff hsplices]
  constructor
  · rintro haccepts ⟨n, hread, hdepth, hfits, hbrackets⟩
    obtain ⟨hremark, n', hread', hlevels, -⟩ :=
      haccepts.2 ⟨n.pattern, parse?_eq_some_iff.2 ⟨n, hread, hdepth, rfl⟩, hfits⟩
    obtain rfl : n = n' := Option.some.inj (hread.symm.trans hread')
    rcases hbrackets with hends | hdeep
    · exact hremark hends
    · omega
  · intro hrefused
    constructor
    · rintro ⟨-, n, hread, hlevels, hfits⟩
      exact ⟨n.pattern, parse?_eq_some_iff.2 ⟨n, hread, by omega, rfl⟩, hfits⟩
    · rintro ⟨q, hparse, hfits⟩
      obtain ⟨n, hread, hdepth, rfl⟩ := parse?_eq_some_iff.1 hparse
      have hbrackets : ¬(EndsInRemark p ∨ depthLimit < n.depth + 2) :=
        fun h => hrefused ⟨n, hread, hdepth, hfits, h⟩
      rw [not_or, not_lt] at hbrackets
      exact ⟨hbrackets.1, n, hread, hbrackets.2, hfits⟩

/-- A pattern that splices is accepted, but is none on its own. -/
theorem accepted_of_splices {p : Text} (h : Splices p) (name : Text) :
    (∃ d, ofConfig ⟨some name, some p⟩ = .ok d) ∧ read? p = .none := by
  obtain ⟨hescapes, hsome⟩ := h
  obtain ⟨q, hq⟩ := Option.isSome_iff_exists.1 hsome
  exact ⟨⟨_, ofConfig_eq_ok_iff.2 ⟨q, hq, rfl⟩⟩, read?_of_escapes hescapes⟩

/-- **The pattern has to describe the whole of the value exactly if it neither splices nor is
refused for the brackets around it.**  Just then a configuration is accepted if and only if its
pattern is one on its own and not too large; and a message is spam if and only if the whole value of
the first field of the name, in any spelling of the name, is described by the pattern.  As for what
is accepted, a pattern that does not splice must not end in a comment, nor be nested to the last two
levels. -/
theorem marks_whole_values_iff (name p : Text) :
    ((((∃ d, ofConfig ⟨some name, some p⟩ = .ok d) ↔ ∃ q, parse? p = some q ∧ (whole q).fits) ∧
      MarksWhole name p) ↔ ¬Splices p ∧ ¬Refused p) ∧
    ((((∃ d, ofConfig ⟨some name, some p⟩ = .ok d) ↔
      ¬EndsInRemark p ∧ ∃ n, read? p = some n ∧ n.depth + 2 ≤ depthLimit ∧
        (whole n.pattern).fits) ∧
      MarksWhole name p) ↔ ¬Splices p) := by
  refine ⟨⟨?_, ?_⟩, ?_, ?_⟩
  · rintro ⟨haccepts, -⟩
    have hsplices : ¬Splices p := by
      intro h
      obtain ⟨hok, hnone⟩ := accepted_of_splices h name
      obtain ⟨q, hparse, -⟩ := haccepts.1 hok
      obtain ⟨n, hread, -⟩ := parse?_eq_some_iff.1 hparse
      rw [hnone] at hread
      cases hread
    exact ⟨hsplices, (exists_ofConfig_iff_parse? hsplices).1 haccepts⟩
  · rintro ⟨hsplices, hrefused⟩
    exact ⟨(exists_ofConfig_iff_parse? hsplices).2 hrefused, marksWhole_of_not_splices hsplices⟩
  · rintro ⟨haccepts, -⟩ h
    obtain ⟨hok, hnone⟩ := accepted_of_splices h name
    obtain ⟨-, n, hread, -⟩ := haccepts.1 hok
    rw [hnone] at hread
    cases hread
  · exact fun hsplices => ⟨exists_ofConfig_iff hsplices, marksWhole_of_not_splices hsplices⟩

example :
    (ofConfig ⟨some "X-Spam-Status".toList, some "Yes|Spam[0-9]*".toList⟩).toOption.map
      (fun d => ["Spam8", "No, Spam8"].map fun value =>
        d.isSpam ⟨[], [("x-spam-status".toList, value.toList)]⟩) = some [true, false] := by
  decide +kernel

example :
    let p := "(?x)YES # the verdict".toList
    (parse? p).isSome ∧ ofConfig ⟨some "X-Spam-Flag".toList, some p⟩ = .error ⟨p⟩ := by
  decide +kernel

/-- A pattern of two brackets that do not belong together is none on its own, but it is accepted,
and a part of the value will do. -/
theorem marks_spliced_values :
    let p := "YES)|(?:NO".toList
    let raw := Utf8.encode "X-Spam-Flag: YES, score=8\n\n".toList
    parse? p = .none ∧ ∃ d m, ofConfig ⟨some "X-Spam-Flag".toList, some p⟩ = .ok d ∧
      Message.ofOctets raw = .ok m ∧ d.isSpam m := by
  intro p raw
  have hparse : parse? p = .none := by decide +kernel
  have hfound : (compile? p).any fun q => q.isFound "YES, score=8".toList := by decide +kernel
  have hmessage : Message.ofOctets raw =
      .ok ⟨raw, [("X-Spam-Flag".toList, "YES, score=8".toList)]⟩ := by decide +kernel
  obtain ⟨q, hq, hfound⟩ := (Option.any_eq_true _ _).1 hfound
  refine ⟨hparse, _, _, ofConfig_eq_ok_iff.2 ⟨q, hq, rfl⟩, hmessage, ?_⟩
  exact hfound

end SpamDetector

end Postroom
