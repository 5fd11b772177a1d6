import Mathlib.Data.List.TakeWhile
import Postroom.Proofs.Mail.ReadBack

/-!
# Sending on what was sent on

A message is often sent on more than once, and must not collect fields on its way.  It does not:
what `Forward.prepare` puts in front is found when the message is read again, so that nothing is
missing then (`Forward.exists_missingNames_eq_nil`).

Two things could get in the way.  A message may begin with fields whose names begin with a tab;
behind the lines in front they are no fields of their own any more, but go on with the last of these
lines (`Field.exists_readBlock_lines`).  And whether a date is needed depends on whether the parts
of the message can be read; that does not change, since neither the fields that are added nor those
that are lost tell the type of the content (`Forward.boundary?_append`).
-/

namespace Postroom

/-! ## Fields that hang on to what stands before them -/

namespace Field

/-- The field begins with a tab, so that it would go on with a field in front of it. -/
def hangs (f : Field) : Bool :=
  f.name.head? == some 0x09

theorem splitValue_append_of_not_mem {v : Octets} (h : lf ∉ v) (rest : Octets) :
    (splitValue (v ++ rest)).2 = (splitValue rest).2 := by
  induction v with
  | nil => rfl
  | cons b v ih =>
    rw [List.mem_cons, not_or] at h
    rw [List.cons_append, splitValue, if_neg fun hb => h.1 hb.1.symm]
    exact ih h.2

/-- A value ends where a field in its place ends, or else goes on with the field behind it. -/
theorem splitValue_eq_of_readOne (bytes : Octets) :
    (splitValue bytes).2 = if startsAfresh (readOne bytes).2 then (readOne bytes).2
      else (splitValue (readOne bytes).2).2 := by
  have hname : lf ∉ bytes.takeWhile isNameOctet := fun h =>
    absurd (List.mem_takeWhile_imp h) (by decide)
  have hbytes := splitValue_append_of_not_mem hname (bytes.dropWhile isNameOctet)
  rw [List.takeWhile_append_dropWhile] at hbytes
  rw [hbytes, readOne]
  cases bytes.dropWhile isNameOctet with
  | nil => rfl
  | cons b rest =>
    simp only
    split
    · rename_i hb
      rw [splitValue]
      simp only [hb, true_and]
      exact apply_ite Prod.snd _ _ _
    · rename_i hb
      have hspaces : lf ∉ rest.takeWhile (· == 0x20) := fun h =>
        absurd (List.mem_takeWhile_imp h) (by decide)
      have hvalue := splitValue_append_of_not_mem hspaces (rest.dropWhile (· == 0x20))
      rw [List.takeWhile_append_dropWhile] at hvalue
      rw [if_pos (startsAfresh_splitValue _), ← hvalue, splitValue, if_neg fun h => hb h.1]

/-- The first field hangs exactly when the block begins with a tab. -/
theorem hangs_iff_of_readBlock {bytes body : Octets} {f : Field} {fields : List Field}
    (h : readBlock bytes = .ok (f :: fields, body)) :
    f.hangs = true ↔ bytes.head? = some 0x09 := by
  obtain ⟨rfl, -⟩ := readBlock_cons h
  have htab : isNameOctet 0x09 = true := by decide
  rw [hangs, beq_iff_eq, name_readOne]
  cases bytes with
  | nil => rfl
  | cons b bytes =>
    rw [List.takeWhile_cons]
    split
    · rfl
    · rename_i hb
      constructor
      · intro hnone
        cases hnone
      · intro hhead
        obtain rfl := Option.some_inj.1 hhead
        exact absurd htab hb

theorem dropWhile_hangs {bytes body : Octets} {fields : List Field}
    (h : readBlock bytes = .ok (fields, body)) (hafresh : startsAfresh bytes) :
    fields.dropWhile hangs = fields := by
  cases fields with
  | nil => rfl
  | cons f fields =>
    have hhangs : ¬ f.hangs = true := fun hf =>
      (startsAfresh_iff_of_readBlock h).1 hafresh ((hangs_iff_of_readBlock h).1 hf)
    exact List.dropWhile_cons_of_neg hhangs

/-- What is left of a block behind a value that goes on with it are the fields that do not hang. -/
theorem readBlock_splitValue {bytes body : Octets} {fields : List Field}
    (h : readBlock bytes = .ok (fields, body)) (hcontinued : ¬ startsAfresh bytes) :
    readBlock (splitValue bytes).2 = .ok (fields.dropWhile hangs, body) := by
  induction fields generalizing bytes with
  | nil =>
    cases bytes with
    | nil => exact absurd rfl hcontinued
    | cons b bytes =>
      rcases head?_of_readBlock_nil h with rfl | rfl <;> exact absurd rfl hcontinued
  | cons f fields ih =>
    have hhangs : f.hangs = true := by
      rw [hangs_iff_of_readBlock h]
      by_contra htab
      exact hcontinued ((startsAfresh_iff_of_readBlock h).2 htab)
    obtain ⟨-, hfields⟩ := readBlock_cons h
    rw [splitValue_eq_of_readOne, List.dropWhile_cons_of_pos hhangs]
    split
    · rename_i hafresh
      rw [dropWhile_hangs hfields hafresh, hfields]
    · rename_i hnext
      exact ih hfields hnext

/-- **Lines in front of any block.**  Lines of fields whose values are folded are read as fields of
these names, and the block behind them without the fields that hang. -/
theorem exists_readBlock_lines {ending : Octets} (hend : ∀ b ∈ ending, b = cr)
    {es : List (Octets × Octets)} (hne : es ≠ []) (hnames : ∀ e ∈ es, isName e.1 = true)
    (hvalues : ∀ e ∈ es, folded e.2 = true) {rest body : Octets} {fields : List Field}
    (h : readBlock rest = .ok (fields, body)) :
    ∃ added, readBlock (es.flatMap (fun e => line ending e.1 e.2) ++ rest) =
      .ok (added ++ fields.dropWhile hangs, body) ∧ added.map (·.name) = es.map (·.1) := by
  by_cases hafresh : startsAfresh rest
  · rw [dropWhile_hangs h hafresh]
    refine ⟨_, readBlock_lines hend hnames hvalues hafresh h, ?_⟩
    rw [List.map_map]
    rfl
  · -- the last line takes the hanging fields along
    obtain ⟨init, last, rfl⟩ := List.eq_nil_or_concat' es |>.resolve_left hne
    have hname := hnames last (by simp)
    have hlast : readBlock (line ending last.1 last.2 ++ rest) =
        .ok ((readOne (line ending last.1 last.2 ++ rest)).1 :: fields.dropWhile hangs, body) := by
      refine readBlock_of_isName hname (line_append ..) ?_
      rw [readOne_line_continued hname hend (hvalues last (by simp)) hafresh]
      exact readBlock_splitValue h hafresh
    have hlines := readBlock_lines hend (fun e he => hnames e (List.mem_append_left _ he))
      (fun e he => hvalues e (List.mem_append_left _ he)) (startsAfresh_line hname rest) hlast
    refine ⟨init.map (fun e => ofLine ending e.1 e.2) ++
      [(readOne (line ending last.1 last.2 ++ rest)).1], ?_, ?_⟩
    · rw [List.flatMap_append, List.flatMap_singleton, List.append_assoc, hlines, List.append_assoc]
      rfl
    · obtain ⟨-, hall⟩ := Bool.and_eq_true_iff.1 hname
      have hlastName : (readOne (line ending last.1 last.2 ++ rest)).1.name = last.1 := by
        rw [name_readOne, line_append, takeWhile_append_cons hall (by decide)]
      rw [List.map_append, List.map_append, List.map_map, List.map_singleton, List.map_singleton,
        hlastName]
      rfl

end Field

/-! ## Fields that are asked for -/

namespace Message

/-- A field that hangs has no name that begins otherwise than with a tab. -/
theorem sameName_of_hangs {f : Field} (hf : f.hangs = true) {name : Text}
    (hname : (name.map Char.toLower).head? ≠ some '\t') :
    Text.sameName (readField f).1 name = false := by
  obtain ⟨rest, hrest⟩ := List.head?_eq_some_iff.1 (beq_iff_eq.1 hf)
  have htab : (readField f).1 = '\t' :: Utf8.ofLatin1 rest := by
    rw [readField, hrest]
    rfl
  rw [htab, ← Bool.not_eq_true, Text.sameName_iff]
  intro hsame
  rw [← hsame] at hname
  exact hname rfl

/-- Fields that hang are not found by other names. -/
theorem find?_dropWhile_hangs (fields : List Field) {name : Text}
    (hname : (name.map Char.toLower).head? ≠ some '\t') :
    (((fields.dropWhile Field.hangs).map readField).find? fun f => Text.sameName f.1 name) =
      (fields.map readField).find? fun f => Text.sameName f.1 name := by
  induction fields with
  | nil => rfl
  | cons f fields ih =>
    cases hf : f.hangs with
    | true =>
      rw [List.dropWhile_cons_of_pos hf, ih, List.map_cons, List.find?_cons]
      simp only [sameName_of_hangs hf hname]
    | false => rw [List.dropWhile_cons_of_neg (by rw [hf]; decide)]

end Message

/-! ## Parts -/

namespace Multipart

/-- The fields of a message tell where its parts begin. -/
theorem check_of_readBlock {bytes body : Octets} {fields : List Field}
    (h : Field.readBlock bytes = .ok (fields, body)) :
    check bytes = match boundary? fields with
      | none => .ok ()
      | some boundary =>
        match splitAtLine (mark boundary) true body with
        | none => .ok ()
        | some (_, after) => checkParts boundary after := by
  rw [check.eq_def]
  split
  · rename_i hread
    rw [h] at hread
    cases hread
  · rename_i hread
    rw [h] at hread
    cases hread
    cases boundary? fields with
    | none => rfl
    | some boundary =>
      simp only
      split <;> simp only [*]

end Multipart

namespace Forward

variable {stamp : Stamp} {m : Message}

/-- The message as it is sent on can be read: first come fields of the missing names, and then those
of the message without the ones that hang, if anything stands in front of them. -/
theorem exists_readBlock_prepare (huuid : '\n' ∉ stamp.uuid) (hnow : '\n' ∉ stamp.now)
    (hid : (m.header "Message-ID".toList).isSome ∨ Field.folded (Utf8.encode (domain m)) = true)
    {fields : List Field} {body : Octets} (hblock : Field.readBlock m.raw = .ok (fields, body)) :
    ∃ added later, Field.readBlock (prepare stamp m).1 = .ok (added ++ later, body) ∧
      added.map (fun f => (Message.readField f).1) = missingNames m ∧
      (later = fields ∨ later = fields.dropWhile Field.hangs) := by
  rw [prepare, encode_preamble, ← map_ofLatin1_encodedEntries stamp]
  by_cases hne : encodedEntries stamp m = []
  · rw [hne]
    exact ⟨[], fields, hblock, rfl, Or.inl rfl⟩
  · obtain ⟨added, hread, hnames⟩ := Field.exists_readBlock_lines (@eq_cr_of_mem_ending m) hne
      (fun e he => isName_of_mem he) (fun e he => folded_of_mem huuid hnow hid he) hblock
    refine ⟨added, _, hread, ?_, Or.inr rfl⟩
    have hlatin := congrArg (List.map Utf8.ofLatin1) hnames
    rwa [List.map_map, List.map_map] at hlatin

/-- The names of the fields that a message may need. -/
def neededNames : List Text :=
  ["MIME-Version".toList, "Message-ID".toList, "Date".toList]

theorem mem_neededNames {dated : Bool} {name : Text}
    (h : name ∈ ["MIME-Version".toList, "Message-ID".toList] ++
      if dated then ["Date".toList] else []) : name ∈ neededNames := by
  rcases List.mem_append.1 h with hname | hname
  · exact List.mem_append_left ["Date".toList] hname
  · split at hname
    · exact List.mem_append_right ["MIME-Version".toList, "Message-ID".toList] hname
    · cases hname

theorem head?_ne_tab : ∀ name ∈ "Content-Type".toList :: neededNames,
    (name.map Char.toLower).head? ≠ some '\t' := by
  decide

/-- The fields that are found behind those in front. -/
theorem find?_later {fields later : List Field}
    (h : later = fields ∨ later = fields.dropWhile Field.hangs) {name : Text}
    (hname : name ∈ "Content-Type".toList :: neededNames) :
    ((later.map Message.readField).find? fun f => Text.sameName f.1 name) =
      (fields.map Message.readField).find? fun f => Text.sameName f.1 name := by
  rcases h with rfl | rfl
  · rfl
  · exact Message.find?_dropWhile_hangs fields (head?_ne_tab name hname)

/-- What is put in front does not change the type of the content. -/
theorem boundary?_append {added fields later : List Field}
    (hadded : added.map (fun f => (Message.readField f).1) = missingNames m)
    (hlater : later = fields ∨ later = fields.dropWhile Field.hangs) :
    Multipart.boundary? (added ++ later) = Multipart.boundary? fields := by
  have hother : ∀ name ∈ neededNames, Text.sameName name "Content-Type".toList = false := by
    decide
  have hnone : ((added.map Message.readField).find? fun f =>
      Text.sameName f.1 "Content-Type".toList) = none := by
    refine List.find?_eq_none.2 fun f hf => ?_
    obtain ⟨g, hg, rfl⟩ := List.mem_map.1 hf
    have hname : (Message.readField g).1 ∈ missingNames m := hadded ▸ List.mem_map_of_mem hg
    rw [hother _ (mem_neededNames (List.mem_of_mem_filter hname))]
    decide
  rw [Multipart.boundary?, Multipart.boundary?, Multipart.contentType, Multipart.contentType,
    List.map_append, List.find?_append, hnone, Option.none_or,
    find?_later hlater List.mem_cons_self]

/-- A message that lacks nothing is sent on as it is. -/
theorem prepare_of_missingNames (h : missingNames m = []) : (prepare stamp m).1 = m.raw := by
  rw [prepare, encode_preamble, encodedEntries_eq_nil_iff.2 h]
  rfl

/-- The names of the fields in front and of those of the message are found again. -/
theorem isNone_header_append {raw : Octets} {added fields later : List Field}
    (hadded : added.map (fun f => (Message.readField f).1) = missingNames m)
    (hfields : m.fields = fields.map Message.readField)
    (hlater : later = fields ∨ later = fields.dropWhile Field.hangs) {name : Text}
    (hname : name ∈ neededNames) (h : name ∈ missingNames m ∨ (m.header name).isSome) :
    (Message.header ⟨raw, (added ++ later).map Message.readField⟩ name).isNone = false := by
  rcases h with hmissing | hsome
  · rw [← hadded] at hmissing
    obtain ⟨f, hf, rfl⟩ := List.mem_map.1 hmissing
    refine isNone_header_of_mem ?_ (Text.sameName_refl _)
    exact List.mem_map_of_mem (List.mem_append_left later hf)
  · rw [Message.header, Option.isSome_map, hfields,
      ← find?_later hlater (List.mem_cons_of_mem _ hname)] at hsome
    obtain ⟨f, hf⟩ := Option.isSome_iff_exists.1 hsome
    have hfound := List.find?_some hf
    refine isNone_header_of_mem (f := f) ?_ hfound
    rw [List.map_append]
    exact List.mem_append_right _ (List.mem_of_find?_eq_some hf)

/-- What was sent on lacks nothing when it is read again. -/
theorem exists_missingNames_eq_nil (huuid : '\n' ∉ stamp.uuid) (hnow : '\n' ∉ stamp.now)
    (hid : (m.header "Message-ID".toList).isSome ∨ Field.folded (Utf8.encode (domain m)) = true)
    {raw : Octets} (hm : Message.ofOctets raw = .ok m) :
    ∃ m', Message.ofOctets (prepare stamp m).1 = .ok m' ∧ missingNames m' = [] := by
  obtain ⟨fields, body, hblock, hfields⟩ := exists_readBlock_of_ofOctets hm
  rw [← Message.raw_of_ofOctets hm] at hblock
  obtain ⟨added, later, hread, hadded, hlater⟩ := exists_readBlock_prepare huuid hnow hid hblock
  -- a date is needed now if one was needed before
  have hcheck : Multipart.check (prepare stamp m).1 = Multipart.check m.raw := by
    rw [Multipart.check_of_readBlock hread, Multipart.check_of_readBlock hblock,
      boundary?_append hadded hlater]
  refine ⟨⟨(prepare stamp m).1, (added ++ later).map Message.readField⟩, ?_, ?_⟩
  · rw [Message.ofOctets, hread]
  · refine List.filter_eq_nil_iff.2 fun name hname => ?_
    simp only [hcheck] at hname
    have hneeded : name ∈ missingNames m ∨ (m.header name).isSome := by
      cases hheader : m.header name with
      | some _ => exact Or.inr rfl
      | none => exact Or.inl (List.mem_filter.2 ⟨hname, by rw [hheader]; rfl⟩)
    rw [Bool.not_eq_true]
    exact isNone_header_append hadded hfields hlater (mem_neededNames hname) hneeded

/-- An author without a line end in the domain gives a domain that is no broken line. -/
theorem folded_domain (h : ∀ before after, Text.splitLast '@' m.sender = some (before, after) →
    '\n' ∉ after) : Field.folded (Utf8.encode (domain m)) = true := by
  refine Field.folded_of_not_mem (Utf8.lf_not_mem_encode ?_)
  unfold domain
  split
  · rename_i before c rest hsplit
    exact h before (c :: rest) hsplit
  · decide

/-- **Sending on once is enough.**  A message that can be read, and that has an identifier or an
author without a line end in the domain, stands at the end of what is sent on for it.  This can be
read, and is sent on unchanged from then on, at whatever time. -/
theorem prepare_again {raw : Octets} (hm : Message.ofOctets raw = .ok m)
    (huuid : '\n' ∉ stamp.uuid) (hnow : '\n' ∉ stamp.now)
    (hid : (m.header "Message-ID".toList).isSome ∨
      ∀ before after, Text.splitLast '@' m.sender = some (before, after) → '\n' ∉ after) :
    raw <:+ (prepare stamp m).1 ∧
      ∃ m', Message.ofOctets (prepare stamp m).1 = .ok m' ∧
        ∀ stamp', (prepare stamp' m').1 = (prepare stamp m).1 := by
  constructor
  · rw [← Message.raw_of_ofOctets hm]
    exact prepare_suffix stamp m
  · obtain ⟨m', hread, hnone⟩ :=
      exists_missingNames_eq_nil huuid hnow (hid.imp_right folded_domain) hm
    refine ⟨m', hread, fun stamp' => ?_⟩
    rw [prepare_of_missingNames hnone, Message.raw_of_ofOctets hread]

/-- A message that begins with a tab, and whose parts cannot be read. -/
theorem prepare_again_hanging :
    let raw := Utf8.encode
      ("\tX-Old: 1\r\nFrom: alice@example.com\r\nContent-Type: multipart/mixed; boundary=b\r\n" ++
        "\r\n--b\r\n overhanging\r\n").toList
    let m : Message := ⟨raw, [("\tX-Old".toList, "1".toList),
      ("From".toList, "alice@example.com".toList),
      ("Content-Type".toList, "multipart/mixed; boundary=b".toList)]⟩
    let stamp : Stamp := ⟨"936da01f-9abd-4d9d-80c7-02af85c822a8".toList,
      "Thu, 1 Sep 2022 10:00:00 +0000".toList⟩
    Message.ofOctets raw = .ok m ∧ '\n' ∉ stamp.uuid ∧ '\n' ∉ stamp.now ∧
      isSound m = false ∧ raw <:+ (prepare stamp m).1 ∧
      ∃ m', Message.ofOctets (prepare stamp m).1 = .ok m' ∧
        ∀ stamp', (prepare stamp' m').1 = (prepare stamp m).1 := by
  intro raw m stamp
  have hm : Message.ofOctets raw = .ok m := by decide +kernel
  have huuid : '\n' ∉ stamp.uuid := by decide +kernel
  have hnow : '\n' ∉ stamp.now := by decide +kernel
  have hdomain : Text.splitLast '@' m.sender =
      some ("alice".toList, "example.com".toList) := by
    decide +kernel
  have hid : ∀ before after, Text.splitLast '@' m.sender = some (before, after) →
      '\n' ∉ after := by
    intro before after hsplit
    obtain ⟨-, rfl⟩ := Prod.mk.inj (Option.some_inj.1 (hdomain.symm.trans hsplit))
    decide
  exact ⟨hm, huuid, hnow, by decide +kernel, prepare_again hm huuid hnow (Or.inr hid)⟩

end Forward

end Postroom
