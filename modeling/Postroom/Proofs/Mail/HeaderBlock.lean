import Postroom.Mail.Field
import Mathlib.Algebra.Order.Ring.Nat
import Mathlib.Data.List.Basic

/-!
# Lines in front of a header block

A line that is put in front of a header block is read as one field exactly when no line feed ends
it early and nothing goes on with it.  `Field.readBlock_lines` reads such lines.  Of octets that end
at a line feed with the block behind them, `Field.readBlock_append_cases` says what may happen
otherwise: they are fields of their own, or they end the block before it begins.
-/

namespace Postroom.Field

/-! ## Values -/

/-- Every line feed is followed by a space or a tab, so that a value does not end in it. -/
def folded : Octets → Bool
  | [] => true
  | b :: rest => (b != lf || rest.head?.any continues) && folded rest

/-- No field goes on with these octets. -/
def startsAfresh (bytes : Octets) : Prop :=
  bytes.head?.all (!continues ·) = true

instance (bytes : Octets) : Decidable (startsAfresh bytes) :=
  inferInstanceAs (Decidable (_ = true))

/-- The octets without a line feed are folded. -/
theorem folded_of_not_mem {v : Octets} (h : lf ∉ v) : folded v = true := by
  induction v with
  | nil => rfl
  | cons b v ih =>
    rw [List.mem_cons, not_or] at h
    simp [folded, ih h.2, Ne.symm h.1]

theorem folded_append_of_not_mem {v w : Octets} (h : lf ∉ v) :
    folded (v ++ w) = folded w := by
  induction v with
  | nil => rfl
  | cons b v ih =>
    rw [List.mem_cons, not_or] at h
    rw [List.cons_append, folded, ih h.2]
    simp [Ne.symm h.1]

/-- What follows a value does not matter to its line feeds, unless one of them ends the value. -/
theorem folded_append {v w : Octets} (hw : startsAfresh w) (hne : w ≠ []) :
    folded (v ++ w) = (folded v && folded w) := by
  induction v with
  | nil => rfl
  | cons b v ih =>
    rw [List.cons_append, folded, folded, ih, Bool.and_assoc]
    cases v with
    | nil =>
      obtain ⟨c, w, rfl⟩ := List.exists_cons_of_ne_nil hne
      have hc : continues c = false := by simpa [startsAfresh] using hw
      simp [hc]
    | cons c v => rfl

theorem folded_dropWhile {p : UInt8 → Bool} {v : Octets} (h : folded v = true) :
    folded (v.dropWhile p) = true := by
  induction v with
  | nil => rfl
  | cons b v ih =>
    rw [List.dropWhile_cons]
    split
    · rw [folded, Bool.and_eq_true] at h
      exact ih h.2
    · exact h

/-- A value that is not folded has a first line feed that ends it. -/
theorem exists_of_not_folded {v : Octets} (h : folded v = false) :
    ∃ before after, v = before ++ lf :: after ∧ folded before = true ∧ startsAfresh after := by
  induction v with
  | nil => cases h
  | cons b v ih =>
    by_cases hend : b = lf ∧ startsAfresh v
    · exact ⟨[], v, by rw [hend.1, List.nil_append], rfl, hend.2⟩
    · have hhead : (b != lf || v.head?.any continues) = true := by
        by_contra hfalse
        rw [Bool.or_eq_true, not_or] at hfalse
        refine hend ⟨by simpa using hfalse.1, ?_⟩
        cases v with
        | nil => rfl
        | cons c v => simpa [startsAfresh] using hfalse.2
      rw [folded, hhead, Bool.true_and] at h
      obtain ⟨before, after, rfl, hbefore, hafter⟩ := ih h
      refine ⟨b :: before, after, rfl, ?_, hafter⟩
      rw [folded, hbefore, Bool.and_true]
      cases before with
      | nil => simpa [continues, lf] using hhead
      | cons c before => exact hhead

/-- No octet of a folded value ends it. -/
theorem not_ends_of_folded {b : UInt8} {v : Octets} (hv : folded (b :: v) = true)
    (rest : Octets) : ¬ (b = lf ∧ (v ++ lf :: rest).head?.all (!continues ·) = true) := by
  rintro ⟨rfl, hend⟩
  obtain ⟨hnext, -⟩ := Bool.and_eq_true_iff.1 hv
  cases v with
  | nil => cases hnext
  | cons c v => simp_all

/-- A folded value ends at the line feed behind it. -/
theorem splitValue_append {v rest : Octets} (hv : folded v = true) (hrest : startsAfresh rest) :
    splitValue (v ++ lf :: rest) = (v, rest) := by
  induction v with
  | nil =>
    rw [List.nil_append, splitValue, if_pos ⟨rfl, hrest⟩]
  | cons b v ih =>
    rw [List.cons_append, splitValue, if_neg (not_ends_of_folded hv rest)]
    rw [ih (Bool.and_eq_true_iff.1 hv).2]

/-- A value ends at a line feed behind which a field begins, or else at one before it. -/
theorem splitValue_append_cases (v : Octets) {rest : Octets} (hrest : startsAfresh rest) :
    splitValue (v ++ lf :: rest) = (v, rest) ∨
      ∃ value left, v = value ++ lf :: left ∧
        splitValue (v ++ lf :: rest) = (value, left ++ lf :: rest) := by
  induction v with
  | nil => exact Or.inl (splitValue_append rfl hrest)
  | cons b v ih =>
    rw [List.cons_append, splitValue]
    split
    · rename_i hb
      exact Or.inr ⟨[], v, by rw [hb.1, List.nil_append], rfl⟩
    · rcases ih with hwhole | ⟨value, left, rfl, hsplit⟩
      · rw [hwhole]
        exact Or.inl rfl
      · rw [hsplit]
        exact Or.inr ⟨b :: value, left, rfl, rfl⟩

/-- What is left after a value does not go on with it. -/
theorem startsAfresh_splitValue (v : Octets) : startsAfresh (splitValue v).2 := by
  induction v with
  | nil => rfl
  | cons b v ih =>
    rw [splitValue]
    split
    · rename_i h
      exact h.2
    · exact ih

/-- A value goes on behind a line feed when the octets there continue it. -/
theorem splitValue_append_continued {v rest : Octets} (hv : folded v = true)
    (hrest : ¬ startsAfresh rest) :
    (splitValue (v ++ lf :: rest)).2 = (splitValue rest).2 := by
  induction v with
  | nil => rw [List.nil_append, splitValue, if_neg fun h => hrest h.2]
  | cons b v ih =>
    rw [List.cons_append, splitValue, if_neg (not_ends_of_folded hv rest)]
    rw [ih (Bool.and_eq_true_iff.1 hv).2]

/-! ## Lines -/

/-- The octets are the name of a field: no line end and no colon is among them, and they do not
begin like a continued line. -/
def isName (name : Octets) : Bool :=
  name.head?.any (fun b => !continues b && b != cr) && name.all isNameOctet

/-- The line of a field, with the carriage return `ending` or nothing before its line feed. -/
def line (ending name value : Octets) : Octets :=
  name ++ 0x3A :: 0x20 :: value ++ ending ++ [lf]

/-- The field that a line reads as. -/
def ofLine (ending name value : Octets) : Field :=
  ⟨name, dropLineEnds ((0x20 :: value ++ ending).dropWhile (· == 0x20))⟩

theorem line_append (ending name value rest : Octets) : line ending name value ++ rest =
    name ++ 0x3A :: (0x20 :: value ++ ending ++ lf :: rest) := by
  simp [line]

theorem dropWhile_append_cons {p : UInt8 → Bool} (v : Octets) {b : UInt8} (hb : p b = false)
    (w : Octets) : (v ++ b :: w).dropWhile p = v.dropWhile p ++ b :: w := by
  induction v with
  | nil => simp [hb]
  | cons c v ih =>
    rw [List.cons_append, List.dropWhile_cons, List.dropWhile_cons, ih]
    split <;> rfl

theorem takeWhile_append_cons {p : UInt8 → Bool} {v : Octets} (hv : v.all p = true) {b : UInt8}
    (hb : p b = false) (w : Octets) : (v ++ b :: w).takeWhile p = v := by
  rw [List.takeWhile_append_of_pos (List.all_eq_true.1 hv)]
  simp [hb]

theorem dropWhile_name_append {name : Octets} (hname : name.all isNameOctet = true)
    (rest : Octets) : (name ++ 0x3A :: rest).dropWhile isNameOctet = 0x3A :: rest := by
  rw [List.dropWhile_append_of_pos (List.all_eq_true.1 hname)]
  rfl

theorem folded_value {ending value : Octets} (hend : ∀ b ∈ ending, b = cr)
    (hv : folded value = true) : folded (0x20 :: value ++ ending) = true := by
  have hnone : lf ∉ ending := fun h => absurd (hend lf h) (by decide)
  rw [List.cons_append, folded]
  refine Bool.and_eq_true_iff.2 ⟨rfl, ?_⟩
  cases ending with
  | nil => simpa using hv
  | cons b ending =>
    have hafresh : startsAfresh (b :: ending) := by
      rw [hend b List.mem_cons_self]
      rfl
    rw [folded_append hafresh (List.cons_ne_nil _ _), hv, folded_of_not_mem hnone, Bool.and_true]

/-- A line of a field is read as this field when its value is folded and nothing goes on with it. -/
theorem readOne_line {ending name value rest : Octets} (hname : isName name = true)
    (hend : ∀ b ∈ ending, b = cr) (hv : folded value = true) (hrest : startsAfresh rest) :
    readOne (line ending name value ++ rest) = (ofLine ending name value, rest) := by
  obtain ⟨-, hall⟩ := Bool.and_eq_true_iff.1 hname
  rw [line_append, readOne, takeWhile_append_cons hall (by decide), dropWhile_name_append hall]
  simp only
  rw [if_neg (by decide), dropWhile_append_cons _ (by decide),
    splitValue_append (folded_dropWhile (folded_value hend hv)) hrest, ofLine]

theorem startsAfresh_line {ending name value : Octets} (hname : isName name = true)
    (rest : Octets) : startsAfresh (line ending name value ++ rest) := by
  obtain ⟨hhead, -⟩ := Bool.and_eq_true_iff.1 hname
  cases name with
  | nil => cases hhead
  | cons b name =>
    obtain ⟨hb, -⟩ := Bool.and_eq_true_iff.1 (show (!continues b && b != cr) = true from hhead)
    exact hb

/-! ## Blocks -/

/-- What begins neither the body nor a malformed line is read as a field. -/
theorem readBlock_of_isName {bytes name rest : Octets} (hname : isName name = true)
    (hbytes : bytes = name ++ rest) {fields : List Field} {body : Octets}
    (h : readBlock (readOne bytes).2 = .ok (fields, body)) :
    readBlock bytes = .ok ((readOne bytes).1 :: fields, body) := by
  obtain ⟨hhead, hall⟩ := Bool.and_eq_true_iff.1 hname
  cases name with
  | nil => cases hhead
  | cons b name =>
    subst hbytes
    obtain ⟨hb, hcr⟩ := Bool.and_eq_true_iff.1 (show (!continues b && b != cr) = true from hhead)
    have hlf : b ≠ lf := by
      rintro rfl
      cases hall
    have hsp : b ≠ 0x20 := by
      rintro rfl
      cases hb
    rw [List.cons_append] at h ⊢
    rw [readBlock.eq_def]
    simp only [hlf, if_false, hsp, h, show b ≠ cr by simpa using hcr]

/-- The first field of a block, and the rest of the block. -/
theorem readBlock_cons {bytes body : Octets} {f : Field} {fields : List Field}
    (h : readBlock bytes = .ok (f :: fields, body)) :
    (readOne bytes).1 = f ∧ readBlock (readOne bytes).2 = .ok (fields, body) := by
  rw [readBlock.eq_def] at h
  split at h
  · cases h
  · split at h
    · cases h
    · split at h
      · split at h
        · split at h <;> cases h
        · cases h
      · split at h
        · cases h
        · split at h
          · rename_i hrest
            simp only [Except.ok.injEq, Prod.mk.injEq, List.cons.injEq] at h
            obtain ⟨⟨hf, rfl⟩, rfl⟩ := h
            exact ⟨hf, hrest⟩
          · cases h

/-- When the octets behind a line go on with it, its field takes their first line along. -/
theorem readOne_line_continued {ending name value rest : Octets} (hname : isName name = true)
    (hend : ∀ b ∈ ending, b = cr) (hv : folded value = true) (hrest : ¬ startsAfresh rest) :
    (readOne (line ending name value ++ rest)).2 = (splitValue rest).2 := by
  obtain ⟨-, hall⟩ := Bool.and_eq_true_iff.1 hname
  rw [line_append, readOne, dropWhile_name_append hall]
  simp only
  rw [if_neg (by decide), dropWhile_append_cons _ (by decide),
    splitValue_append_continued (folded_dropWhile (folded_value hend hv)) hrest]

/-- The octets after so many fields. -/
def skip : ℕ → Octets → Octets
  | 0, bytes => bytes
  | n + 1, bytes => skip n (readOne bytes).2

theorem skip_add (a b : ℕ) (bytes : Octets) : skip (a + b) bytes = skip b (skip a bytes) := by
  induction a generalizing bytes with
  | zero => rw [Nat.zero_add, skip]
  | succ a ih => rw [Nat.succ_add, skip, skip, ih]

theorem readBlock_skip {bytes body : Octets} {fields : List Field}
    (h : readBlock bytes = .ok (fields, body)) {n : ℕ} (hn : n ≤ fields.length) :
    readBlock (skip n bytes) = .ok (fields.drop n, body) := by
  induction n generalizing bytes fields with
  | zero => exact h
  | succ n ih =>
    obtain ⟨f, fields, rfl⟩ := List.exists_cons_of_length_pos (Nat.lt_of_lt_of_le n.succ_pos hn)
    exact ih (readBlock_cons h).2 (Nat.le_of_succ_le_succ hn)

section Lines

variable {ending : Octets} {es : List (Octets × Octets)}

/-- **Lines in front of a block.**  Lines of fields whose values are folded are read as these
fields, and the block behind them as it was. -/
theorem readBlock_lines (hend : ∀ b ∈ ending, b = cr) (hnames : ∀ e ∈ es, isName e.1 = true)
    (hvalues : ∀ e ∈ es, folded e.2 = true) {rest body : Octets} {fields : List Field}
    (hrest : startsAfresh rest) (h : readBlock rest = .ok (fields, body)) :
    readBlock (es.flatMap (fun e => line ending e.1 e.2) ++ rest) =
      .ok (es.map (fun e => ofLine ending e.1 e.2) ++ fields, body) := by
  -- that the next line begins a field is carried along, for the line before it ends only then
  suffices startsAfresh (es.flatMap (fun e => line ending e.1 e.2) ++ rest) ∧ _ from this.2
  induction es with
  | nil => exact ⟨hrest, h⟩
  | cons e es ih =>
    obtain ⟨hafresh, hblock⟩ := ih (fun e he => hnames e (List.mem_cons_of_mem _ he))
      (fun e he => hvalues e (List.mem_cons_of_mem _ he))
    have hname := hnames e List.mem_cons_self
    rw [List.flatMap_cons, List.append_assoc]
    refine ⟨startsAfresh_line hname _, ?_⟩
    have hone := readOne_line hname hend (hvalues e List.mem_cons_self) hafresh
    rw [readBlock_of_isName hname (line_append ..) (by rw [hone]; exact hblock), hone]
    rfl

theorem skip_lines (hend : ∀ b ∈ ending, b = cr) (hnames : ∀ e ∈ es, isName e.1 = true)
    (hvalues : ∀ e ∈ es, folded e.2 = true) {rest : Octets} (hrest : startsAfresh rest) :
    skip es.length (es.flatMap (fun e => line ending e.1 e.2) ++ rest) = rest := by
  suffices startsAfresh (es.flatMap (fun e => line ending e.1 e.2) ++ rest) ∧ _ from this.2
  induction es with
  | nil => exact ⟨hrest, rfl⟩
  | cons e es ih =>
    obtain ⟨hafresh, hskip⟩ := ih (fun e he => hnames e (List.mem_cons_of_mem _ he))
      (fun e he => hvalues e (List.mem_cons_of_mem _ he))
    have hname := hnames e List.mem_cons_self
    rw [List.flatMap_cons, List.append_assoc]
    refine ⟨startsAfresh_line hname _, ?_⟩
    rw [List.length_cons, skip, readOne_line hname hend (hvalues e List.mem_cons_self) hafresh]
    exact hskip

end Lines

/-! ## Octets in front of a block -/

theorem name_readOne (bytes : Octets) : (readOne bytes).1.name = bytes.takeWhile isNameOctet := by
  unfold readOne
  split
  · rfl
  · split <;> rfl

theorem dropLineEnds_sublist (value : Octets) : (dropLineEnds value).Sublist value := by
  have h := (List.dropWhile_sublist (fun b => b == cr || b == lf) (l := value.reverse)).reverse
  rwa [List.reverse_reverse] at h

/-- A field is read up to a line feed behind which another begins, or not as far; its value stands
behind a colon. -/
theorem readOne_append_cases (before : Octets) {rest : Octets} (hrest : startsAfresh rest) :
    ((readOne (before ++ lf :: rest)).1.value = [] ∨
        (0x3A :: (readOne (before ++ lf :: rest)).1.value).Sublist before) ∧
      ((readOne (before ++ lf :: rest)).2 = rest ∨
        ∃ left, left.Sublist before ∧ left.length < before.length ∧
          (readOne (before ++ lf :: rest)).2 = left ++ lf :: rest) := by
  rw [readOne, dropWhile_append_cons before (by decide)]
  have hsub := List.dropWhile_sublist isNameOctet (l := before)
  have hstop := List.head?_dropWhile_not isNameOctet before
  cases hafter : before.dropWhile isNameOctet with
  | nil => exact ⟨Or.inl rfl, Or.inl rfl⟩
  | cons b after =>
    rw [hafter] at hsub hstop
    have hlength := hsub.length_le
    rw [List.length_cons] at hlength
    rw [List.cons_append]
    simp only
    split
    · have hleft := (List.sublist_cons_self b after).trans hsub
      exact ⟨Or.inl rfl, Or.inr ⟨after, hleft, hlength, rfl⟩⟩
    · rename_i hb
      -- the octet that ends the name is a colon
      obtain rfl : b = 0x3A := by simpa [isNameOctet, hb] using hstop
      have hvalue := List.dropWhile_sublist (· == 0x20) (l := after)
      rw [dropWhile_append_cons after (by decide)]
      rcases splitValue_append_cases (after.dropWhile (· == 0x20)) hrest with
        hsplit | ⟨value, left, hv, hsplit⟩
      · rw [hsplit]
        have hcolon := (((dropLineEnds_sublist _).trans hvalue).cons_cons 0x3A).trans hsub
        exact ⟨Or.inr hcolon, Or.inl rfl⟩
      · rw [hsplit]
        rw [hv] at hvalue
        have hvalue' := (List.sublist_append_left value (lf :: left)).trans hvalue
        have hleft := ((List.sublist_cons_self lf left).trans
          (List.sublist_append_right value _)).trans hvalue
        have hcolon := (((dropLineEnds_sublist value).trans hvalue').cons_cons 0x3A).trans hsub
        exact ⟨Or.inr hcolon, Or.inr ⟨left, (hleft.cons 0x3A).trans hsub,
          Nat.lt_of_le_of_lt hleft.length_le hlength, rfl⟩⟩

/-- A block without fields begins with a line end. -/
theorem head?_of_readBlock_nil {b : UInt8} {bytes body : Octets}
    (h : readBlock (b :: bytes) = .ok ([], body)) : b = lf ∨ b = cr := by
  rw [readBlock.eq_def] at h
  simp only at h
  split at h
  · exact Or.inl ‹_›
  · split at h
    · exact Or.inr ‹_›
    · split at h
      · cases h
      · split at h <;> cases h

/-- A block that can be read begins afresh unless it begins with a tab. -/
theorem startsAfresh_iff_of_readBlock {bytes body : Octets} {fields : List Field}
    (h : readBlock bytes = .ok (fields, body)) :
    startsAfresh bytes ↔ bytes.head? ≠ some 0x09 := by
  cases bytes with
  | nil => exact iff_of_true rfl (by simp)
  | cons b rest =>
    have hspace : b ≠ 0x20 := by
      rintro rfl
      rw [readBlock.eq_def] at h
      cases h
    simp [startsAfresh, continues, hspace]

/-- Octets that do not begin with a line end are read as a field first. -/
theorem exists_cons_of_readBlock {b : UInt8} {bytes body : Octets} {fields : List Field}
    (h : readBlock (b :: bytes) = .ok (fields, body)) (hlf : b ≠ lf) (hcr : b ≠ cr) :
    ∃ f later, fields = f :: later ∧ f.name = (b :: bytes).takeWhile isNameOctet := by
  cases fields with
  | nil =>
    rcases head?_of_readBlock_nil h with hb | hb
    · exact absurd hb hlf
    · exact absurd hb hcr
  | cons f later => exact ⟨f, later, rfl, by rw [← (readBlock_cons h).1, name_readOne]⟩

/-- A line of a field is read as a field of its name first, whatever its value is. -/
theorem exists_cons_of_readBlock_line {ending name value rest body : Octets} {fields : List Field}
    (hname : isName name = true)
    (h : readBlock (line ending name value ++ rest) = .ok (fields, body)) :
    ∃ f later, fields = f :: later ∧ f.name = name := by
  obtain ⟨hhead, hall⟩ := Bool.and_eq_true_iff.1 hname
  rw [line_append] at h
  cases name with
  | nil => cases hhead
  | cons b name =>
    obtain ⟨-, hcr⟩ := Bool.and_eq_true_iff.1 (show (!continues b && b != cr) = true from hhead)
    have hlf : b ≠ lf := by
      rintro rfl
      cases hall
    obtain ⟨f, later, hfields, hf⟩ := exists_cons_of_readBlock h hlf (by simpa using hcr)
    exact ⟨f, later, hfields, hf.trans (takeWhile_append_cons hall (by decide) _)⟩

/-- **Octets in front of a block.**  When octets that end at a line feed are read together with the
block behind them, the values of all fields stand in these octets, because the block ends there, or
the fields are some of their own and then those of the block behind. -/
theorem readBlock_append_cases {before rest body : Octets} {fields : List Field}
    (hrest : startsAfresh rest) (h : readBlock (before ++ lf :: rest) = .ok (fields, body)) :
    (∀ f ∈ fields, f.value = [] ∨ (0x3A :: f.value).Sublist before) ∨
      ∃ own later, own ≠ [] ∧ fields = own ++ later ∧ readBlock rest = .ok (later, body) := by
  -- each field that is read leaves less in front of the block
  induction hn : before.length using Nat.strong_induction_on generalizing before fields with
  | _ n ih =>
    cases fields with
    | nil => exact Or.inl (by simp)
    | cons f fields =>
      obtain ⟨hf, hfields⟩ := readBlock_cons h
      obtain ⟨hvalue, hnext⟩ := readOne_append_cases before hrest
      rw [hf] at hvalue
      rcases hnext with hnext | ⟨left, hleft, hlt, hnext⟩
      · rw [hnext] at hfields
        exact Or.inr ⟨[f], fields, List.cons_ne_nil _ _, rfl, hfields⟩
      · rw [hnext] at hfields
        rcases ih left.length (hn ▸ hlt) hfields rfl with hvalues | ⟨own, later, -, rfl, hlater⟩
        · refine Or.inl (List.forall_mem_cons.2 ⟨hvalue, fun g hg => ?_⟩)
          exact (hvalues g hg).imp id fun hsub => hsub.trans hleft
        · exact Or.inr ⟨f :: own, later, List.cons_ne_nil _ _, rfl, hlater⟩

section Lines

variable {ending : Octets}

/-- Of lines that a line feed in the last one ends early, this rest is left when as many fields have
been read as there are lines. -/
theorem skip_broken_line (hend : ∀ b ∈ ending, b = cr) {es : List (Octets × Octets)}
    (hnames : ∀ e ∈ es, isName e.1 = true) (hvalues : ∀ e ∈ es, folded e.2 = true)
    {name value left : Octets} (hname : isName name = true) (hvalue : folded value = true)
    (hleft : startsAfresh left) (hne : left ≠ []) (rest : Octets) :
    skip (es.length + 1) (es.flatMap (fun e => line ending e.1 e.2) ++
      (line ending name (value ++ lf :: left) ++ rest)) = left ++ ending ++ lf :: rest := by
  -- the broken line is a shorter line, and then what is left of its value
  have hbroken : line ending name (value ++ lf :: left) ++ rest =
      line [] name value ++ (left ++ ending ++ lf :: rest) := by
    simp [line]
  have hafresh : startsAfresh (left ++ ending ++ lf :: rest) := by
    obtain ⟨b, left, rfl⟩ := List.exists_cons_of_ne_nil hne
    exact hleft
  rw [skip_add, skip_lines hend hnames hvalues (startsAfresh_line hname _), hbroken, skip, skip,
    readOne_line hname (by simp) hvalue hafresh]

/-- Of lines with the last of which the block behind them goes on, only the rest of the block behind
its first value is left. -/
theorem skip_lines_continued (hend : ∀ b ∈ ending, b = cr) {es : List (Octets × Octets)}
    (hne : es ≠ []) (hnames : ∀ e ∈ es, isName e.1 = true) (hvalues : ∀ e ∈ es, folded e.2 = true)
    {rest : Octets} (hrest : ¬ startsAfresh rest) :
    skip es.length (es.flatMap (fun e => line ending e.1 e.2) ++ rest) = (splitValue rest).2 := by
  obtain ⟨init, last, rfl⟩ := List.eq_nil_or_concat' es |>.resolve_left hne
  have hname := hnames last (by simp)
  have hlines : (init ++ [last]).flatMap (fun e => line ending e.1 e.2) ++ rest =
      init.flatMap (fun e => line ending e.1 e.2) ++ (line ending last.1 last.2 ++ rest) := by
    simp
  rw [List.length_append, hlines, skip_add,
    skip_lines hend (fun e he => hnames e (List.mem_append_left _ he))
      (fun e he => hvalues e (List.mem_append_left _ he)) (startsAfresh_line hname _),
    List.length_singleton, skip, skip,
    readOne_line_continued hname hend (hvalues last (by simp)) hrest]

end Lines

end Postroom.Field
