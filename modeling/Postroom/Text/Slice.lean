import Postroom.Text.Basic

/-!
# Slices of texts

An offset in a text counts the octets that stand before it in UTF-8.  A text is cut at an offset, or
between two of them, and this fails where an offset falls within a character or behind the end:
`Text.splitAt?_eq_some_iff` says what stands on either side of a cut, and
`Text.slice?_isSome_iff` when there is a slice at all.
-/

namespace Postroom.Text

/-- How many octets a text takes in UTF-8. -/
def octetCount (t : Text) : Nat :=
  total (t.map Char.utf8Size)

/-- The characters of a text, each with its offset; the first one stands at `offset`. -/
def indexedFrom (offset : Nat) : Text → List (Nat × Char)
  | [] => []
  | c :: rest => (offset, c) :: indexedFrom (offset + c.utf8Size) rest

/-- What stands before an offset and what stands behind it. -/
def splitAt? (offset : Nat) : Text → Option (Text × Text)
  | [] => if offset = 0 then some ([], []) else none
  | c :: rest =>
    if offset = 0 then some ([], c :: rest)
    else if c.utf8Size ≤ offset then
      (splitAt? (offset - c.utf8Size) rest).map fun parts => (c :: parts.1, parts.2)
    else none

/-- What stands between two offsets. -/
def slice? (t : Text) (start stop : Nat) : Option Text :=
  (splitAt? stop t).bind fun upTo => (splitAt? start upTo.1).map (·.2)

/-- The offset stands between two characters, or at one of the ends of the text. -/
def IsBoundary (t : Text) (offset : Nat) : Prop :=
  String.Pos.Raw.IsValid (String.ofList t) ⟨offset⟩

variable {t front back part : Text} {offset start stop : Nat}

@[simp] theorem octetCount_nil : octetCount [] = 0 := rfl

@[simp] theorem octetCount_cons (c : Char) (t : Text) :
    octetCount (c :: t) = c.utf8Size + octetCount t := rfl

@[simp] theorem octetCount_append (s t : Text) :
    octetCount (s ++ t) = octetCount s + octetCount t := by
  induction s with
  | nil => simp
  | cons c s ih => rw [List.cons_append, octetCount_cons, octetCount_cons, ih, Nat.add_assoc]

/-- The next character stands behind all that has been read. -/
theorem indexedFrom_cons (t : Text) (c : Char) (rest : Text) :
    indexedFrom (octetCount t) (c :: rest) =
      (octetCount t, c) :: indexedFrom (octetCount (t ++ [c])) rest := by
  rw [octetCount_append, octetCount_cons, octetCount_nil, Nat.add_zero, indexedFrom]

theorem octetCount_eq_zero_iff : octetCount t = 0 ↔ t = [] := by
  cases t with
  | nil => simp
  | cons c t =>
    have hpos := c.utf8Size_pos
    simp only [octetCount_cons, reduceCtorEq, iff_false]
    omega

theorem utf8ByteSize_ofList (t : Text) : (String.ofList t).utf8ByteSize = octetCount t := by
  rw [← String.size_toByteArray, String.toByteArray_ofList]
  induction t with
  | nil => rfl
  | cons c t ih =>
    rw [List.utf8Encode_cons, ByteArray.size_append, List.utf8Encode_singleton,
      List.size_toByteArray, String.length_utf8EncodeChar, ih, octetCount_cons]

/-- The boundaries of a text are the sizes of what it begins with. -/
theorem isBoundary_iff :
    IsBoundary t offset ↔ ∃ front back, t = front ++ back ∧ octetCount front = offset := by
  unfold IsBoundary
  rw [String.Pos.Raw.isValid_ofList]
  simp only [utf8ByteSize_ofList]
  constructor
  · rintro ⟨n, hn⟩
    exact ⟨t.take n, t.drop n, (List.take_append_drop n t).symm, hn.symm⟩
  · rintro ⟨front, back, rfl, hfront⟩
    refine ⟨front.length, ?_⟩
    rw [List.take_left]
    exact hfront.symm

theorem splitAt?_append (front back : Text) :
    splitAt? (octetCount front) (front ++ back) = some (front, back) := by
  induction front with
  | nil => cases back <;> rfl
  | cons c front ih =>
    have hpos := c.utf8Size_pos
    rw [List.cons_append, splitAt?, octetCount_cons, if_neg (by omega), if_pos (by omega),
      Nat.add_sub_cancel_left, ih]
    rfl

theorem of_splitAt? (h : splitAt? offset t = some (front, back)) :
    t = front ++ back ∧ octetCount front = offset := by
  induction t generalizing offset front with
  | nil =>
    unfold splitAt? at h
    split at h
    · rename_i hzero
      obtain ⟨rfl, rfl⟩ := Prod.mk.inj (Option.some.inj h)
      exact ⟨rfl, hzero.symm⟩
    · cases h
  | cons c t ih =>
    unfold splitAt? at h
    split at h
    · rename_i hzero
      obtain ⟨rfl, rfl⟩ := Prod.mk.inj (Option.some.inj h)
      exact ⟨rfl, hzero.symm⟩
    · split at h
      · rename_i hle
        obtain ⟨⟨front, back⟩, hrest, heq⟩ := Option.map_eq_some_iff.1 h
        obtain ⟨rfl, rfl⟩ := Prod.mk.inj heq
        obtain ⟨rfl, hcount⟩ := ih hrest
        refine ⟨rfl, ?_⟩
        rw [octetCount_cons, hcount]
        omega
      · cases h

/-- A text is cut into what takes as many octets as the offset counts, and the rest. -/
theorem splitAt?_eq_some_iff :
    splitAt? offset t = some (front, back) ↔ t = front ++ back ∧ octetCount front = offset := by
  constructor
  · exact of_splitAt?
  · rintro ⟨rfl, rfl⟩
    exact splitAt?_append front back

theorem slice?_eq_some_iff :
    slice? t start stop = some part ↔
      ∃ front back, t = front ++ part ++ back ∧ octetCount front = start ∧
        octetCount (front ++ part) = stop := by
  unfold slice?
  constructor
  · intro h
    obtain ⟨⟨upTo, back⟩, hstop, h⟩ := Option.bind_eq_some_iff.1 h
    obtain ⟨⟨front, last⟩, hstart, rfl⟩ := Option.map_eq_some_iff.1 h
    obtain ⟨rfl, rfl⟩ := splitAt?_eq_some_iff.1 hstop
    obtain ⟨hupTo, rfl⟩ := splitAt?_eq_some_iff.1 hstart
    obtain rfl : upTo = front ++ last := hupTo
    exact ⟨front, back, rfl, rfl, rfl⟩
  · rintro ⟨front, back, rfl, rfl, rfl⟩
    rw [splitAt?_append, Option.bind_some, splitAt?_append, Option.map_some]

/-- There is a slice between two boundaries that are in order, and between no other offsets. -/
theorem slice?_isSome_iff :
    (slice? t start stop).isSome ↔ start ≤ stop ∧ IsBoundary t start ∧ IsBoundary t stop := by
  rw [Option.isSome_iff_exists]
  constructor
  · rintro ⟨part, h⟩
    obtain ⟨front, back, rfl, rfl, rfl⟩ := slice?_eq_some_iff.1 h
    refine ⟨?_, ?_, ?_⟩
    · rw [octetCount_append]
      exact Nat.le_add_right _ _
    · exact isBoundary_iff.2 ⟨front, part ++ back, List.append_assoc .., rfl⟩
    · exact isBoundary_iff.2 ⟨front ++ part, back, rfl, rfl⟩
  · rintro ⟨hle, hstart, hstop⟩
    obtain ⟨front, rest, rfl, rfl⟩ := isBoundary_iff.1 hstart
    obtain ⟨upTo, back, heq, rfl⟩ := isBoundary_iff.1 hstop
    rcases List.append_eq_append_iff.1 heq with ⟨part, rfl, rfl⟩ | ⟨part, rfl, rfl⟩
    · exact ⟨part, slice?_eq_some_iff.2 ⟨front, back, (List.append_assoc ..).symm, rfl, rfl⟩⟩
    · -- the second offset comes first, so nothing stands between the two
      rw [octetCount_append] at hle
      obtain rfl : part = [] := octetCount_eq_zero_iff.1 (by omega)
      exact ⟨[], slice?_eq_some_iff.2 ⟨upTo, rest, by simp, by simp, by simp⟩⟩

example : slice? "aü".toList 1 3 = some ['ü'] ∧ slice? "aü".toList 1 2 = none := by decide

end Postroom.Text
