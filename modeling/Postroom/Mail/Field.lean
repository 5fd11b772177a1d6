import Postroom.Text.Utf8

/-!
# The header block

A message begins with fields, each a name, a colon and a value; the block ends at an empty line or
with the message.  A value goes on as long as the next line begins with a space or a tab.  The
reading is lenient: a line without a colon is a field without a value.  Only two things are refused,
a first line that continues nothing and a carriage return that stands where a field should begin.

* `Field.readOne` — one field and what stands after it, always less than there was;
* `Field.readBlock` — all fields and the body.
-/

namespace Postroom

/-- A header field as it stands in the message. -/
structure Field where
  name : Octets
  value : Octets
deriving DecidableEq, Repr

/-- Why a header block cannot be read. -/
inductive HeaderError where
  /-- A field begins with a space. -/
  | overhangingLine
  /-- A carriage return without a line feed stands where a field should begin. -/
  | loneReturn
deriving DecidableEq, Repr

/-- The wording of the cause. -/
def HeaderError.message : HeaderError → Text
  | .overhangingLine =>
    ("Header cannot start with a space; it is likely an overhanging line from a previous "
      ++ "header").toList
  | .loneReturn => "Headers were followed by an unexpected lone CR character!".toList

namespace Field

/-- A line feed. -/
def lf : UInt8 := 0x0A

/-- A carriage return. -/
def cr : UInt8 := 0x0D

/-- A line that begins with this octet continues the field before it. -/
def continues (b : UInt8) : Bool :=
  b == 0x20 || b == 0x09

/-- Splits octets at the first line feed that no continuation follows; the line feed is dropped. -/
def splitValue : Octets → Octets × Octets
  | [] => ([], [])
  | b :: rest =>
    if b = lf ∧ rest.head?.all (!continues ·) then ([], rest)
    else
      let (value, after) := splitValue rest
      (b :: value, after)

/-- A value without the line ends at its end. -/
def dropLineEnds (value : Octets) : Octets :=
  (value.reverse.dropWhile fun b => b == cr || b == lf).reverse

/-- The octet is neither the end of a name nor the end of a line. -/
def isNameOctet (b : UInt8) : Bool :=
  b != 0x3A && b != lf

/-- Reads the field at the head of the octets. -/
def readOne (bytes : Octets) : Field × Octets :=
  let name := bytes.takeWhile isNameOctet
  match bytes.dropWhile isNameOctet with
  | [] => (⟨name, []⟩, [])
  | b :: rest =>
    if b = lf then (⟨name, []⟩, rest)
    else
      let (value, after) := splitValue (rest.dropWhile (· == 0x20))
      (⟨name, dropLineEnds value⟩, after)

theorem length_splitValue (bytes : Octets) : (splitValue bytes).2.length ≤ bytes.length := by
  induction bytes with
  | nil => simp [splitValue]
  | cons b rest ih =>
    unfold splitValue
    split
    · simp
    · simp only [List.length_cons]
      omega

theorem length_dropWhile_le (p : UInt8 → Bool) (bytes : Octets) :
    (bytes.dropWhile p).length ≤ bytes.length :=
  (List.dropWhile_sublist p).length_le

theorem length_readOne {bytes : Octets} (h : bytes ≠ []) :
    (readOne bytes).2.length < bytes.length := by
  have pos : 0 < bytes.length := List.length_pos_iff.2 h
  have whole := length_dropWhile_le isNameOctet bytes
  unfold readOne
  split
  · simpa using pos
  · rename_i b rest heq
    rw [heq, List.length_cons] at whole
    split
    · simp only
      omega
    · have := length_splitValue (rest.dropWhile (· == 0x20))
      have := length_dropWhile_le (· == 0x20) rest
      simp only
      omega

/-- Reads the fields up to the empty line, and the body after it. -/
def readBlock (bytes : Octets) : Except HeaderError (List Field × Octets) :=
  match _h : bytes with
  | [] => .ok ([], [])
  | b :: rest =>
    if b = lf then .ok ([], rest)
    else if b = cr then
      match rest with
      | c :: body => if c = lf then .ok ([], body) else .error .loneReturn
      | [] => .error .loneReturn
    else if b = 0x20 then .error .overhangingLine
    else
      match readBlock (readOne bytes).2 with
      | .ok (fields, body) => .ok ((readOne bytes).1 :: fields, body)
      | .error e => .error e
termination_by bytes.length
decreasing_by
  rw [← _h]
  exact length_readOne (by simp [_h])

theorem length_readBlock {bytes body : Octets} {fields : List Field}
    (h : readBlock bytes = .ok (fields, body)) : body.length ≤ bytes.length := by
  fun_induction readBlock bytes generalizing fields with
  | case1 => cases h; simp
  | case2 => cases h; simp
  | case3 => cases h; simp only [List.length_cons]; omega
  | case4 => cases h
  | case5 => cases h
  | case6 => cases h
  | case7 b rest _ _ _ more inner hrec ih =>
    rw [hrec] at h
    cases h
    have := ih hrec
    have := length_readOne (List.cons_ne_nil b rest)
    omega
  | case8 _ _ _ _ _ _ hrec =>
    rw [hrec] at h
    cases h

end Field

end Postroom
