import Postroom.Mail.ContentType
import Postroom.Mail.Message

/-!
# Messages of several parts

A message whose content type is `multipart/…` is made of parts, each with fields of its own, between
lines that begin with the boundary.  `Multipart.check` reads the fields of a message and of all its
parts, and fails where one of these header blocks is malformed.
-/

namespace Postroom.Multipart

/-- What stands before and after the first line that begins with a mark and goes on behind it;
`fresh` tells whether the octets begin a line. -/
def splitAtLine (mark : Octets) (fresh : Bool) (bytes : Octets) : Option (Octets × Octets) :=
  if fresh ∧ mark.isPrefixOf bytes ∧ bytes.drop mark.length ≠ [] then
    some ([], bytes.drop mark.length)
  else
    match bytes with
    | [] => none
    | b :: rest =>
      match splitAtLine mark (b == Field.lf) rest with
      | some (before, after) => some (b :: before, after)
      | none => none

theorem length_splitAtLine {mark bytes before after : Octets} {fresh : Bool}
    (h : splitAtLine mark fresh bytes = some (before, after)) :
    before.length + mark.length + after.length = bytes.length := by
  induction bytes generalizing fresh before after with
  | nil =>
    unfold splitAtLine at h
    split at h
    · rename_i hp
      cases h
      have := List.IsPrefix.length_le (List.isPrefixOf_iff_prefix.1 hp.2.1)
      simp only [List.length_nil, List.length_drop] at *
      omega
    · cases h
  | cons b rest ih =>
    unfold splitAtLine at h
    split at h
    · rename_i hp
      cases h
      have := List.IsPrefix.length_le (List.isPrefixOf_iff_prefix.1 hp.2.1)
      simp only [List.length_nil, List.length_drop] at *
      omega
    · simp only at h
      split at h
      · rename_i heq
        cases h
        have := ih heq
        simp only [List.length_cons]
        omega
      · cases h

/-- Octets without the line end at their end. -/
def dropLineEnd (bytes : Octets) : Octets :=
  match bytes.reverse with
  | 0x0A :: 0x0D :: rest => rest.reverse
  | 0x0A :: rest => rest.reverse
  | _ => bytes

theorem length_dropLineEnd (bytes : Octets) : (dropLineEnd bytes).length ≤ bytes.length := by
  have key : bytes.reverse.length = bytes.length := List.length_reverse
  unfold dropLineEnd
  split
  · rename_i heq
    rw [heq] at key
    simp only [List.length_cons, List.length_reverse] at *
    omega
  · rename_i heq
    rw [heq] at key
    simp only [List.length_cons, List.length_reverse] at *
    omega
  · exact Nat.le_refl _

/-- What stands behind the end of the line at hand. -/
def afterLine? : Octets → Option Octets
  | [] => none
  | b :: rest => if b = Field.lf then some rest else afterLine? rest

theorem length_afterLine {bytes rest : Octets} (h : afterLine? bytes = some rest) :
    rest.length < bytes.length := by
  induction bytes with
  | nil => simp [afterLine?] at h
  | cons b bytes ih =>
    unfold afterLine? at h
    split at h
    · cases h
      simp
    · have := ih h
      simp only [List.length_cons]
      omega

/-- The value of the first `Content-Type` field among fields. -/
def contentType (fields : List Field) : ContentType :=
  match (fields.map Message.readField).find? fun f =>
      Text.sameName f.1 "Content-Type".toList with
  | some f => ContentType.parse f.2
  | none => ⟨"text/plain".toList, []⟩

/-- The octets of the boundary of a message with these fields, if it has parts. -/
def boundary? (fields : List Field) : Option Octets :=
  (contentType fields).boundary?.map Utf8.encode

/-- What a line between parts begins with: two hyphens and the boundary. -/
def mark (boundary : Octets) : Octets :=
  0x2D :: 0x2D :: boundary

/-- No part follows: there is no room for one, or the boundary ends with two hyphens. -/
def isLast (after : Octets) : Bool :=
  after.length < 2 || after.take 2 == [0x2D, 0x2D]

mutual

/-- Reads the fields of a message and of all its parts. -/
def check (bytes : Octets) : Except HeaderError Unit :=
  match _h : Field.readBlock bytes with
  | .error e => .error e
  | .ok (fields, body) =>
    match boundary? fields with
    | none => .ok ()
    | some boundary =>
      match _h' : splitAtLine (mark boundary) true body with
      | none => .ok ()
      | some (_, after) => checkParts boundary after
termination_by bytes.length
decreasing_by
  have := Field.length_readBlock _h
  have := length_splitAtLine _h'
  simp only [mark, List.length_cons] at this
  omega

/-- Reads the parts that follow behind a boundary. -/
def checkParts (boundary after : Octets) : Except HeaderError Unit :=
  match _h : afterLine? after with
  | none => .ok ()
  | some start =>
    match _h' : splitAtLine (mark boundary) true start with
    | none => check start
    | some (part, next) =>
      match check (dropLineEnd part) with
      | .error e => .error e
      | .ok () => if isLast next then .ok () else checkParts boundary next
termination_by after.length
decreasing_by
  · exact length_afterLine _h
  · have := length_afterLine _h
    have := length_splitAtLine _h'
    have := length_dropLineEnd part
    omega
  · have := length_afterLine _h
    have := length_splitAtLine _h'
    omega

end

end Postroom.Multipart
