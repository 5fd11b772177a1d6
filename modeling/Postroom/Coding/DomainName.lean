import Postroom.Coding.Punycode
import Postroom.Unicode.Direction
import Postroom.Unicode.DomainMap
import Postroom.Unicode.Normal

/-!
# Domain names in ASCII

A domain name may be written with the letters of any script; its servers know it in ASCII.
`DomainName.toAscii?` maps what was written to lowercase letters in composed form, takes labels that
are in ASCII form already back to their letters, refuses what may not stand in a name, and puts
labels that are not ASCII into ASCII form.
-/

namespace Postroom.DomainName

/-- What a label in ASCII form begins with. -/
def acePrefix : Text := "xn--".toList

/-- The label begins with a character that stands on its own, and all of it may stand in a name. -/
def isValid (label : Text) : Bool :=
  label.head?.all (fun c => (Unicode.category c).major ≠ some 'M')
    && label.all Unicode.DomainMap.admitted.mem

/-- A label in the letters that people see, if it may stand in a name. -/
def visible? (label : Text) : Option Text :=
  match Text.stripFront acePrefix label with
  | some word =>
    (Punycode.decode? word).filter fun t => Unicode.Normal.isComposed t && isValid t
  | none => if isValid label then some label else none

/-- The ASCII form of a label. -/
def asciiLabel (label : Text) : Text :=
  if label.all (·.toNat < 0x80) then label else acePrefix ++ Punycode.encode label

/-- The ASCII form of a domain name, if it has one. -/
def toAscii? (domain : Text) : Option Text := do
  let mapped ← domain.mapM Unicode.DomainMap.image?
  let labels ← (Text.pieces (· == '.') (Unicode.Normal.compose mapped.flatten)).mapM visible?
  if labels.any Unicode.Direction.isMixed ∧ !labels.all Unicode.Direction.isOrdered then none
  else some (Text.join ['.'] (labels.map asciiLabel))

end Postroom.DomainName
