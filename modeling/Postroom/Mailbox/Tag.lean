import Postroom.Text.Basic

/-!
# Tags

Tags are the user's own labels.  A message carries them by number, and the list of the numbers is
written with commas.
-/

namespace Postroom

/-- The number of a tag. -/
abbrev TagId := UInt32

/-- A label of the user's own. -/
structure Tag where
  id : TagId
  name : Text
deriving DecidableEq, Repr

/-- The list of tag numbers as it is kept with a message: decimal numbers with commas between. -/
def TagId.renderAll (ids : List TagId) : Text :=
  Text.join [','] (ids.map fun id => Text.ofNat id.toNat)

end Postroom
