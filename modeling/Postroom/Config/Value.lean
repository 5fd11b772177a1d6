import Postroom.Text.Basic

/-!
# Configuration values

A configuration comes as a value of a few plain kinds, whatever notation it is written in.  A
structure is given by a record, or by the list of its fields in order; unknown fields of a record do
not matter.

* `Value.slots?` — the fields of a structure;
* `Slot.text?`, `Slot.optionalText?`, … — what a field holds.
-/

namespace Postroom.Config

/-- A value of a configuration. -/
inductive Value where
  | null
  | bool (b : Bool)
  | int (n : Int)
  /-- A number that is not written as an integer. -/
  | fraction
  | text (t : Text)
  | list (items : List Value)
  | record (fields : List (Text × Value))
deriving Inhabited

/-- What is given for a field, if anything is. -/
abbrev Slot := Option Value

/-- The fields of a structure, in the order of `names`.  A list has to give all of them but the last
`omittable`, and nothing else. -/
def Value.slots? (names : List String) (omittable : Nat) : Value → Option (List Slot)
  | .record fields => some (names.map fun name => fields.lookup name.toList)
  | .list items =>
    if items.length ≤ names.length ∧ names.length ≤ items.length + omittable then
      some (items.map some ++ List.replicate (names.length - items.length) none)
    else none
  | _ => none

namespace Slot

/-- The text that a field has to hold. -/
def text? : Slot → Option Text
  | some (.text t) => some t
  | _ => none

/-- The text that a field may hold. -/
def optionalText? : Slot → Option (Option Text)
  | none | some .null => some none
  | some (.text t) => some (some t)
  | _ => none

/-- The switch that a field may hold. -/
def optionalBool? : Slot → Option (Option Bool)
  | none | some .null => some none
  | some (.bool b) => some (some b)
  | _ => none

/-- The port number that a field has to hold. -/
def port? : Slot → Option UInt16
  | some (.int n) => if 0 ≤ n ∧ n < 65536 then some (UInt16.ofNat n.toNat) else none
  | _ => none

/-- The table of texts that a field holds; it is empty for a field that is not there. -/
def table? : Slot → Option (List (Text × Text))
  | none => some []
  | some (.record fields) =>
    fields.mapM fun
      | (name, .text t) => some (name, t)
      | _ => none
  | _ => none

end Slot

end Postroom.Config
