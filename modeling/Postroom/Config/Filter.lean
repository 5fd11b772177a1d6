import Postroom.Config.Value
import Postroom.Filter.Spam

/-!
# Filter configuration

* `SpamConfig.ofValue?`, `FilterConfig.ofValue?` — the configurations that values describe.
-/

namespace Postroom

open Config

/-- The spam configuration that a value describes. -/
def SpamConfig.ofValue? (v : Value) : Option SpamConfig :=
  match v.slots? ["header", "header-value"] 0 with
  | some [field, pattern] => do
    let field ← Slot.optionalText? field
    let pattern ← Slot.optionalText? pattern
    return ⟨field, pattern⟩
  | _ => none

/-- The configuration that all deliveries share. -/
structure FilterConfig where
  spam : SpamConfig
deriving DecidableEq, Repr

/-- The filter configuration that a value describes; without a spam configuration nothing is spam.
-/
def FilterConfig.ofValue? (v : Value) : Option FilterConfig :=
  match v.slots? ["spam"] 1 with
  | some [none] => some ⟨⟨none, none⟩⟩
  | some [some spam] => (SpamConfig.ofValue? spam).map fun spam => ⟨spam⟩
  | _ => none

end Postroom
