import Postroom.Mailbox.Flag
import Postroom.Text.Quoted

/-!
# Actions

What the rules of a filter ask for.  Some actions decide where a message goes, others mark it
wherever it goes; `Action.classify` tells them apart and keeps the order of both kinds.
-/

namespace Postroom

/-- An action that a filter rule asks for. -/
inductive Action where
  /-- Files the message where it goes by default; `implicit` means that no rule matched. -/
  | keep (implicit : Bool)
  | fileInto (path : Text)
  | redirect (address : Text)
  | tag (name : Text)
  /-- Sets or clears a flag. -/
  | flag (id : FlagId) (set : Bool)
  /-- An action that is not the library's to carry out. -/
  | other (name : Text)
deriving DecidableEq, Repr

/-- An action that decides where the message goes. -/
inductive DeliveryAction where
  | keep (implicit : Bool)
  | fileInto (path : Text)
  | redirect (address : Text)
deriving DecidableEq, Repr

/-- An action that marks the message wherever it goes. -/
inductive MarkAction where
  | tag (name : Text)
  | flag (id : FlagId) (set : Bool)
deriving DecidableEq, Repr

namespace Action

/-- An action as people write it. -/
def render : Action → Text
  | keep true => "implicit keep".toList
  | keep false => "keep".toList
  | fileInto path => "fileinto ".toList ++ Text.quoted path
  | redirect address => "redirect ".toList ++ Text.quoted address
  | tag name => "tag ".toList ++ Text.quoted name
  | flag id true => "flag ".toList ++ Text.ofInt id.toInt
  | flag id false => "unflag ".toList ++ Text.ofInt id.toInt
  | other name => name

/-- The delivery action that an action is, if it is one. -/
def delivery? : Action → Option DeliveryAction
  | keep implicit => some (.keep implicit)
  | fileInto path => some (.fileInto path)
  | redirect address => some (.redirect address)
  | tag _ | flag _ _ | other _ => none

/-- The mark action that an action is, if it is one. -/
def mark? : Action → Option MarkAction
  | tag name => some (.tag name)
  | flag id set => some (.flag id set)
  | keep _ | fileInto _ | redirect _ | other _ => none

end Action

/-- Actions by kind, each list in the order of the actions. -/
structure ClassifiedActions where
  delivery : List DeliveryAction
  marks : List MarkAction
deriving DecidableEq, Repr

/-- Tells delivery actions and mark actions apart; other actions belong to neither. -/
def Action.classify (actions : List Action) : ClassifiedActions :=
  ⟨actions.filterMap Action.delivery?, actions.filterMap Action.mark?⟩

end Postroom
