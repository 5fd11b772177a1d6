import Postroom.Mail.Address

/-!
# Recipients

A message is sent on to one address.  `Recipient.parse` reads it from the text that a filter rule
gives, and refuses lists, groups and what is no address at all.
-/

namespace Postroom.Recipient

/-- Why a text does not name a recipient. -/
inductive RecipientError where
  | unreadable (cause : AddressError) (text : Text)
  | notSingle (text : Text)
deriving DecidableEq, Repr

/-- The wording of the cause. -/
def RecipientError.message : RecipientError → Text
  | unreadable _ text => "cannot parse recipient ".toList ++ text
  | notSingle text => "cannot find a single recipient in ".toList ++ text

/-- The one address that a text names. -/
def parse (text : Text) : Except RecipientError Text :=
  match Address.parse text with
  | .error e => .error (.unreadable e text)
  | .ok entries =>
    match Address.single? entries with
    | some contact =>
      if '@' ∈ contact.address then .ok contact.address else .error (.notSingle text)
    | none => .error (.notSingle text)

end Postroom.Recipient
