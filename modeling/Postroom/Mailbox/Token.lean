import Postroom.Text.Basic

/-!
# Tokens

The credential with which a mailbox acts against the mailboxes of other accounts.  It is shown to
nobody: `AuthToken.render` hides it.
-/

namespace Postroom

/-- The credential of a mailbox. -/
structure AuthToken where
  secret : Text
deriving DecidableEq

/-- What is shown of a token. -/
def AuthToken.render (_ : AuthToken) : Text :=
  "AuthToken(***)".toList

end Postroom
