import Postroom.Mail.Message
import Postroom.Mailbox.Error
import Postroom.Mailbox.Tag
import Postroom.Mailbox.Token

/-!
# Stores

What a delivery asks of a mailbox: to file a message, to find a folder, a tag or a flag, and to give
its token.  A store answers over a world of type `σ`, which every request may change; any request
may fail.
-/

namespace Postroom

/-- One physical message on its way to several recipients, as a number. -/
abbrev ContextId := Nat

/-- One copy of a message in one folder. -/
structure StoredMessage where
  id : UInt32
  folder : FolderId
  flags : Bitmask
  tags : List TagId
deriving DecidableEq, Repr

/-- A request to file a message. -/
structure Filing where
  folder : FolderId
  message : Message
  flags : Bitmask
  tags : List TagId
  recipient : Text
  context : Option ContextId
deriving DecidableEq, Repr

/-- What a delivery asks of a mailbox, over a world of type `σ`. -/
structure Store (σ : Type) where
  /-- The token with which the owner acts against other mailboxes. -/
  authToken : σ → Except StoreError AuthToken × σ
  /-- Files a message; the answer is `none` when the same message was filed there before for the
  same recipient. -/
  addMessage : Filing → σ → Except StoreError (Option StoredMessage) × σ
  /-- The deepest folder that a path below a folder leads to. -/
  resolve : FolderId → Text → σ → Except StoreError Resolution × σ
  tagByName : Text → σ → Except StoreError Tag × σ
  flagById : FlagId → σ → Except StoreError MailboxFlag × σ

end Postroom
