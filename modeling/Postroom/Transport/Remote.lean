import Postroom.Mailbox.Token
import Postroom.Transport.Error

/-!
# Mailboxes of other accounts

What a delivery asks of the mailbox of another account: a session for its owner, a folder by its
number, a folder below another, and to take a message.

* `RemoteFolder` — a folder there;
* `Connector` — how it is asked.
-/

namespace Postroom

/-- A folder of a remote mailbox: by what its server knows it, its path there, and what stands
between the names of such a path. -/
structure RemoteFolder where
  id : Text
  path : Text
  delimiter : Text
deriving DecidableEq, Repr

/-- Access to remote mailboxes, over a world of type `σ` and with sessions of type `τ`.  Every
request may fail, and may change the world and the session. -/
structure Connector (σ τ : Type) where
  /-- Opens a session to the mailbox of an owner. -/
  connect : AuthToken → Text → σ → Except RemoteError τ × σ
  /-- The folder that a mountpoint leads to. -/
  folder : ItemId → τ → σ → Except RemoteError (Option RemoteFolder) × τ × σ
  /-- The folder at a path below a folder. -/
  subfolder : RemoteFolder → Text → τ → σ → Except RemoteError (Option RemoteFolder) × τ × σ
  /-- Files a message with flags. -/
  append : RemoteFolder → List TransportFlag → Octets → τ → σ → Except RemoteError Unit × τ × σ
  /-- Ends a session. -/
  close : τ → σ → σ

end Postroom
