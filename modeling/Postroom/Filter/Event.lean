import Postroom.Filter.Marks
import Postroom.Mail.Forward
import Postroom.Transport.Remote
import Postroom.Transport.Sender

/-!
# What happens in a delivery

A delivery works with a store and, where there are any, with a connector to other accounts and with
a sender.  What it asks of them is written down as events, each with the answer, together with what
there is to tell.  Apart from the events, a run keeps its own books: how far it has come, whether it
has met a duplicate, and the copies that are filed.

* `Surroundings` — what a delivery works with;
* `Event` — one thing that happens;
* `RunM` — a run of a delivery: a computation that changes the world, writes events down and keeps
  its books.
-/

namespace Postroom

/-- What a delivery works with, over a world of type `σ`; sessions with other accounts are of
type `τ`. -/
structure Surroundings (σ τ : Type) where
  store : Store σ
  connector : Option (Connector σ τ)
  sender : Option (Sender σ)
  /-- What makes the next message that is sent on unlike any other. -/
  stamp : σ → Forward.Stamp × σ

/-- One thing that happens in a delivery: a request with its answer, or a notice. -/
inductive Event where
  | resolved (root : FolderId) (path : Text) (answer : Except StoreError Resolution)
  | marked (answer : MarkAnswer)
  | filed (filing : Filing) (answer : Except StoreError (Option StoredMessage))
  | token (answer : Except StoreError AuthToken)
  | connected (token : AuthToken) (owner : Text) (answer : Except RemoteError Unit)
  | foundFolder (item : ItemId) (answer : Except RemoteError (Option RemoteFolder))
  | foundSubfolder (parent : RemoteFolder) (path : Text)
      (answer : Except RemoteError (Option RemoteFolder))
  | appended (folder : RemoteFolder) (flags : List TransportFlag) (raw : Octets)
      (answer : Except RemoteError Unit)
  | closed
  | sent (email : Octets) (recipient : Text) (answer : Except SendError Unit)
  | noticed (notice : Notice)

namespace Event

/-- The notice that an event is. -/
def notice? : Event → Option Notice
  | noticed n => some n
  | _ => none

/-- The copy that an event puts into the store. -/
def copy? : Event → Option StoredMessage
  | filed _ (.ok copy) => copy
  | _ => none

end Event

/-- How far a delivery has come. -/
inductive DeliveryState where
  | start
  /-- Delivery actions and mark actions are told apart. -/
  | classified
  /-- There was no action, and nothing was filed. -/
  | discarded
  /-- There was no delivery action, and the message was filed where it goes by default. -/
  | defaultFiled
  | actionsApplied
  | done
deriving DecidableEq, Repr

/-- A run of a delivery as far as it has come: the world, the marks once they are known, the events
in order, and the books of the delivery. -/
structure Run (σ : Type) where
  world : σ
  marks : Option Marks
  events : List Event
  state : DeliveryState
  /-- A copy had been filed before. -/
  isDuplicate : Bool
  /-- The copies that this run and the ones before it have filed, in order. -/
  processed : List StoredMessage

/-- A part of a run. -/
abbrev RunM (σ : Type) := StateM (Run σ)

namespace RunM

variable {σ τ α β : Type}

theorem bind_apply (x : RunM σ α) (f : α → RunM σ β) (r : Run σ) :
    (x >>= f) r = f (x r).1 (x r).2 :=
  rfl

/-- Changes the world without an event. -/
def draw (request : σ → α × σ) : RunM σ α :=
  fun r => ((request r.world).1, { r with world := (request r.world).2 })

/-- Writes an event down. -/
def note (e : Event) : RunM σ Unit :=
  fun r => ((), { r with events := r.events ++ [e] })

/-- Tells something. -/
def tell (n : Notice) : RunM σ Unit :=
  note (.noticed n)

/-- Tells several things. -/
def tellAll : List Notice → RunM σ Unit
  | [] => pure ()
  | n :: ns => do
    tell n
    tellAll ns

/-- Makes a request and writes it down with its answer. -/
def ask (request : σ → α × σ) (event : α → Event) : RunM σ α := do
  let answer ← draw request
  note (event answer)
  return answer

/-- Goes over to a state. -/
def enter (state : DeliveryState) : RunM σ Unit :=
  fun r => ((), { r with state })

/-- Remembers that a copy had been filed before. -/
def markDuplicate : RunM σ Unit :=
  fun r => ((), { r with isDuplicate := true })

/-- Puts a copy to the others. -/
def keep (copy : StoredMessage) : RunM σ Unit :=
  fun r => ((), { r with processed := r.processed ++ [copy] })

/-- Makes a request in a session, and writes it down with its answer. -/
def askIn (request : σ → α × τ × σ) (event : α → Event) : RunM σ (α × τ) :=
  ask (fun w => (((request w).1, (request w).2.1), (request w).2.2)) fun answer => event answer.1

end RunM

end Postroom
