import Postroom.Filter.Event
import Postroom.Filter.Query
import Postroom.Filter.Spam

/-!
# Deliveries

A delivery carries out the actions of a filter for one message and one recipient.  A message that
cannot go where an action sends it goes to the inbox instead, with a warning, so that no failure on
the way to other accounts or servers loses it; only the mailbox itself can make a run fail.

* `Delivery.start` — a delivery that has not run;
* `Delivery.fileInto`, `Delivery.redirect` — the actions that may need another place;
* `Delivery.execute` — runs the actions at hand.
-/

namespace Postroom

/-- The delivery of one message to one recipient. -/
structure Delivery where
  message : Message
  recipient : Text
  context : Option ContextId
  isSpam : Bool
  actions : List Action
  state : DeliveryState
  /-- The last run stopped at a copy that had been filed before. -/
  isDuplicate : Bool
  /-- The marks that the last run has asked for. -/
  known : Option Marks
  /-- The copies that all runs have filed, in order. -/
  processed : List StoredMessage
deriving DecidableEq, Repr

/-- What becomes of a message by one action. -/
inductive Outcome where
  | filed (copy : StoredMessage)
  /-- The same message was filed there before for the same recipient. -/
  | duplicate
  /-- The message has gone somewhere else, and the delivery goes on. -/
  | elsewhere
deriving DecidableEq, Repr

namespace Outcome

/-- What an accepted filing makes of a message. -/
def ofCopy : Option StoredMessage → Outcome
  | some copy => filed copy
  | none => duplicate

end Outcome

namespace Delivery

/-- A delivery that has not run.  Whether the message is spam is decided here, once for all runs. -/
def start (message : Message) (recipient : Text) (context : Option ContextId)
    (detector : SpamDetector) : Delivery :=
  { message, recipient, context, isSpam := detector.isSpam message, actions := [], state := .start,
    isDuplicate := false, known := none, processed := [] }

/-- Replaces the actions. -/
def setActions (d : Delivery) (actions : List Action) : Delivery :=
  { d with actions }

/-- Adds an action behind the others. -/
def addAction (d : Delivery) (action : Action) : Delivery :=
  { d with actions := d.actions ++ [action] }

/-- Where the message goes by default. -/
def defaultFolder (d : Delivery) : FolderId :=
  if d.isSpam then .spam else .inbox

variable {σ τ : Type}

/-! ## Filing -/

/-- The marks of the message.  They are asked for when a run first needs them, and no more. -/
def marks (s : Surroundings σ τ) (d : Delivery) (actions : List MarkAction) : RunM σ Marks :=
  fun r =>
    match r.marks with
    | some marks => (marks, r)
    | none =>
      let (answers, w) := Marks.ask s.store actions r.world
      let events := answers.flatMap fun answer =>
        .marked answer :: (answer.warning? d.recipient).toList.map .noticed
      (Marks.ofAnswers answers,
        { r with world := w, marks := some (Marks.ofAnswers answers), events := r.events ++ events })

/-- The request to file the message in a folder with its marks. -/
def filing (d : Delivery) (folder : FolderId) (marks : Marks) : Filing :=
  ⟨folder, d.message, marks.flags, marks.tags, d.recipient, d.context⟩

/-- Asks the store to file a message, and keeps the copy when there is one. -/
def addMessage (s : Surroundings σ τ) (f : Filing) :
    RunM σ (Except StoreError (Option StoredMessage)) := do
  match ← RunM.ask (s.store.addMessage f) (.filed f) with
  | .error e => return .error e
  | .ok none => return .ok none
  | .ok (some copy) =>
    RunM.keep copy
    return .ok (some copy)

/-- Files the message in a folder. -/
def file (s : Surroundings σ τ) (d : Delivery) (actions : List MarkAction) (folder : FolderId) :
    RunM σ (Except StoreError Outcome) := do
  let marks ← marks s d actions
  let answer ← addMessage s (d.filing folder marks)
  return answer.map .ofCopy

/-! ## Other accounts -/

/-- Looks for the folder that a mountpoint and a rest of a path lead to. -/
def findRemote (c : Connector σ τ) (item : ItemId) (rest : Option Text) (session : τ) :
    RunM σ (Except RemoteError (Option RemoteFolder) × τ) := do
  match ← RunM.askIn (c.folder item session) (.foundFolder item) with
  | (.error e, session) => return (.error e, session)
  | (.ok none, session) =>
    RunM.tell (.warning ("cannot find remote folder ".toList ++ item.render
      ++ " of mountpoint, filing to Inbox instead".toList))
    return (.ok none, session)
  | (.ok (some folder), session) =>
    match rest with
    | none => return (.ok (some folder), session)
    | some path =>
      match ← RunM.askIn (c.subfolder folder path session) (.foundSubfolder folder path) with
      | (.ok none, session) =>
        RunM.tell (.warning ("subfolder ".toList ++ path ++ " of mountpoint ".toList ++ item.render
          ++ " does not exist, filing to Inbox instead".toList))
        return (.ok none, session)
      | answer => return answer

/-- Files the message in a session; the answer is `false` when there is no folder for it. -/
def fileInSession (s : Surroundings σ τ) (d : Delivery) (actions : List MarkAction)
    (c : Connector σ τ) (item : ItemId) (rest : Option Text) (session : τ) :
    RunM σ (Except RemoteError Bool × τ) := do
  match ← findRemote c item rest session with
  | (.error e, session) => return (.error e, session)
  | (.ok none, session) => return (.ok false, session)
  | (.ok (some folder), session) =>
    let marks ← marks s d actions
    let flags := TransportFlag.ofBitmask marks.flags
    let (answer, session) ← RunM.askIn (c.append folder flags d.message.raw session)
      (.appended folder flags d.message.raw)
    return (answer.map fun _ => true, session)

/-- Files the message where a mountpoint leads to. -/
def fileRemotely (s : Surroundings σ τ) (d : Delivery) (actions : List MarkAction) (m : Mountpoint)
    (rest : Option Text) : RunM σ (Except RemoteError Bool) :=
  match s.connector with
  | none => return .error (.connectorMissing m.owner)
  | some c => do
    match ← RunM.ask s.store.authToken .token with
    | .error e => return .error (.store e)
    | .ok token =>
      match ← RunM.ask (c.connect token m.owner)
          (fun answer => .connected token m.owner (answer.map fun _ => ())) with
      | .error e => return .error e
      | .ok session =>
        let (answer, session) ← fileInSession s d actions c m.item rest session
        RunM.ask (fun w => ((), c.close session w)) fun _ => .closed
        return answer

/-- Where a file-into action leads: to a folder of the mailbox, or to another account, which has
taken the message already. -/
inductive Place where
  | folder (id : FolderId)
  | remote
deriving DecidableEq, Repr

/-- The place for a path that has been resolved. -/
def place (s : Surroundings σ τ) (d : Delivery) (actions : List MarkAction) (path : Text)
    (r : Resolution) : RunM σ Place :=
  match r.folder.mountpoint? with
  | some m => do
    match ← fileRemotely s d actions m r.remaining with
    | .ok true => return .remote
    | .ok false => return .folder .inbox
    | .error e =>
      RunM.tell (.warning ("cannot file to ".toList ++ path ++ ", filing to Inbox instead: ".toList
        ++ e.message))
      return .folder .inbox
  | none =>
    if r.isPartial then do
      RunM.tell (.warning ("cannot find folder ".toList ++ path
        ++ ", filing to Inbox instead".toList))
      return .folder .inbox
    else if r.folder.id = .root then do
      RunM.tell (.warning ("cannot file to the mailbox root ".toList ++ Text.quoted path
        ++ ", filing to Inbox instead".toList))
      return .folder .inbox
    else return .folder r.folder.id

/-- Files the message where a path leads to. -/
def fileInto (s : Surroundings σ τ) (d : Delivery) (actions : List MarkAction) (path : Text) :
    RunM σ (Except StoreError Outcome) := do
  match ← RunM.ask (s.store.resolve .root path) (.resolved .root path) with
  | .error e => return .error e
  | .ok r =>
    match ← place s d actions path r with
    | .remote => return .ok .elsewhere
    | .folder id => file s d actions id

/-! ## Sending on -/

/-- Sends the message on to an address. -/
def sendOn (s : Surroundings σ τ) (d : Delivery) (address : Text) :
    RunM σ (Except SendError Unit) :=
  match Recipient.parse address with
  | .error e => return .error (.recipient e)
  | .ok recipient =>
    match s.sender with
    | none => return .error (.senderMissing recipient)
    | some send => do
      let stamp ← RunM.draw s.stamp
      let (email, notices) := Forward.prepare stamp d.message
      RunM.tellAll notices
      RunM.ask (send email recipient) (.sent email recipient)

/-- Sends the message on to an address, or files it in the inbox when that fails. -/
def redirect (s : Surroundings σ τ) (d : Delivery) (actions : List MarkAction) (address : Text) :
    RunM σ (Except StoreError Outcome) := do
  RunM.tell (.info ("redirecting message to ".toList ++ address))
  match ← sendOn s d address with
  | .ok () => return .ok .elsewhere
  | .error e =>
    RunM.tell (.warning ("redirect to ".toList ++ address
      ++ " failed, saving message to Inbox: ".toList ++ e.message))
    let answer ← file s d actions .inbox
    return answer.map fun _ => .elsewhere

/-! ## Runs -/

/-- Carries out an action. -/
def perform (s : Surroundings σ τ) (d : Delivery) (actions : List MarkAction) :
    DeliveryAction → RunM σ (Except StoreError Outcome)
  | .keep true => file s d actions d.defaultFolder
  | .keep false => file s d actions .inbox
  | .fileInto path => fileInto s d actions path
  | .redirect address => redirect s d actions address

/-- Carries out actions in order, up to a duplicate. -/
def performAll (s : Surroundings σ τ) (d : Delivery) (actions : List MarkAction) :
    List DeliveryAction → RunM σ (Except StoreError Unit)
  | [] => return .ok ()
  | a :: rest => do
    match ← perform s d actions a with
    | .error e => return .error e
    | .ok .duplicate =>
      RunM.markDuplicate
      return .ok ()
    | .ok _ => performAll s d actions rest

/-- Files a message without delivery actions where it goes by default; with some, they are next. -/
def fileByDefault (s : Surroundings σ τ) (d : Delivery) (c : ClassifiedActions) :
    RunM σ (Except StoreError Unit) :=
  if c.delivery.isEmpty then do
    match ← file s d c.marks d.defaultFolder with
    | .error e => return .error e
    | .ok .duplicate =>
      RunM.markDuplicate
      RunM.enter .defaultFiled
      return .ok ()
    | .ok _ =>
      RunM.enter .defaultFiled
      return .ok ()
  else do
    RunM.enter .actionsApplied
    return .ok ()

/-- What there is to tell of a message that is discarded. -/
def discardNotice (d : Delivery) : Notice :=
  .info ("discarding message with Message-ID ".toList ++ d.message.messageId.getD []
    ++ " from ".toList ++ d.message.sender)

/-- Carries out the actions at hand.  At an error, the run stays in the state it has come to. -/
def runActions (s : Surroundings σ τ) (d : Delivery) : RunM σ (Except StoreError Unit) :=
  if d.actions.isEmpty then do
    RunM.tell d.discardNotice
    RunM.enter .discarded
    RunM.enter .done
    return .ok ()
  else do
    let c := Action.classify d.actions
    RunM.enter .classified
    match ← fileByDefault s d c with
    | .error e => return .error e
    | .ok () =>
      match ← performAll s d c.marks c.delivery with
      | .error e => return .error e
      | .ok () =>
        RunM.enter .done
        return .ok ()

/-- What a run leaves: all copies that the delivery has filed, unless it failed, the delivery as it
is now, the world, and the events. -/
structure Execution (σ : Type) where
  result : Except StoreError (List StoredMessage)
  delivery : Delivery
  world : σ
  events : List Event

/-- The beginning of a run.  What is known of the marks and of a duplicate belongs to the actions of
an earlier run, so it is forgotten. -/
def toRun (d : Delivery) (w : σ) : Run σ :=
  ⟨w, none, [], d.state, false, d.processed⟩

/-- Runs the actions at hand. -/
def execute (s : Surroundings σ τ) (d : Delivery) (w : σ) : Execution σ :=
  let (answer, r) := runActions s d (d.toRun w)
  { result := answer.map fun () => r.processed
    delivery := { d with
      state := r.state
      isDuplicate := r.isDuplicate
      known := r.marks
      processed := r.processed }
    world := r.world
    events := r.events }

end Delivery

end Postroom
