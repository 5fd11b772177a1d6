import Postroom.Proofs.Delivery.Emission

/-!
# The forms of events

The events that a part of a delivery adds have one of a few forms.  The forms are inductive
relations, one for each part, so that a proof about runs is a case analysis over them and never
opens the code again:

* `Marking`, `Filed`: the marks of the message, and a filing with them;
* `Lookup`, `Visit`, `Trip`: the way to a folder of another account;
* `Placed`: where a resolved path leads;
* `Posting`: an attempt to send the message on;
* `Block`: a whole delivery action.

The first and the last argument of marks say what is known of them before and after.
-/

namespace Postroom

/-- The event neither resolves a path nor files the message. -/
def Event.isQuiet : Event → Bool
  | resolved .. | filed .. => false
  | marked _ | token _ | connected .. | foundFolder .. | foundSubfolder .. | appended .. | closed
  | sent .. | noticed _ => true

/-- What an event asks another account to take, and the answer. -/
def Event.append? : Event → Option (RemoteFolder × List TransportFlag × Octets ×
    Except RemoteError Unit)
  | appended folder flags raw answer => some (folder, flags, raw, answer)
  | _ => none

/-- The action that an answer is about. -/
def MarkAnswer.action : MarkAnswer → MarkAction
  | flag id set _ => .flag id set
  | tag name _ => .tag name

/-- Actions in the order in which a store is asked about them: the flags, then the tags. -/
def MarkAction.asked (actions : List MarkAction) : List MarkAction :=
  actions.filter (· matches .flag _ _) ++ actions.filter (· matches .tag _)

namespace Delivery

variable {σ τ : Type}

/-! ## The forms -/

/-- The actions that mark the message. -/
abbrev markActions (d : Delivery) : List MarkAction :=
  (Action.classify d.actions).marks

/-- An answer about marks, with the warning it gives rise to. -/
def answered (d : Delivery) (answer : MarkAnswer) : List Event :=
  .marked answer :: (answer.warning? d.recipient).toList.map .noticed

/-- Asking for the marks: there is one answer about each mark action, and nothing happens once the
marks are known. -/
inductive Marking (d : Delivery) : Option Marks → Marks → List Event → Prop
  | known (marks : Marks) : Marking d (some marks) marks []
  | asked (answers : List MarkAnswer)
      (h : answers.map MarkAnswer.action = MarkAction.asked d.markActions) :
      Marking d none (Marks.ofAnswers answers) (answers.flatMap d.answered)

/-- Filing the message in a folder. -/
inductive Filed (d : Delivery) (folder : FolderId) :
    Option Marks → Except StoreError Outcome → List Event → Option Marks → Prop
  | intro {known : Option Marks} {marks : Marks} {marking : List Event}
      (answer : Except StoreError (Option StoredMessage)) (h : Marking d known marks marking) :
      Filed d folder known (answer.map .ofCopy)
        (marking ++ [.filed (d.filing folder marks) answer]) (some marks)

/-- Looking for the folder that an item and a rest of a path lead to. -/
inductive Lookup (item : ItemId) :
    Option Text → Except RemoteError (Option RemoteFolder) → List Event → Prop
  | failed (rest : Option Text) (e : RemoteError) :
      Lookup item rest (.error e) [.foundFolder item (.error e)]
  | missing (rest : Option Text) :
      Lookup item rest (.ok none) [.foundFolder item (.ok none),
        .noticed (.warning ("cannot find remote folder ".toList ++ item.render
          ++ " of mountpoint, filing to Inbox instead".toList))]
  | found (folder : RemoteFolder) :
      Lookup item none (.ok (some folder)) [.foundFolder item (.ok (some folder))]
  | below (parent : RemoteFolder) (path : Text) (answer : Except RemoteError (Option RemoteFolder))
      (h : answer ≠ .ok none) :
      Lookup item (some path) answer
        [.foundFolder item (.ok (some parent)), .foundSubfolder parent path answer]
  | belowMissing (parent : RemoteFolder) (path : Text) :
      Lookup item (some path) (.ok none)
        [.foundFolder item (.ok (some parent)), .foundSubfolder parent path (.ok none),
          .noticed (.warning ("subfolder ".toList ++ path ++ " of mountpoint ".toList ++ item.render
            ++ " does not exist, filing to Inbox instead".toList))]

/-- Filing the message in a session. -/
inductive Visit (d : Delivery) (item : ItemId) (rest : Option Text) :
    Option Marks → Except RemoteError Bool → List Event → Option Marks → Prop
  | lost {known : Option Marks} {e : RemoteError} {es : List Event}
      (h : Lookup item rest (.error e) es) : Visit d item rest known (.error e) es known
  | nowhere {known : Option Marks} {es : List Event} (h : Lookup item rest (.ok none) es) :
      Visit d item rest known (.ok false) es known
  | appended {known : Option Marks} {folder : RemoteFolder} {es : List Event} {marks : Marks}
      {marking : List Event} (answer : Except RemoteError Unit)
      (h : Lookup item rest (.ok (some folder)) es) (hm : Marking d known marks marking) :
      Visit d item rest known (answer.map fun _ => true)
        (es ++ (marking ++
          [.appended folder (TransportFlag.ofBitmask marks.flags) d.message.raw answer]))
        (some marks)

/-- Filing the message where a mountpoint leads to. -/
inductive Trip (s : Surroundings σ τ) (d : Delivery) (m : Mountpoint) (rest : Option Text) :
    Option Marks → Except RemoteError Bool → List Event → Option Marks → Prop
  | unconnected {known : Option Marks} (h : s.connector = none) :
      Trip s d m rest known (.error (.connectorMissing m.owner)) [] known
  | tokenless {known : Option Marks} (e : StoreError) :
      Trip s d m rest known (.error (.store e)) [.token (.error e)] known
  | refused {known : Option Marks} (t : AuthToken) (e : RemoteError) :
      Trip s d m rest known (.error e) [.token (.ok t), .connected t m.owner (.error e)] known
  | visited {known known' : Option Marks} {answer : Except RemoteError Bool} {es : List Event}
      (t : AuthToken) (h : Visit d m.item rest known answer es known') :
      Trip s d m rest known answer
        (.token (.ok t) :: .connected t m.owner (.ok ()) :: (es ++ [.closed])) known'

/-- Finding the place for a path that has been resolved. -/
inductive Placed (s : Surroundings σ τ) (d : Delivery) (path : Text) (r : Resolution) :
    Option Marks → Place → List Event → Option Marks → Prop
  | remote {known known' : Option Marks} {m : Mountpoint} {es : List Event}
      (hm : r.folder.mountpoint? = some m) (h : Trip s d m r.remaining known (.ok true) es known') :
      Placed s d path r known .remote es known'
  | absent {known known' : Option Marks} {m : Mountpoint} {es : List Event}
      (hm : r.folder.mountpoint? = some m)
      (h : Trip s d m r.remaining known (.ok false) es known') :
      Placed s d path r known (.folder .inbox) es known'
  | failed {known known' : Option Marks} {m : Mountpoint} {es : List Event} {e : RemoteError}
      (hm : r.folder.mountpoint? = some m) (h : Trip s d m r.remaining known (.error e) es known') :
      Placed s d path r known (.folder .inbox)
        (es ++ [.noticed (.warning ("cannot file to ".toList ++ path
          ++ ", filing to Inbox instead: ".toList ++ e.message))]) known'
  | partway {known : Option Marks} (hm : r.folder.mountpoint? = none) (h : r.isPartial = true) :
      Placed s d path r known (.folder .inbox)
        [.noticed (.warning ("cannot find folder ".toList ++ path
          ++ ", filing to Inbox instead".toList))] known
  | root {known : Option Marks} (hm : r.folder.mountpoint? = none) (h : r.isPartial = false)
      (hroot : r.folder.id = .root) :
      Placed s d path r known (.folder .inbox)
        [.noticed (.warning ("cannot file to the mailbox root ".toList ++ Text.quoted path
          ++ ", filing to Inbox instead".toList))] known
  | own {known : Option Marks} (hm : r.folder.mountpoint? = none) (h : r.isPartial = false)
      (hroot : r.folder.id ≠ .root) : Placed s d path r known (.folder r.folder.id) [] known

/-- Sending the message on to an address. -/
inductive Posting (s : Surroundings σ τ) (d : Delivery) (address : Text) :
    Except SendError Unit → List Event → Prop
  | unreadable (e : Recipient.RecipientError) (h : Recipient.parse address = .error e) :
      Posting s d address (.error (.recipient e)) []
  | senderless (recipient : Text) (h : Recipient.parse address = .ok recipient)
      (hs : s.sender = none) : Posting s d address (.error (.senderMissing recipient)) []
  | sent (recipient : Text) (stamp : Forward.Stamp) (answer : Except SendError Unit)
      (h : Recipient.parse address = .ok recipient) :
      Posting s d address answer
        ((Forward.prepare stamp d.message).2.map .noticed ++
          [.sent (Forward.prepare stamp d.message).1 recipient answer])

/-- Carrying out a delivery action. -/
inductive Block (s : Surroundings σ τ) (d : Delivery) :
    DeliveryAction → Option Marks → Except StoreError Outcome → List Event → Option Marks → Prop
  | kept {known known' : Option Marks} {answer : Except StoreError Outcome} {es : List Event}
      (implicit : Bool)
      (h : Filed d (if implicit then d.defaultFolder else .inbox) known answer es known') :
      Block s d (.keep implicit) known answer es known'
  | unresolved {known : Option Marks} (path : Text) (e : StoreError) :
      Block s d (.fileInto path) known (.error e) [.resolved .root path (.error e)] known
  | remote {known known' : Option Marks} {es : List Event} (path : Text) (r : Resolution)
      (h : Placed s d path r known .remote es known') :
      Block s d (.fileInto path) known (.ok .elsewhere) (.resolved .root path (.ok r) :: es) known'
  | filed {known between known' : Option Marks} {answer : Except StoreError Outcome}
      {folder : FolderId} {es es' : List Event} (path : Text) (r : Resolution)
      (h : Placed s d path r known (.folder folder) es between)
      (hf : Filed d folder between answer es' known') :
      Block s d (.fileInto path) known answer (.resolved .root path (.ok r) :: (es ++ es')) known'
  | sent {known : Option Marks} {es : List Event} (address : Text)
      (h : Posting s d address (.ok ()) es) :
      Block s d (.redirect address) known (.ok .elsewhere)
        (.noticed (.info ("redirecting message to ".toList ++ address)) :: es) known
  | returned {known known' : Option Marks} {answer : Except StoreError Outcome} {e : SendError}
      {es es' : List Event} (address : Text) (h : Posting s d address (.error e) es)
      (hf : Filed d .inbox known answer es' known') :
      Block s d (.redirect address) known (answer.map fun _ => .elsewhere)
        (.noticed (.info ("redirecting message to ".toList ++ address)) ::
          (es ++ (.noticed (.warning ("redirect to ".toList ++ address
            ++ " failed, saving message to Inbox: ".toList ++ e.message)) :: es'))) known'

/-! ## The parts of a delivery have these forms -/

variable {R : σ → List Event → σ → Prop} {s : Surroundings σ τ} {r : Run σ} {d : Delivery}

open RunM

-- Flags are asked for in a first pass over the actions and tags in a second one; each pass goes by
-- the actions of the other kind.
theorem follows_askFlags (hs : s.Follows R) (d : Delivery) (actions : List MarkAction) (w : σ) :
    R w ((Marks.askFlags s.store actions w).1.flatMap d.answered)
      (Marks.askFlags s.store actions w).2 := by
  induction actions generalizing w with
  | nil => exact hs.refl w
  | cons a rest ih =>
    cases a with
    | tag name => exact ih w
    | flag id set => exact hs.trans (hs.trans (hs.markedFlag id set w) (hs.notices _ _)) (ih _)

theorem follows_askTags (hs : s.Follows R) (d : Delivery) (actions : List MarkAction) (w : σ) :
    R w ((Marks.askTags s.store actions w).1.flatMap d.answered)
      (Marks.askTags s.store actions w).2 := by
  induction actions generalizing w with
  | nil => exact hs.refl w
  | cons a rest ih =>
    cases a with
    | tag name => exact hs.trans (hs.trans (hs.markedTag name w) (hs.notices _ _)) (ih _)
    | flag id set => exact ih w

/-- Asking for all flags and then for all tags, as seen by a relation that every request keeps. -/
theorem follows_ask (hs : s.Follows R) (d : Delivery) (actions : List MarkAction) (w : σ) :
    R w ((Marks.ask s.store actions w).1.flatMap d.answered) (Marks.ask s.store actions w).2 := by
  simp only [Marks.ask, List.flatMap_append]
  exact hs.trans (follows_askFlags hs d actions w) (follows_askTags hs d actions _)

theorem map_action_askFlags (store : Store σ) (actions : List MarkAction) (w : σ) :
    (Marks.askFlags store actions w).1.map MarkAnswer.action =
      actions.filter (· matches .flag _ _) := by
  induction actions generalizing w with
  | nil => rfl
  | cons a rest ih =>
    cases a with
    | tag name => exact ih w
    | flag id set => exact congrArg (MarkAction.flag id set :: ·) (ih _)

theorem map_action_askTags (store : Store σ) (actions : List MarkAction) (w : σ) :
    (Marks.askTags store actions w).1.map MarkAnswer.action =
      actions.filter (· matches .tag _) := by
  induction actions generalizing w with
  | nil => rfl
  | cons a rest ih =>
    cases a with
    | tag name => exact congrArg (MarkAction.tag name :: ·) (ih _)
    | flag id set => exact ih w

/-- A store is asked about every action once. -/
theorem map_action_ask (store : Store σ) (actions : List MarkAction) (w : σ) :
    (Marks.ask store actions w).1.map MarkAnswer.action = MarkAction.asked actions := by
  simp only [Marks.ask, List.map_append, map_action_askFlags, map_action_askTags,
    MarkAction.asked]

theorem emits_marks (hs : s.Follows R) :
    Emits R r (marks s d d.markActions) fun marks es known =>
      Marking d r.marks marks es ∧ known = some marks := by
  unfold marks
  cases hknown : r.marks with
  | some known =>
    refine ⟨[], ?_, ?_, ?_⟩
    · simp [hknown]
    · simpa [hknown] using hs.refl r.world
    · simpa [hknown] using Marking.known known
  | none =>
    refine ⟨(Marks.ask s.store d.markActions r.world).1.flatMap d.answered, ?_, ?_, ?_⟩
    · simp only [hknown]
      rfl
    · simpa [hknown] using follows_ask hs d d.markActions r.world
    · simpa [hknown] using Marking.asked _ (map_action_ask s.store d.markActions r.world)

theorem emits_addMessage (hs : s.Follows R) (f : Filing) :
    Emits R r (addMessage s f) fun answer es known =>
      es = [.filed f answer] ∧ known = r.marks := by
  refine (emits_ask (hs.filed f _)).bind hs ?_
  rintro answer _ r₁ ⟨rfl, hmarks⟩
  match answer with
  | .error e | .ok none => exact emits_pure hs ⟨rfl, hmarks⟩
  | .ok (some copy) =>
    refine (emits_keep hs copy).bind hs ?_
    rintro _ _ r₂ ⟨rfl, hmarks'⟩
    exact emits_pure hs ⟨rfl, hmarks'.trans hmarks⟩

theorem emits_file (hs : s.Follows R) (folder : FolderId) :
    Emits R r (file s d d.markActions folder) (Filed d folder r.marks) := by
  refine (emits_marks hs).bind hs ?_
  rintro marks es r₁ ⟨hmarking, hknown⟩
  refine (emits_addMessage hs _).bind hs ?_
  rintro answer _ r₂ ⟨rfl, hmarks⟩
  refine emits_pure hs ?_
  rw [hmarks, hknown, List.append_nil]
  exact Filed.intro answer hmarking

theorem emits_findRemote (hs : s.Follows R) {c : Connector σ τ} (hc : s.connector = some c)
    (item : ItemId) (rest : Option Text) (session : τ) :
    Emits R r (findRemote c item rest session) fun answer es known =>
      Lookup item rest answer.1 es ∧ known = r.marks := by
  refine (emits_askIn (hs.foundFolder c hc item session _)).bind hs ?_
  rintro ⟨answer, session₁⟩ _ r₁ ⟨rfl, hmarks⟩
  match answer, rest with
  | .error e, rest => exact emits_pure hs ⟨.failed rest e, hmarks⟩
  | .ok none, rest =>
    refine (emits_tell hs _).bind hs ?_
    rintro _ _ r₂ ⟨rfl, hmarks'⟩
    exact emits_pure hs ⟨.missing rest, hmarks'.trans hmarks⟩
  | .ok (some folder), none => exact emits_pure hs ⟨.found folder, hmarks⟩
  | .ok (some folder), some path =>
    refine (emits_askIn (hs.foundSubfolder c hc folder path session₁ _)).bind hs ?_
    rintro ⟨answer', session₂⟩ _ r₂ ⟨rfl, hmarks'⟩
    match answer' with
    | .ok none =>
      refine (emits_tell hs _).bind hs ?_
      rintro _ _ r₃ ⟨rfl, hmarks''⟩
      exact emits_pure hs ⟨.belowMissing folder path, hmarks''.trans (hmarks'.trans hmarks)⟩
    | .ok (some found) =>
      exact emits_pure hs ⟨.below folder path _ (by simp), hmarks'.trans hmarks⟩
    | .error e => exact emits_pure hs ⟨.below folder path _ (by simp), hmarks'.trans hmarks⟩

-- The marks are known from the first filing on, so each step hands them to the next one: the
-- equations between `r.marks` and the marks of later runs in these proofs say no more.
theorem emits_fileInSession (hs : s.Follows R) {c : Connector σ τ} (hc : s.connector = some c)
    (item : ItemId) (rest : Option Text) (session : τ) :
    Emits R r (fileInSession s d d.markActions c item rest session) fun answer es known =>
      Visit d item rest r.marks answer.1 es known := by
  refine (emits_findRemote hs hc item rest session).bind hs ?_
  rintro ⟨answer, session₁⟩ es r₁ ⟨hlookup, hmarks⟩
  match answer with
  | .error e =>
    refine emits_pure hs ?_
    rw [hmarks, List.append_nil]
    exact .lost hlookup
  | .ok none =>
    refine emits_pure hs ?_
    rw [hmarks, List.append_nil]
    exact .nowhere hlookup
  | .ok (some folder) =>
    refine (emits_marks hs).bind hs ?_
    rintro marks marking r₂ ⟨hmarking, hknown⟩
    refine (emits_askIn (hs.appended c hc folder _ _ session₁ _)).bind hs ?_
    rintro ⟨answer', session₂⟩ _ r₃ ⟨rfl, hmarks'⟩
    refine emits_pure hs ?_
    rw [hmarks', hknown, List.append_nil]
    exact .appended answer' hlookup (hmarks ▸ hmarking)

theorem emits_fileRemotely (hs : s.Follows R) (m : Mountpoint) (rest : Option Text) :
    Emits R r (fileRemotely s d d.markActions m rest) (Trip s d m rest r.marks) := by
  unfold fileRemotely
  cases hc : s.connector with
  | none => exact emits_pure hs (.unconnected hc)
  | some c =>
    refine (emits_ask (hs.token _)).bind hs ?_
    rintro answer _ r₁ ⟨rfl, hmarks⟩
    match answer with
    | .error e => exact emits_pure hs (hmarks ▸ .tokenless e)
    | .ok t =>
      refine (emits_ask (hs.connected c hc t m.owner _)).bind hs ?_
      rintro answer' _ r₂ ⟨rfl, hmarks'⟩
      match answer' with
      | .error e => exact emits_pure hs (hmarks'.trans hmarks ▸ .refused t e)
      | .ok session =>
        refine (emits_fileInSession hs hc m.item rest session).bind hs ?_
        rintro ⟨answer'', session₁⟩ es r₃ hvisit
        refine (emits_ask (hs.closed c hc session₁ _)).bind hs ?_
        rintro _ _ r₄ ⟨rfl, hmarks''⟩
        refine emits_pure hs ?_
        rw [hmarks'', List.append_nil]
        exact .visited t (hmarks'.trans hmarks ▸ hvisit)

theorem emits_place (hs : s.Follows R) (path : Text) (res : Resolution) :
    Emits R r (place s d d.markActions path res) (Placed s d path res r.marks) := by
  unfold place
  cases hm : res.folder.mountpoint? with
  | some m =>
    refine (emits_fileRemotely hs m res.remaining).bind hs ?_
    rintro answer es r₁ htrip
    match answer with
    | .ok true =>
      refine emits_pure hs ?_
      rw [List.append_nil]
      exact .remote hm htrip
    | .ok false =>
      refine emits_pure hs ?_
      rw [List.append_nil]
      exact .absent hm htrip
    | .error e =>
      refine (emits_tell hs _).bind hs ?_
      rintro _ _ r₂ ⟨rfl, hmarks⟩
      refine emits_pure hs ?_
      rw [hmarks, List.append_nil]
      exact .failed hm htrip
  | none =>
    simp only
    split
    · rename_i hpartial
      refine (emits_tell hs _).bind hs ?_
      rintro _ _ r₁ ⟨rfl, hmarks⟩
      exact emits_pure hs (hmarks ▸ .partway hm hpartial)
    · rename_i hpartial
      split
      · rename_i hroot
        refine (emits_tell hs _).bind hs ?_
        rintro _ _ r₁ ⟨rfl, hmarks⟩
        exact emits_pure hs (hmarks ▸ .root hm (by simpa using hpartial) hroot)
      · rename_i hroot
        exact emits_pure hs (.own hm (by simpa using hpartial) hroot)

theorem emits_fileInto (hs : s.Follows R) (path : Text) :
    Emits R r (fileInto s d d.markActions path) (Block s d (.fileInto path) r.marks) := by
  refine (emits_ask (hs.resolved .root path _)).bind hs ?_
  rintro answer _ r₁ ⟨rfl, hmarks⟩
  match answer with
  | .error e => exact emits_pure hs (hmarks ▸ .unresolved path e)
  | .ok res =>
    refine (emits_place hs path res).bind hs ?_
    rintro place es r₂ hplaced
    rw [hmarks] at hplaced
    match place with
    | .remote =>
      refine emits_pure hs ?_
      rw [List.append_nil]
      exact .remote path res hplaced
    | .folder id =>
      refine (emits_file hs id).mono ?_
      intro answer es' known hfiled
      show Block s d (.fileInto path) r.marks answer
        (.resolved .root path (.ok res) :: (es ++ es')) known
      exact .filed path res hplaced hfiled

theorem emits_sendOn (hs : s.Follows R) (address : Text) :
    Emits R r (sendOn s d address) fun answer es known =>
      Posting s d address answer es ∧ known = r.marks := by
  unfold sendOn
  cases hparse : Recipient.parse address with
  | error e => exact emits_pure hs ⟨.unreadable e hparse, rfl⟩
  | ok recipient =>
    cases hsend : s.sender with
    | none => exact emits_pure hs ⟨.senderless recipient hparse hsend, rfl⟩
    | some send =>
      refine (emits_draw (hs.stamped _)).bind hs ?_
      rintro stamp _ r₁ ⟨rfl, hmarks⟩
      refine (emits_tellAll hs _).bind hs ?_
      rintro _ _ r₂ ⟨rfl, hmarks'⟩
      refine (emits_ask (hs.sent send hsend _ _ _)).mono ?_
      rintro answer _ _ ⟨rfl, rfl⟩
      exact ⟨.sent recipient stamp answer hparse, hmarks'.trans hmarks⟩

theorem emits_redirect (hs : s.Follows R) (address : Text) :
    Emits R r (redirect s d d.markActions address) (Block s d (.redirect address) r.marks) := by
  refine (emits_tell hs _).bind hs ?_
  rintro _ _ r₁ ⟨rfl, hmarks⟩
  refine (emits_sendOn hs address).bind hs ?_
  rintro answer es r₂ ⟨hposting, hmarks'⟩
  have hknown : r₂.marks = r.marks := hmarks'.trans hmarks
  match answer with
  | .ok () =>
    refine emits_pure hs ?_
    rw [hknown, List.append_nil]
    exact .sent address hposting
  | .error e =>
    refine (emits_tell hs _).bind hs ?_
    rintro _ _ r₃ ⟨rfl, hmarks''⟩
    refine (emits_file hs .inbox).bind hs ?_
    rintro answer es' r₄ hfiled
    refine emits_pure hs ?_
    rw [List.append_nil]
    exact .returned address hposting (hmarks''.trans hknown ▸ hfiled)

/-- **What an action writes down.**  Every delivery action adds events of the form `Block`. -/
theorem emits_perform (hs : s.Follows R) (a : DeliveryAction) :
    Emits R r (perform s d d.markActions a) (Block s d a r.marks) := by
  match a with
  | .keep true => exact (emits_file hs _).mono fun _ _ _ h => .kept true h
  | .keep false => exact (emits_file hs _).mono fun _ _ _ h => .kept false h
  | .fileInto path => exact emits_fileInto hs path
  | .redirect address => exact emits_redirect hs address

/-! ## What the store is asked for

Only to resolve a path and to file the message is the store asked for something that a delivery
cannot do without.  The forms below do neither. -/

/-- The events neither resolve a path nor file the message. -/
def Quiet (es : List Event) : Prop :=
  ∀ e ∈ es, e.isQuiet = true

theorem quiet_append {es es' : List Event} : Quiet (es ++ es') ↔ Quiet es ∧ Quiet es' :=
  List.forall_mem_append

theorem quiet_cons {e : Event} {es : List Event} :
    Quiet (e :: es) ↔ e.isQuiet = true ∧ Quiet es :=
  List.forall_mem_cons

theorem quiet_nil : Quiet [] :=
  List.forall_mem_nil _

theorem quiet_singleton {e : Event} (h : e.isQuiet = true) : Quiet [e] :=
  List.forall_mem_singleton.2 h

theorem quiet_notices (ns : List Notice) : Quiet (ns.map .noticed) := by
  intro e he
  obtain ⟨n, -, rfl⟩ := List.mem_map.1 he
  rfl

/-- What speaks of filings and resolved paths only has nothing to say about quiet events. -/
theorem Quiet.filterMap_eq_nil {α : Type} {es : List Event} {f : Event → Option α} (h : Quiet es)
    (hf : ∀ e : Event, e.isQuiet = true → f e = none) : es.filterMap f = [] :=
  List.filterMap_eq_nil_iff.2 fun e he => hf e (h e he)

/-- Asking for the marks gives rise to answers about marks and to notices only. -/
theorem Marking.forall_mem {P : Event → Prop} {known : Option Marks} {marks : Marks}
    {es : List Event} (h : Marking d known marks es) (hmarked : ∀ answer, P (.marked answer))
    (hnoticed : ∀ n, P (.noticed n)) : ∀ e ∈ es, P e := by
  cases h with
  | known => exact List.forall_mem_nil _
  | asked answers =>
    intro e he
    obtain ⟨answer, -, he⟩ := List.mem_flatMap.1 he
    rcases List.mem_cons.1 he with rfl | he
    · exact hmarked answer
    · obtain ⟨n, -, rfl⟩ := List.mem_map.1 he
      exact hnoticed n

theorem Marking.quiet {known : Option Marks} {marks : Marks} {es : List Event}
    (h : Marking d known marks es) : Quiet es :=
  h.forall_mem (fun _ => rfl) fun _ => rfl

theorem Lookup.quiet {item : ItemId} {rest : Option Text}
    {answer : Except RemoteError (Option RemoteFolder)} {es : List Event}
    (h : Lookup item rest answer es) : Quiet es := by
  cases h <;> simp [Quiet, Event.isQuiet]

theorem Visit.quiet {item : ItemId} {rest : Option Text} {known known' : Option Marks}
    {answer : Except RemoteError Bool} {es : List Event}
    (h : Visit d item rest known answer es known') : Quiet es := by
  cases h with
  | lost h | nowhere h => exact h.quiet
  | appended answer h hm =>
    exact quiet_append.2 ⟨h.quiet, quiet_append.2 ⟨hm.quiet, quiet_singleton rfl⟩⟩

theorem Trip.quiet {m : Mountpoint} {rest : Option Text} {known known' : Option Marks}
    {answer : Except RemoteError Bool} {es : List Event}
    (h : Trip s d m rest known answer es known') : Quiet es := by
  cases h with
  | unconnected => exact quiet_nil
  | tokenless => exact quiet_singleton rfl
  | refused => exact quiet_cons.2 ⟨rfl, quiet_singleton rfl⟩
  | visited t h =>
    exact quiet_cons.2 ⟨rfl, quiet_cons.2 ⟨rfl, quiet_append.2 ⟨h.quiet, quiet_singleton rfl⟩⟩⟩

theorem Placed.quiet {path : Text} {res : Resolution} {known known' : Option Marks} {place : Place}
    {es : List Event} (h : Placed s d path res known place es known') : Quiet es := by
  cases h with
  | remote hm h | absent hm h => exact h.quiet
  | failed hm h => exact quiet_append.2 ⟨h.quiet, quiet_singleton rfl⟩
  | partway | root => exact quiet_singleton rfl
  | own => exact quiet_nil

theorem Posting.quiet {address : Text} {answer : Except SendError Unit} {es : List Event}
    (h : Posting s d address answer es) : Quiet es := by
  cases h with
  | unreadable | senderless => exact quiet_nil
  | sent => exact quiet_append.2 ⟨quiet_notices _, quiet_singleton rfl⟩

end Delivery

end Postroom
