import Postroom.Proofs.Delivery.Conservation
import Postroom.Proofs.Mailbox.Folders

/-!
# Deliveries to a mailbox

A mailbox next to the collaborators of a delivery makes up its surroundings.  The events of a run
then say what the mailbox was asked and how it answered, and a block either leaves the mailbox
alone, because the message went elsewhere, or files one copy at a place that only the action, the
delivery and the folders decide.
-/

namespace Postroom

variable {ρ σ τ : Type}

/-- The store over a world that has another part. -/
def Store.beside (s : Store σ) : Store (σ × ρ) where
  authToken := fun w => ((s.authToken w.1).1, ((s.authToken w.1).2, w.2))
  addMessage := fun f w => ((s.addMessage f w.1).1, ((s.addMessage f w.1).2, w.2))
  resolve := fun root path w => ((s.resolve root path w.1).1, ((s.resolve root path w.1).2, w.2))
  tagByName := fun name w => ((s.tagByName name w.1).1, ((s.tagByName name w.1).2, w.2))
  flagById := fun id w => ((s.flagById id w.1).1, ((s.flagById id w.1).2, w.2))

/-- The connector over a world that has another part. -/
def Connector.beside (c : Connector ρ τ) : Connector (σ × ρ) τ where
  connect := fun t owner w => ((c.connect t owner w.2).1, (w.1, (c.connect t owner w.2).2))
  folder := fun item t w =>
    ((c.folder item t w.2).1, (c.folder item t w.2).2.1, (w.1, (c.folder item t w.2).2.2))
  subfolder := fun parent path t w =>
    ((c.subfolder parent path t w.2).1, (c.subfolder parent path t w.2).2.1,
      (w.1, (c.subfolder parent path t w.2).2.2))
  append := fun folder flags raw t w =>
    ((c.append folder flags raw t w.2).1, (c.append folder flags raw t w.2).2.1,
      (w.1, (c.append folder flags raw t w.2).2.2))
  close := fun t w => (w.1, c.close t w.2)

/-- The sender over a world that has another part. -/
def Sender.beside (send : Sender ρ) : Sender (σ × ρ) :=
  fun email recipient w =>
    ((send email recipient w.2).1, (w.1, (send email recipient w.2).2))

/-- A mailbox and, in a world of their own, a connector and a sender. -/
def Mailbox.surroundings (connector : Option (Connector ρ τ)) (sender : Option (Sender ρ))
    (stamp : ρ → Forward.Stamp × ρ) : Surroundings (Mailbox × ρ) τ where
  store := Mailbox.store.beside
  connector := connector.map Connector.beside
  sender := sender.map Sender.beside
  stamp := fun w => ((stamp w.2).1, (w.1, (stamp w.2).2))

/-- The change to a mailbox that an event asks for. -/
def Event.operation? : Event → Option Mailbox.Operation
  | filed f _ => some (.addMessage f)
  | _ => none

namespace Mailbox

/-- The mailbox after events. -/
def after (m : Mailbox) (es : List Event) : Mailbox :=
  m.run (es.filterMap Event.operation?)

/-- The answers of events are those that the mailbox gives when they happen. -/
def Answers (m : Mailbox) : List Event → Prop
  | [] => True
  | .filed f answer :: es => answer = (m.addMessage f).1 ∧ (m.addMessage f).2.Answers es
  | .resolved root path answer :: es => answer = m.resolve root path ∧ m.Answers es
  | _ :: es => m.Answers es

@[simp] theorem after_nil (m : Mailbox) : m.after [] = m := rfl

theorem after_append (m : Mailbox) (es es' : List Event) :
    m.after (es ++ es') = (m.after es).after es' := by
  simp [after, run_append]

theorem after_of_no_operation {m : Mailbox} {es : List Event}
    (h : es.filterMap Event.operation? = []) : m.after es = m := by
  rw [after, h, run_nil]

/-- A delivery leaves the folders alone. -/
theorem folders_after (m : Mailbox) (es : List Event) : (m.after es).folders = m.folders := by
  induction es generalizing m with
  | nil => rfl
  | cons e es ih =>
    cases e with
    | filed f answer => exact (ih (m.addMessage f).2).trans (folders_addMessage m f)
    | _ => exact ih m

theorem answers_append {m : Mailbox} {es es' : List Event} :
    m.Answers (es ++ es') ↔ m.Answers es ∧ (m.after es).Answers es' := by
  induction es generalizing m with
  | nil => simp [Answers]
  | cons e es ih =>
    cases e with
    | filed f answer =>
      show (_ ∧ (m.addMessage f).2.Answers (es ++ es')) ↔ (_ ∧ _) ∧ _
      rw [ih, and_assoc]
      rfl
    | resolved root path answer =>
      show (_ ∧ m.Answers (es ++ es')) ↔ (_ ∧ _) ∧ _
      rw [ih, and_assoc]
      rfl
    | _ => exact ih

/-- The copies that events speak of are those that the mailbox accepted. -/
theorem Answers.copies {m : Mailbox} {es : List Event} (h : m.Answers es) :
    es.filterMap Event.copy? = (m.accepted (es.filterMap Event.operation?)).map (·.2) := by
  induction es generalizing m with
  | nil => rfl
  | cons e es ih =>
    cases e with
    | filed f answer =>
      obtain ⟨rfl, h⟩ := h
      rw [List.filterMap_cons, ih h]
      show _ = (m.accepted (.addMessage f :: es.filterMap Event.operation?)).map (·.2)
      rw [accepted, List.map_append, apply, copy?]
      cases (m.addMessage f).1 with
      | error e => rfl
      | ok copy => cases copy <;> rfl
    | resolved root path answer => exact ih h.2
    | _ => exact ih h

/-- When events leave the mailbox as it is, they speak of no copy. -/
theorem Answers.copies_eq_nil {m : Mailbox} {es : List Event} (h : m.Answers es)
    (hafter : m.after es = m) : es.filterMap Event.copy? = [] := by
  have hmessages := messages_run m (es.filterMap Event.operation?)
  rw [← after, hafter] at hmessages
  rw [h.copies]
  simpa using hmessages

/-- The requests of a delivery are answered by the mailbox, and only filings change it. -/
theorem surroundings_follows (connector : Option (Connector ρ τ)) (sender : Option (Sender ρ))
    (stamp : ρ → Forward.Stamp × ρ) :
    (surroundings connector sender stamp).Follows fun w es w' =>
      w.1.Answers es ∧ w'.1 = w.1.after es := by
  constructor
  case trans =>
    rintro w w' w'' es es' ⟨hes, hw'⟩ ⟨hes', hw''⟩
    rw [hw'] at hes' hw''
    exact ⟨answers_append.2 ⟨hes, hes'⟩, hw''.trans (after_append ..).symm⟩
  case refl | noticed | stamped | token | markedFlag | markedTag =>
    intros
    exact ⟨trivial, rfl⟩
  case resolved | filed =>
    intros
    exact ⟨⟨rfl, trivial⟩, rfl⟩
  case connected | foundFolder | foundSubfolder | appended | closed =>
    intro c hc
    obtain ⟨c, -, rfl⟩ := Option.map_eq_some_iff.1 hc
    intros
    exact ⟨trivial, rfl⟩
  case sent =>
    intro send hsend
    obtain ⟨send, -, rfl⟩ := Option.map_eq_some_iff.1 hsend
    intros
    exact ⟨trivial, rfl⟩

end Mailbox

/-- The effect takes the message out of the mailbox: to another account, or on its way. -/
def Effect.leaves : Effect → Bool
  | copy _ _ | duplicate _ => false
  | remote _ _ _ | mail _ _ => true

/-- What becomes of a message whose filing is answered, by the action that led to it. -/
def DeliveryAction.outcome (copy : Option StoredMessage) : DeliveryAction → Outcome
  | redirect _ => .elsewhere
  | keep _ | fileInto _ => .ofCopy copy

/-- Where the message is filed in the mailbox when it does not go along a mountpoint. -/
def Resolution.localFolder (r : Resolution) : FolderId :=
  if r.folder.isMountpoint || r.isPartial || r.folder.id == .root then .inbox else r.folder.id

namespace Delivery

variable {s : Surroundings σ τ} {d : Delivery} {known known' : Option Marks} {m : Mailbox}

/-- Events by which the message leaves the mailbox. -/
def Leaves (es : List Event) : Prop :=
  ∃ e ∈ es.filterMap Event.effect?, e.leaves = true

instance (es : List Event) : Decidable (Leaves es) :=
  inferInstanceAs (Decidable (∃ e ∈ es.filterMap Event.effect?, e.leaves = true))

theorem leaves_append {es es' : List Event} : Leaves (es ++ es') ↔ Leaves es ∨ Leaves es' := by
  simp only [Leaves, List.filterMap_append, List.mem_append, or_and_right, exists_or]

theorem leaves_cons {e : Event} {es : List Event} (h : e.effect? = none) :
    Leaves (e :: es) ↔ Leaves es := by
  rw [Leaves, List.filterMap_cons_none h, Leaves]

theorem not_leaves_of_effects {es : List Event} (h : es.filterMap Event.effect? = []) :
    ¬ Leaves es := by
  simp [Leaves, h]

/-- The folder that an action files in, if it files in the mailbox. -/
def destination (d : Delivery) (m : Mailbox) : DeliveryAction → FolderId
  | .keep true => d.defaultFolder
  | .keep false => .inbox
  | .fileInto path =>
    match m.resolve .root path with
    | .ok r => r.localFolder
    | .error _ => .inbox
  | .redirect _ => .inbox

/-- The destination takes messages. -/
theorem takes_destination (hm : m.Rooted) (d : Delivery) (a : DeliveryAction) :
    m.Takes (d.destination m a) := by
  match a with
  | .keep true =>
    simp only [destination, defaultFolder]
    split
    · exact hm.takes_spam
    · exact hm.takes_inbox
  | .keep false | .redirect _ => exact hm.takes_inbox
  | .fileInto path =>
    obtain ⟨r, hr, hmem⟩ := hm.resolve_root path
    simp only [destination, hr, Resolution.localFolder]
    split
    · exact hm.takes_inbox
    · rename_i hown
      refine ⟨r.folder, hm.folder?_of_mem hmem, ?_⟩
      simp only [Bool.or_eq_true, not_or, Bool.not_eq_true] at hown
      exact hown.1.1

theorem destination_congr {m m' : Mailbox} (hfolders : m'.folders = m.folders) {d d' : Delivery}
    (hspam : d'.isSpam = d.isSpam) (a : DeliveryAction) :
    d'.destination m' a = d.destination m a := by
  match a with
  | .keep true => simp only [destination, defaultFolder, hspam]
  | .keep false | .redirect _ => rfl
  | .fileInto path => simp only [destination, Mailbox.resolve_congr hfolders]

/-! ## The operations of each form -/

theorem operations_of_quiet {es : List Event} (h : Quiet es) :
    es.filterMap Event.operation? = [] := by
  refine h.filterMap_eq_nil fun e he => ?_
  cases e with
  | filed => cases he
  | _ => rfl

theorem Marking.operations {marks : Marks} {es : List Event} (h : Marking d known marks es) :
    es.filterMap Event.operation? = [] :=
  operations_of_quiet h.quiet

theorem Placed.operations {path : Text} {r : Resolution} {place : Place} {es : List Event}
    (h : Placed s d path r known place es known') : es.filterMap Event.operation? = [] :=
  operations_of_quiet h.quiet

theorem Posting.operations {address : Text} {answer : Except SendError Unit} {es : List Event}
    (h : Posting s d address answer es) : es.filterMap Event.operation? = [] :=
  operations_of_quiet h.quiet

/-- The folder at a place is the one that the resolution decides. -/
theorem Placed.folder_eq {path : Text} {r : Resolution} {folder : FolderId} {es : List Event}
    (h : Placed s d path r known (.folder folder) es known') : folder = r.localFolder := by
  cases h with
  | absent hm h | failed hm h => simp [Resolution.localFolder, Folder.isMountpoint, hm]
  | partway hm h => simp [Resolution.localFolder, h]
  | root hm h hroot => simp [Resolution.localFolder, hroot]
  | own hm h hroot => simp [Resolution.localFolder, Folder.isMountpoint, hm, h, hroot]

/-- By a filing the message stays in the mailbox. -/
theorem Filed.not_leaves {folder : FolderId} {answer : Except StoreError Outcome} {es : List Event}
    (h : Filed d folder known answer es known') : ¬ Leaves es := by
  cases h with
  | intro answer hmarking =>
    rw [leaves_append]
    refine not_or.2 ⟨not_leaves_of_effects hmarking.effects, ?_⟩
    rintro ⟨e, he, hleaves⟩
    match answer with
    | .error e' => simp [Event.effect?] at he
    | .ok none | .ok (some stored) =>
      obtain rfl : e = _ := List.mem_singleton.1 he
      cases hleaves

/-- A message that another account has taken has left. -/
theorem Placed.leaves {path : Text} {r : Resolution} {es : List Event}
    (h : Placed s d path r known .remote es known') : Leaves es := by
  rcases h.effects with ⟨-, folder, flags, heffect⟩ | ⟨hne, -⟩
  · exact ⟨.remote folder flags d.message.raw, heffect ▸ List.mem_singleton_self _, rfl⟩
  · exact absurd rfl hne

/-- Before the message is filed in a folder, it has not left. -/
theorem Placed.not_leaves {path : Text} {r : Resolution} {folder : FolderId} {es : List Event}
    (h : Placed s d path r known (.folder folder) es known') : ¬ Leaves es := by
  rcases h.effects with ⟨hremote, -⟩ | ⟨-, hnone⟩
  · cases hremote
  · exact not_leaves_of_effects hnone

/-- A message that has been sent on has left. -/
theorem Posting.leaves {address : Text} {es : List Event}
    (h : Posting s d address (.ok ()) es) : Leaves es := by
  rcases h.effects with ⟨-, email, recipient, heffect, -⟩ | ⟨hne, -⟩
  · exact ⟨.mail email recipient, heffect ▸ List.mem_singleton_self _, rfl⟩
  · exact absurd rfl hne

/-- A message that could not be sent on has not left. -/
theorem Posting.not_leaves {address : Text} {e : SendError} {es : List Event}
    (h : Posting s d address (.error e) es) : ¬ Leaves es := by
  rcases h.effects with ⟨hsent, -⟩ | ⟨-, hnone⟩
  · cases hsent
  · exact not_leaves_of_effects hnone

/-- A filing asks the mailbox for one copy in the folder and gives its answer. -/
theorem Filed.filing_of_answers {folder : FolderId} {answer : Except StoreError Outcome}
    {es : List Event} (h : Filed d folder known answer es known') (hes : m.Answers es) :
    ∃ f, es.filterMap Event.operation? = [.addMessage f] ∧ f.folder = folder ∧
      f.recipient = d.recipient ∧ f.context = d.context ∧
      answer = (m.addMessage f).1.map .ofCopy := by
  cases h with
  | @intro marks marking answer hmarking =>
    have hnone := hmarking.operations
    refine ⟨d.filing folder marks, ?_, rfl, rfl, rfl, ?_⟩
    · rw [List.filterMap_append, hnone]
      rfl
    · obtain ⟨-, hanswer, -⟩ := Mailbox.answers_append.1 hes
      rw [hanswer, Mailbox.after_of_no_operation hnone]

/-- **What an action does to a mailbox.**  Either the message leaves, and the mailbox is not asked
for anything, or one copy is filed at the destination of the action; the mailbox never refuses. -/
theorem Block.leaves_or_files {a : DeliveryAction} {answer : Except StoreError Outcome}
    {es : List Event} (h : Block s d a known answer es known') (hm : m.Rooted)
    (hes : m.Answers es) :
    (answer = .ok .elsewhere ∧ Leaves es ∧ es.filterMap Event.operation? = []) ∨
      ∃ f copy, es.filterMap Event.operation? = [.addMessage f] ∧
        f.folder = d.destination m a ∧ f.recipient = d.recipient ∧ f.context = d.context ∧
        ¬ Leaves es ∧ (m.addMessage f).1 = .ok copy ∧ answer = .ok (a.outcome copy) := by
  -- the destination takes messages, so that the mailbox does not refuse a filing there
  have hok : ∀ f : Filing, f.folder = d.destination m a → ∃ copy, (m.addMessage f).1 = .ok copy :=
    fun f hf => Mailbox.addMessage_ok (hf ▸ takes_destination hm d a)
  cases h with
  | kept implicit h =>
    obtain ⟨f, hops, hfolder, hrecipient, hcontext, hanswer⟩ := h.filing_of_answers hes
    have hdest : f.folder = d.destination m (.keep implicit) := by
      cases implicit <;> exact hfolder
    obtain ⟨copy, hcopy⟩ := hok f hdest
    rw [hcopy] at hanswer
    exact Or.inr ⟨f, copy, hops, hdest, hrecipient, hcontext, h.not_leaves, hcopy, hanswer⟩
  | unresolved path e =>
    -- the mailbox resolves every path
    obtain ⟨r, hr, -⟩ := hm.resolve_root path
    obtain ⟨he, -⟩ := hes
    rw [hr] at he
    cases he
  | remote path r h => exact Or.inl ⟨rfl, (leaves_cons rfl).2 h.leaves, h.operations⟩
  | @filed _ _ _ _ folder es es' path r h hf =>
    obtain ⟨hr, hes⟩ := hes
    obtain ⟨-, hes'⟩ := Mailbox.answers_append.1 hes
    rw [Mailbox.after_of_no_operation h.operations] at hes'
    obtain ⟨f, hops, hfolder, hrecipient, hcontext, hanswer⟩ := hf.filing_of_answers hes'
    have hdest : f.folder = d.destination m (.fileInto path) := by
      rw [hfolder, h.folder_eq, destination, ← hr]
    obtain ⟨copy, hcopy⟩ := hok f hdest
    rw [hcopy] at hanswer
    refine Or.inr ⟨f, copy, ?_, hdest, hrecipient, hcontext, ?_, hcopy, hanswer⟩
    · rw [List.filterMap_cons_none rfl, List.filterMap_append, h.operations, hops]
      rfl
    · rw [leaves_cons rfl, leaves_append]
      exact not_or.2 ⟨h.not_leaves, hf.not_leaves⟩
  | sent address h => exact Or.inl ⟨rfl, (leaves_cons rfl).2 h.leaves, h.operations⟩
  | @returned _ _ _ _ es es' address h hf =>
    obtain ⟨-, hes'⟩ := Mailbox.answers_append.1 (show m.Answers (es ++ _) from hes)
    -- the attempt to send the message on has left the mailbox alone
    rw [Mailbox.after_of_no_operation h.operations] at hes'
    obtain ⟨f, hops, hfolder, hrecipient, hcontext, hanswer⟩ := hf.filing_of_answers hes'
    obtain ⟨copy, hcopy⟩ := hok f hfolder
    rw [hcopy] at hanswer
    refine Or.inr ⟨f, copy, ?_, hfolder, hrecipient, hcontext, ?_, hcopy, ?_⟩
    · rw [List.filterMap_cons_none rfl, List.filterMap_append, h.operations, List.nil_append,
        List.filterMap_cons_none rfl, hops]
    · rw [leaves_cons rfl, leaves_append, leaves_cons rfl]
      exact not_or.2 ⟨h.not_leaves, hf.not_leaves⟩
    · rw [hanswer]
      rfl

/-- Every entry of a log is a block, and the answers in it are those of the mailbox as the entries
before have left it. -/
theorem Course.entries {todo : List DeliveryAction} {log : List (DeliveryAction × List Event)}
    {answer : Except StoreError Bool} (h : Course s d known todo log answer)
    (hes : m.Answers (eventsOf log)) : ∀ entry ∈ log, ∃ before known first known',
      (m.after before).Answers entry.2 ∧ Block s d entry.1 known first entry.2 known' := by
  induction h generalizing m with
  | done => exact List.forall_mem_nil _
  | failed h | stopped h =>
    obtain ⟨hes, -⟩ := Mailbox.answers_append.1 hes
    exact List.forall_mem_singleton.2 ⟨[], _, _, _, hes, h⟩
  | @step _ _ _ _ _ es _ _ h hgo hrest ih =>
    obtain ⟨hes, hlater⟩ := Mailbox.answers_append.1 hes
    refine List.forall_mem_cons.2 ⟨⟨[], _, _, _, hes, h⟩, ?_⟩
    intro entry hentry
    obtain ⟨before, hblock⟩ := ih hlater entry hentry
    exact ⟨es ++ before, by rwa [Mailbox.after_append]⟩

end Delivery

end Postroom
