import Postroom.Proofs.Delivery.Faults

/-!
# What a run depends on

A run reads the message, the recipient, the context and the verdict of a delivery, and its actions
by their kinds.  Its state, the marks it knows, whether it ended at a duplicate and the copies it
has filed are only written.  So a run is like the first one of a new delivery, whatever runs there
were before, and has the copies of these in front of its own.

* `RunM.Carries` — parts of a run that carry the copies from before along;
* `Delivery.SameTask` — deliveries that have the same thing to do.
-/

namespace Postroom

variable {σ τ : Type}

/-- The run with copies from before. -/
def Run.prepend (before : List StoredMessage) (r : Run σ) : Run σ :=
  { r with processed := before ++ r.processed }

namespace RunM

variable {α β : Type} {before : List StoredMessage} {f : RunM σ α} {g : α → RunM σ β}

/-- Copies from before are carried along, and make no difference. -/
def Carries (before : List StoredMessage) (f : RunM σ α) : Prop :=
  ∀ r, f (r.prepend before) = ((f r).1, (f r).2.prepend before)

theorem carries_pure (a : α) : Carries before (pure a : RunM σ α) :=
  fun _ => rfl

theorem Carries.bind (hf : Carries before f) (hg : ∀ a, Carries before (g a)) :
    Carries before (f >>= g) := by
  intro r
  show g (f (r.prepend before)).1 (f (r.prepend before)).2 = _
  rw [hf r]
  exact hg _ _

theorem carries_enter (state : DeliveryState) : Carries before (enter state : RunM σ Unit) :=
  fun _ => rfl

theorem carries_markDuplicate : Carries before (markDuplicate : RunM σ Unit) :=
  fun _ => rfl

theorem Adds.carries (hf : Adds f) : Carries before f := by
  intro r
  obtain ⟨a, w, known, es, hrun⟩ := hf r.world r.marks
  rw [hrun r rfl rfl, hrun (r.prepend before) rfl rfl]
  simp [Run.extend, Run.prepend]

end RunM

namespace Delivery

open RunM

variable {s : Surroundings σ τ} {d d' : Delivery} {before : List StoredMessage}

/-! ## Copies from before -/

theorem carries_performAll (s : Surroundings σ τ) (d : Delivery) (actions : List MarkAction)
    (todo : List DeliveryAction) : Carries before (performAll s d actions todo) := by
  induction todo with
  | nil => exact carries_pure _
  | cons a rest ih =>
    refine (adds_perform s d actions a).carries.bind ?_
    rintro (e | ⟨copy⟩ | _ | _)
    · exact carries_pure _
    · exact ih
    · exact carries_markDuplicate.bind fun _ => carries_pure _
    · exact ih

theorem carries_fileByDefault (s : Surroundings σ τ) (d : Delivery) (c : ClassifiedActions) :
    Carries before (fileByDefault s d c) := by
  unfold fileByDefault
  split
  · refine (adds_file s d c.marks d.defaultFolder).carries.bind ?_
    rintro (e | ⟨copy⟩ | _ | _)
    · exact carries_pure _
    · exact (carries_enter _).bind fun _ => carries_pure _
    · exact carries_markDuplicate.bind fun _ => (carries_enter _).bind fun _ => carries_pure _
    · exact (carries_enter _).bind fun _ => carries_pure _
  · exact (carries_enter _).bind fun _ => carries_pure _

theorem carries_runActions (s : Surroundings σ τ) (d : Delivery) :
    Carries before (runActions s d) := by
  unfold runActions
  split
  · exact (adds_tell _).carries.bind fun _ => (carries_enter _).bind fun _ =>
      (carries_enter _).bind fun _ => carries_pure _
  · refine (carries_enter _).bind fun _ => (carries_fileByDefault s d _).bind ?_
    rintro (e | ⟨⟩)
    · exact carries_pure _
    · refine (carries_performAll s d _ _).bind ?_
      rintro (e | ⟨⟩)
      · exact carries_pure _
      · exact (carries_enter _).bind fun _ => carries_pure _

/-- Every run goes over to some state at once, so the state it starts in is forgotten. -/
theorem runActions_forgets (s : Surroundings σ τ) (d : Delivery) (r : Run σ)
    (state : DeliveryState) : runActions s d { r with state } = runActions s d r := by
  unfold runActions
  split <;> rfl

/-! ## Deliveries with the same task -/

/-- Two deliveries have the same thing to do: of actions, what counts is the order in each kind, and
whether there are any. -/
structure SameTask (d d' : Delivery) : Prop where
  message : d'.message = d.message
  recipient : d'.recipient = d.recipient
  context : d'.context = d.context
  isSpam : d'.isSpam = d.isSpam
  classified : Action.classify d'.actions = Action.classify d.actions
  isEmpty : d'.actions.isEmpty = d.actions.isEmpty

namespace SameTask

/-! ## Parts of runs -/

theorem marks (h : SameTask d d') (actions : List MarkAction) :
    Delivery.marks s d' actions = Delivery.marks s d actions := by
  funext r
  simp only [Delivery.marks, h.recipient]

theorem filing (h : SameTask d d') (folder : FolderId) (m : Marks) :
    d'.filing folder m = d.filing folder m := by
  simp only [Delivery.filing, h.message, h.recipient, h.context]

theorem file (h : SameTask d d') (actions : List MarkAction) (folder : FolderId) :
    Delivery.file s d' actions folder = Delivery.file s d actions folder := by
  simp only [Delivery.file, h.marks, h.filing]

theorem fileInSession (h : SameTask d d') (actions : List MarkAction) (c : Connector σ τ)
    (item : ItemId) (rest : Option Text) (session : τ) :
    Delivery.fileInSession s d' actions c item rest session =
      Delivery.fileInSession s d actions c item rest session := by
  simp only [Delivery.fileInSession, h.marks, h.message]

theorem fileInto (h : SameTask d d') (actions : List MarkAction) (path : Text) :
    Delivery.fileInto s d' actions path = Delivery.fileInto s d actions path := by
  simp only [Delivery.fileInto, place, fileRemotely, h.fileInSession, h.file]

theorem redirect (h : SameTask d d') (actions : List MarkAction) (address : Text) :
    Delivery.redirect s d' actions address = Delivery.redirect s d actions address := by
  simp only [Delivery.redirect, sendOn, h.message, h.file]

theorem perform (h : SameTask d d') (actions : List MarkAction) (a : DeliveryAction) :
    Delivery.perform s d' actions a = Delivery.perform s d actions a := by
  match a with
  | .keep true => simp only [Delivery.perform, defaultFolder, h.isSpam, h.file]
  | .keep false => exact h.file actions .inbox
  | .fileInto path => exact h.fileInto actions path
  | .redirect address => exact h.redirect actions address

theorem performAll (h : SameTask d d') (actions : List MarkAction) (todo : List DeliveryAction) :
    Delivery.performAll s d' actions todo = Delivery.performAll s d actions todo := by
  induction todo with
  | nil => rfl
  | cons a rest ih => simp only [Delivery.performAll, h.perform, ih]

theorem fileByDefault (h : SameTask d d') (c : ClassifiedActions) :
    Delivery.fileByDefault s d' c = Delivery.fileByDefault s d c := by
  simp only [Delivery.fileByDefault, defaultFolder, h.isSpam, h.file]

theorem runActions (h : SameTask d d') : Delivery.runActions s d' = Delivery.runActions s d := by
  simp only [Delivery.runActions, h.isEmpty, h.classified, h.fileByDefault, h.performAll,
    discardNotice, h.message]

end SameTask

/-! ## Runs -/

/-- A delivery does what any other one with the same task does.  It keeps its own actions, and has
in front of its copies what it had filed before and the other one had not. -/
theorem SameTask.execute (h : SameTask d d') {before : List StoredMessage}
    (hprocessed : d'.processed = before ++ d.processed) (w : σ) :
    let x := d.execute s w
    d'.execute s w =
      { result := x.result.map (before ++ ·)
        delivery := { x.delivery with
          actions := d'.actions
          processed := before ++ x.delivery.processed }
        world := x.world
        events := x.events } := by
  have hstart : d'.toRun w = { (d.toRun w).prepend before with state := d'.state } := by
    rw [toRun, hprocessed]
    rfl
  have hcarries : Carries before (Delivery.runActions s d) := carries_runActions s d
  simp only [Delivery.execute, h.runActions, hstart, runActions_forgets, hcarries (d.toRun w),
    h.message, h.recipient, h.context, h.isSpam]
  rcases Delivery.runActions s d (d.toRun w) with ⟨_ | _, r⟩
  all_goals rfl

/-! ## Runs of one delivery -/

/-- A call leaves everything but the actions of the task as it is. -/
theorem SameTask.call {p : Progress σ} {actions : List Action}
    (h : SameTask (d.setActions actions) (p.delivery.setActions actions)) (c : Call) :
    SameTask (d.setActions actions) ((p.call s c).delivery.setActions actions) := by
  cases c with
  | setActions _ | addAction _ | execute =>
    exact ⟨h.message, h.recipient, h.context, h.isSpam, rfl, rfl⟩

theorem SameTask.calls {p : Progress σ} {actions : List Action}
    (h : SameTask (d.setActions actions) (p.delivery.setActions actions)) (cs : List Call) :
    SameTask (d.setActions actions) ((p.calls s cs).delivery.setActions actions) := by
  induction cs generalizing p with
  | nil => exact h
  | cons c cs ih => exact ih (h.call c)

/-- **Earlier runs leave no trace in the next one.**  After any calls of its owner, whatever the
runs among them came to, a delivery that is given actions makes the same requests with the same
answers as a new delivery for the same message, recipient and context that is given these actions in
the same world; both leave the same world, fail or succeed alike, and end in the same state, as a
duplicate or not.  What the earlier runs have filed only comes first among the copies. -/
theorem execute_after_calls (s : Surroundings σ τ) (message : Message) (recipient : Text)
    (context : Option ContextId) (detector : SpamDetector) (w : σ) (cs : List Call)
    (actions : List Action) (w' : σ) :
    let new := start message recipient context detector
    let d := (Progress.calls s ⟨new, w, []⟩ cs).delivery
    let x := (d.setActions actions).execute s w'
    let y := (new.setActions actions).execute s w'
    x.events = y.events ∧ x.world = y.world ∧
      x.result = y.result.map (d.processed ++ ·) ∧
      x.delivery.state = y.delivery.state ∧
      x.delivery.isDuplicate = y.delivery.isDuplicate ∧
      x.delivery = { y.delivery with processed := d.processed ++ y.delivery.processed } := by
  intro new d x y
  have hnew : SameTask (new.setActions actions) (new.setActions actions) :=
    ⟨rfl, rfl, rfl, rfl, rfl, rfl⟩
  have htask : SameTask (new.setActions actions) (d.setActions actions) :=
    SameTask.calls (p := ⟨new, w, []⟩) hnew cs
  have hprocessed : d.processed = d.processed ++ new.processed := (List.append_nil _).symm
  have hx : (d.setActions actions).execute s w' = _ := htask.execute hprocessed w'
  simp only [x, hx]
  exact ⟨rfl, rfl, rfl, rfl, rfl, rfl⟩

end Delivery

end Postroom
