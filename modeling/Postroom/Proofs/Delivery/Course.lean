import Postroom.Proofs.Delivery.Books

/-!
# The course of a run

`Delivery.log` tells the events of a run apart by the actions that gave rise to them.  A run is a
sequence of blocks that ends with its actions, at an error of the store or at a duplicate; `Course`
says so, and what holds of whole runs is proved by induction on it.

A message without delivery actions is treated apart from the others in a run, but it takes the
course of a message with the one action to file it where it goes by default (`runActions_eq`).
-/

namespace Postroom.Delivery

variable {σ τ : Type}

/-- The actions that a run carries out from `r` on, each with the events it adds. -/
def logFrom (s : Surroundings σ τ) (d : Delivery) (actions : List MarkAction) :
    List DeliveryAction → Run σ → List (DeliveryAction × List Event)
  | [], _ => []
  | a :: rest, r =>
    let (answer, r') := perform s d actions a r
    (a, r'.events.drop r.events.length) ::
      match answer with
      | .error _ | .ok .duplicate => []
      | .ok _ => logFrom s d actions rest r'

/-- The delivery actions of a list; a message without any goes where it goes by default. -/
def steps (c : ClassifiedActions) : List DeliveryAction :=
  if c.delivery.isEmpty then [.keep true] else c.delivery

/-- What is to be done with the message: its delivery actions, or the default. -/
def todo (d : Delivery) : List DeliveryAction :=
  steps (Action.classify d.actions)

/-- The state in which a run carries out what is to be done. -/
def carryingOut (d : Delivery) : DeliveryState :=
  if (Action.classify d.actions).delivery = [] then .classified else .actionsApplied

/-- The run that is about to carry out what is to be done. -/
def toBusyRun (d : Delivery) (w : σ) : Run σ :=
  { d.toRun w with state := d.carryingOut }

/-- The actions that a run carries out, each with its events. -/
def log (s : Surroundings σ τ) (d : Delivery) (w : σ) : List (DeliveryAction × List Event) :=
  if d.actions.isEmpty then []
  else logFrom s d (Action.classify d.actions).marks d.todo (d.toBusyRun w)

/-- The events of a log in order. -/
def eventsOf (log : List (DeliveryAction × List Event)) : List Event :=
  log.flatMap (·.2)

@[simp] theorem eventsOf_nil : eventsOf [] = [] := rfl

@[simp] theorem eventsOf_cons (entry : DeliveryAction × List Event)
    (log : List (DeliveryAction × List Event)) :
    eventsOf (entry :: log) = entry.2 ++ eventsOf log := rfl

/-- Blocks in the order of the actions: what is known of the marks at first, the actions, the blocks
of those that are carried out, and how it ends. -/
inductive Course (s : Surroundings σ τ) (d : Delivery) :
    Option Marks → List DeliveryAction → List (DeliveryAction × List Event) →
      Except StoreError Bool → Prop
  | done (known : Option Marks) : Course s d known [] [] (.ok false)
  | failed {known known' : Option Marks} {a : DeliveryAction} {rest : List DeliveryAction}
      {e : StoreError} {es : List Event} (h : Block s d a known (.error e) es known') :
      Course s d known (a :: rest) [(a, es)] (.error e)
  | stopped {known known' : Option Marks} {a : DeliveryAction} {rest : List DeliveryAction}
      {es : List Event} (h : Block s d a known (.ok .duplicate) es known') :
      Course s d known (a :: rest) [(a, es)] (.ok true)
  | step {known known' : Option Marks} {a : DeliveryAction} {rest : List DeliveryAction}
      {outcome : Outcome} {es : List Event} {log : List (DeliveryAction × List Event)}
      {answer : Except StoreError Bool} (h : Block s d a known (.ok outcome) es known')
      (hgo : outcome ≠ .duplicate) (hrest : Course s d known' rest log answer) :
      Course s d known (a :: rest) ((a, es) :: log) answer

variable {R : σ → List Event → σ → Prop} {s : Surroundings σ τ} {d : Delivery}
  {actions : List MarkAction}

/-- The first block of a course, and what follows it. -/
theorem Course.cons_cases {known : Option Marks} {a : DeliveryAction} {rest : List DeliveryAction}
    {log : List (DeliveryAction × List Event)} {answer : Except StoreError Bool}
    (h : Course s d known (a :: rest) log answer) :
    ∃ es later known' first, log = (a, es) :: later ∧ Block s d a known first es known' ∧
      ((∃ e, first = .error e ∧ later = [] ∧ answer = .error e) ∨
        (first = .ok .duplicate ∧ later = [] ∧ answer = .ok true) ∨
        ∃ outcome, first = .ok outcome ∧ outcome ≠ .duplicate ∧
          Course s d known' rest later answer) := by
  cases h with
  | @failed _ _ _ _ e es h => exact ⟨es, [], _, _, rfl, h, Or.inl ⟨e, rfl, rfl, rfl⟩⟩
  | @stopped _ _ _ _ es h => exact ⟨es, [], _, _, rfl, h, Or.inr (Or.inl ⟨rfl, rfl, rfl⟩)⟩
  | @step _ _ _ _ outcome es log _ h hgo hrest =>
    exact ⟨es, log, _, _, rfl, h, Or.inr (Or.inr ⟨outcome, rfl, hgo, hrest⟩)⟩

/-- Every entry of a log is a block. -/
theorem Course.block {known : Option Marks} {todo : List DeliveryAction}
    {log : List (DeliveryAction × List Event)} {answer : Except StoreError Bool}
    (h : Course s d known todo log answer) {entry : DeliveryAction × List Event}
    (hentry : entry ∈ log) :
    ∃ known first known', Block s d entry.1 known first entry.2 known' := by
  induction h with
  | done => cases hentry
  | failed h | stopped h =>
    obtain rfl := List.mem_singleton.1 hentry
    exact ⟨_, _, _, h⟩
  | step h hgo hrest ih =>
    rcases List.mem_cons.1 hentry with rfl | hentry
    · exact ⟨_, _, _, h⟩
    · exact ih hentry

/-! ## Runs -/

theorem performAll_cons (a : DeliveryAction) (rest : List DeliveryAction) (r : Run σ) :
    performAll s d actions (a :: rest) r =
      match perform s d actions a r with
      | (.error e, r') => (.error e, r')
      | (.ok .duplicate, r') => (.ok (), { r' with isDuplicate := true })
      | (.ok _, r') => performAll s d actions rest r' := by
  rw [performAll, RunM.bind_apply]
  rcases perform s d actions a r with ⟨_ | _ | _ | _, r'⟩
  all_goals rfl

/-- An action adds the events of a block, and puts their copies to the others. -/
theorem perform_block (hs : s.Follows R) (d : Delivery) (a : DeliveryAction) (r : Run σ) :
    ∃ answer es w known, Block s d a r.marks answer es known ∧ R r.world es w ∧
      perform s d d.markActions a r = (answer, r.extend w known es) := by
  have hemits : RunM.Emits R r (perform s d d.markActions a) (Block s d a r.marks) :=
    emits_perform hs a
  obtain ⟨es, hes, hR, hblock⟩ := hemits
  exact ⟨_, es, _, _, hblock, hR, Prod.ext rfl ((adds_perform s d d.markActions a).eq_extend hes)⟩

/-- What the answer of a course says of a duplicate is entered into the books. -/
def enterAnswer (answer : Except StoreError Bool) (r : Run σ) : Run σ :=
  { r with isDuplicate := r.isDuplicate || answer.toOption.getD false }

/-- Carrying out actions adds the events of the log with their copies, and enters a duplicate when
it ends at one. -/
theorem performAll_course (hs : s.Follows R) (d : Delivery) (todo : List DeliveryAction)
    (r : Run σ) :
    ∃ answer w known, Course s d r.marks todo (logFrom s d d.markActions todo r) answer ∧
      R r.world (eventsOf (logFrom s d d.markActions todo r)) w ∧
      performAll s d d.markActions todo r = (answer.map fun _ => (),
        enterAnswer answer (r.extend w known (eventsOf (logFrom s d d.markActions todo r)))) := by
  induction todo generalizing r with
  | nil =>
    refine ⟨.ok false, r.world, r.marks, .done _, hs.refl _, ?_⟩
    show (Except.ok (), r) = _
    simp [logFrom, Run.extend, enterAnswer, Except.map, Except.toOption]
  | cons a rest ih =>
    obtain ⟨answer, es, w, known, hblock, hR, hrun⟩ := perform_block hs d a r
    -- what the log keeps of the events is what this action has added
    have hdrop : (r.extend w known es).events.drop r.events.length = es := List.drop_left
    rw [performAll_cons]
    simp only [logFrom, hrun, hdrop]
    rcases answer with e | _ | _ | _
    case error =>
      refine ⟨.error e, w, known, .failed hblock, by simpa using hR, ?_⟩
      simp [Run.extend, enterAnswer, Except.map, Except.toOption]
    case ok.duplicate =>
      refine ⟨.ok true, w, known, .stopped hblock, by simpa using hR, ?_⟩
      simp [Run.extend, enterAnswer, Except.map, Except.toOption]
    case ok.filed | ok.elsewhere =>
      obtain ⟨answer', w', known', hcourse, hR', hrun'⟩ := ih (r.extend w known es)
      refine ⟨answer', w', known', .step hblock (by simp) hcourse, hs.trans hR hR', ?_⟩
      rw [Run.extend_extend] at hrun'
      exact hrun'

theorem fileByDefault_of_no_delivery {c : ClassifiedActions} (h : c.delivery = []) (r : Run σ) :
    fileByDefault s d c r =
      match perform s d c.marks (.keep true) r with
      | (.error e, r') => (.error e, r')
      | (.ok .duplicate, r') => (.ok (), { r' with isDuplicate := true, state := .defaultFiled })
      | (.ok _, r') => (.ok (), { r' with state := .defaultFiled }) := by
  have hperform : perform s d c.marks (.keep true) = file s d c.marks d.defaultFolder := rfl
  rw [fileByDefault, if_pos (by rw [h]; rfl), RunM.bind_apply, hperform]
  rcases file s d c.marks d.defaultFolder r with ⟨_ | _ | _ | _, r'⟩
  all_goals rfl

/-- **What a run carries out.**  Whether or not there is a delivery action, the run carries out what
is to be done, and is done unless that fails. -/
theorem runActions_eq (s : Surroundings σ τ) {d : Delivery} (h : d.actions ≠ []) (w : σ) :
    runActions s d (d.toRun w) =
      match performAll s d d.markActions d.todo (d.toBusyRun w) with
      | (.error e, r) => (.error e, r)
      | (.ok (), r) => (.ok (), { r with state := .done }) := by
  have hempty : ¬ d.actions.isEmpty = true := by simpa using h
  rw [runActions, if_neg hempty]
  cases hdelivery : (Action.classify d.actions).delivery with
  | nil =>
    have htodo : d.todo = [.keep true] := by simp [todo, steps, hdelivery]
    have hbusy : d.toBusyRun w = (RunM.enter .classified (d.toRun w)).2 := by
      simp [toBusyRun, carryingOut, hdelivery, RunM.enter]
    rw [htodo, performAll_cons, hbusy, RunM.bind_apply, RunM.bind_apply,
      fileByDefault_of_no_delivery hdelivery]
    rcases perform s d d.markActions (.keep true) _ with ⟨_ | _ | _ | _, r⟩
    all_goals rfl
  | cons a rest =>
    have htodo : d.todo = a :: rest := by simp [todo, steps, hdelivery]
    have hbusy : d.toBusyRun w = { d.toRun w with state := .actionsApplied } := by
      simp [toBusyRun, carryingOut, hdelivery]
    have hbefore : fileByDefault s d (Action.classify d.actions)
        (RunM.enter .classified (d.toRun w)).2 = (.ok (), d.toBusyRun w) := by
      rw [fileByDefault, if_neg (by simp [hdelivery]), hbusy]
      rfl
    rw [htodo, RunM.bind_apply, RunM.bind_apply, hbefore]
    simp only [RunM.bind_apply]
    rcases performAll s d d.markActions (a :: rest) (d.toBusyRun w) with ⟨_ | _, r⟩
    all_goals rfl

/-- **What a run leaves.**  A run with actions follows a course.  It has put the copies of its
events to those from before; it ends as a duplicate exactly when the course does, and is done unless
the course fails. -/
theorem execute_eq (hs : s.Follows R) (d : Delivery) (w : σ) (h : d.actions ≠ []) :
    ∃ answer w' known, Course s d none d.todo (d.log s w) answer ∧ R w (eventsOf (d.log s w)) w' ∧
      let copies := d.processed ++ (eventsOf (d.log s w)).filterMap Event.copy?
      d.execute s w =
        { result := answer.map fun _ => copies
          delivery := { d with
            state := if answer.toBool then .done else d.carryingOut
            isDuplicate := answer.toOption.getD false
            known
            processed := copies }
          world := w'
          events := eventsOf (d.log s w) } := by
  obtain ⟨answer, w', known, hcourse, hR, hrun⟩ := performAll_course hs d d.todo (d.toBusyRun w)
  have hlog : d.log s w = logFrom s d d.markActions d.todo (d.toBusyRun w) := by simp [log, h]
  rw [← hlog] at hcourse hR hrun
  refine ⟨answer, w', known, hcourse, hR, ?_⟩
  simp only [execute, runActions_eq s h, hrun]
  match answer with
  | .error e | .ok duplicate => rfl

/-- The answer of a course as what a run with actions leaves. -/
theorem execute_course (hs : s.Follows R) (d : Delivery) (w : σ) (h : d.actions ≠ []) :
    ∃ answer, Course s d none d.todo (d.log s w) answer ∧
      (d.execute s w).events = eventsOf (d.log s w) ∧
      R w (eventsOf (d.log s w)) (d.execute s w).world ∧
      (d.execute s w).result =
        answer.map (fun _ => d.processed ++ (eventsOf (d.log s w)).filterMap Event.copy?) ∧
      ((d.execute s w).delivery.isDuplicate = true ↔ answer = .ok true) := by
  obtain ⟨answer, w', known, hcourse, hR, hx⟩ := execute_eq hs d w h
  rw [hx]
  refine ⟨answer, hcourse, rfl, hR, rfl, ?_⟩
  cases answer <;> simp [Except.toOption]

/-- A run without actions only tells that the message is discarded. -/
theorem execute_of_no_actions (s : Surroundings σ τ) {d : Delivery} (w : σ) (h : d.actions = []) :
    d.execute s w =
      ⟨.ok d.processed, { d with state := .done, isDuplicate := false, known := none }, w,
        [.noticed d.discardNotice]⟩ := by
  have hrun : runActions s d (d.toRun w) = (.ok (), { d.toRun w with
      events := [.noticed d.discardNotice], state := .done }) := by
    simp only [runActions, h, List.isEmpty_nil, if_true]
    rfl
  simp only [execute, hrun]
  rfl

/-- **The books after a run.**  The copies are those from before and those of the events, also when
the run fails, and a run that does not fail answers with them.  A run is done unless it fails, and
is no duplicate when it does. -/
theorem execute_books (s : Surroundings σ τ) (d : Delivery) (w : σ) :
    let x := d.execute s w
    x.delivery.processed = d.processed ++ x.events.filterMap Event.copy? ∧
      x.delivery.state = (if x.result.toBool then .done else d.carryingOut) ∧
      (x.result.toBool = false → x.delivery.isDuplicate = false) ∧
      x.result = x.result.map fun _ => x.delivery.processed := by
  intro x
  by_cases h : d.actions = []
  · have hx : x = _ := execute_of_no_actions s w h
    rw [hx]
    simp [Event.copy?, Except.map, Except.toBool]
  · obtain ⟨answer, w', known, -, -, hx⟩ := execute_eq s.follows_true d w h
    have hx : x = _ := hx
    rw [hx]
    match answer with
    | .error e | .ok duplicate => simp [Except.map, Except.toBool, Except.toOption]

end Postroom.Delivery
