import Postroom.Proofs.Delivery.Filings
import Postroom.Proofs.Delivery.Renewal

/-!
# Marks are the same wherever a message goes

A run asks about marks when it first needs them, which can be in the middle of an action that goes
on elsewhere.  The answers split its events in two: nothing takes the message before them, and
nobody is asked again after them.

* `Event.GoesBy` — an event uses the marks that are known;
* `Delivery.MarkedOnce` — events with the answers about marks in one place at most;
* `Store.KeepsMarks` — a store whose copies have the marks they were filed with.
-/

namespace Postroom

variable {ρ σ τ : Type}

/-- The action says where the message goes. -/
def Action.isDelivery : Action → Bool
  | keep _ | fileInto _ | redirect _ => true
  | tag _ | flag _ _ | other _ => false

/-- The action marks the message. -/
def Action.isMark : Action → Bool
  | tag _ | flag _ _ => true
  | keep _ | fileInto _ | redirect _ | other _ => false

/-- The answer about marks that an event is. -/
def Event.answer? : Event → Option MarkAnswer
  | marked answer => some answer
  | _ => none

/-- The event uses the marks that are known and asks for no others.  As long as they are not known,
nothing takes the message. -/
def Event.GoesBy (known : Option Marks) : Event → Prop
  | marked _ => False
  | filed f _ => known = some ⟨f.flags, f.tags⟩
  | appended _ flags _ _ => known.map (TransportFlag.ofBitmask ·.flags) = some flags
  | _ => True

theorem Event.GoesBy.answer? {known : Option Marks} {e : Event} (h : e.GoesBy known) :
    e.answer? = none := by
  cases e <;> first | rfl | cases h

theorem Event.GoesBy.of_none {known : Option Marks} {e : Event} (h : e.GoesBy none) :
    e.GoesBy known := by
  cases e <;> trivial

/-- A copy has the flags and tags of its filing. -/
def Store.KeepsMarks (s : Store σ) : Prop :=
  ∀ f w copy, (s.addMessage f w).1 = .ok (some copy) → copy.flags = f.flags ∧ copy.tags = f.tags

/-- A mailbox keeps marks. -/
theorem Mailbox.surroundings_keepsMarks (connector : Option (Connector ρ τ))
    (sender : Option (Sender ρ)) (stamp : ρ → Forward.Stamp × ρ) :
    (surroundings connector sender stamp).store.KeepsMarks := by
  intro f w copy h
  have hanswer : (w.1.addMessage f).1 = .ok (some copy) := h
  by_cases htakes : w.1.Takes f.folder
  · by_cases hknows : w.1.Knows f
    · rw [addMessage_of_knows htakes hknows] at hanswer
      cases hanswer
    · rw [addMessage_of_not_knows htakes hknows] at hanswer
      cases hanswer
      exact ⟨rfl, rfl⟩
  · obtain ⟨e, he⟩ := addMessage_of_not_takes htakes
    rw [he] at hanswer
    cases hanswer

/-- A store that keeps marks answers each filing with a copy that has its marks. -/
theorem Store.KeepsMarks.follows {s : Surroundings σ τ} (h : s.store.KeepsMarks) :
    s.Follows fun _ es _ => ∀ f copy, .filed f (.ok (some copy)) ∈ es →
      copy.flags = f.flags ∧ copy.tags = f.tags := by
  constructor
  case trans =>
    intro _ _ _ es es' hes hes' f copy hmem
    exact (List.mem_append.1 hmem).elim (hes f copy) (hes' f copy)
  case filed =>
    intro g w f copy hmem
    injection List.mem_singleton.1 hmem with hfiling hanswer
    subst hfiling
    exact h f w copy hanswer.symm
  case refl | stamped =>
    intros
    rename_i hmem
    cases hmem
  -- nothing but a filing is answered with a copy
  all_goals
    intros
    rename_i hmem
    cases List.mem_singleton.1 hmem

namespace Delivery

/-! ## Marks in the events of each form -/

variable {s : Surroundings σ τ} {d : Delivery} {known known' known'' : Option Marks}
  {es es' : List Event}

/-- The events go by the marks that are known, or hold the answers about all marks in one place:
what comes before these goes by no marks, and what comes after them by the marks they give. -/
inductive MarkedOnce (d : Delivery) : Option Marks → List Event → Option Marks → Prop
  | steady {known : Option Marks} {es : List Event} (h : ∀ e ∈ es, e.GoesBy known) :
      MarkedOnce d known es known
  | asked {before after : List Event} {answers : List MarkAnswer}
      (hbefore : ∀ e ∈ before, e.GoesBy none)
      (hasked : answers.map MarkAnswer.action = MarkAction.asked d.markActions)
      (hafter : ∀ e ∈ after, e.GoesBy (some (Marks.ofAnswers answers))) :
      MarkedOnce d none (before ++ (answers.flatMap d.answered ++ after))
        (some (Marks.ofAnswers answers))

theorem MarkedOnce.append (h : MarkedOnce d known es known')
    (h' : MarkedOnce d known' es' known'') : MarkedOnce d known (es ++ es') known'' := by
  cases h with
  | steady h =>
    cases h' with
    | steady h' => exact .steady (List.forall_mem_append.2 ⟨h, h'⟩)
    | asked hbefore hasked hafter =>
      rw [← List.append_assoc]
      exact .asked (List.forall_mem_append.2 ⟨h, hbefore⟩) hasked hafter
  | asked hbefore hasked hafter =>
    -- the marks are known now, so nobody is asked a second time
    cases h' with
    | steady h' =>
      rw [List.append_assoc, List.append_assoc]
      exact .asked hbefore hasked (List.forall_mem_append.2 ⟨hafter, h'⟩)

theorem MarkedOnce.cons {e : Event} (he : e.GoesBy known) (h : MarkedOnce d known es known') :
    MarkedOnce d known (e :: es) known' :=
  MarkedOnce.append (.steady (List.forall_mem_singleton.2 he)) h

theorem MarkedOnce.concat {e : Event} (h : MarkedOnce d known es known') (he : e.GoesBy known') :
    MarkedOnce d known (es ++ [e]) known' :=
  h.append (.steady (List.forall_mem_singleton.2 he))

theorem MarkedOnce.nil : MarkedOnce d known [] known :=
  .steady (List.forall_mem_nil _)

theorem Marking.markedOnce {marks : Marks} (h : Marking d known marks es) :
    MarkedOnce d known es (some marks) := by
  cases h with
  | known => exact .nil
  | asked answers hasked =>
    have h : MarkedOnce d none ([] ++ (answers.flatMap d.answered ++ []))
        (some (Marks.ofAnswers answers)) :=
      .asked (List.forall_mem_nil _) hasked (List.forall_mem_nil _)
    rwa [List.nil_append, List.append_nil] at h

theorem Filed.markedOnce {folder : FolderId} {answer : Except StoreError Outcome}
    (h : Filed d folder known answer es known') : MarkedOnce d known es known' := by
  cases h with
  | intro answer h => exact h.markedOnce.concat rfl

theorem Lookup.markedOnce {item : ItemId} {rest : Option Text}
    {answer : Except RemoteError (Option RemoteFolder)} (h : Lookup item rest answer es) :
    MarkedOnce d known es known := by
  refine .steady ?_
  cases h <;> simp [Event.GoesBy]

theorem Visit.markedOnce {item : ItemId} {rest : Option Text} {answer : Except RemoteError Bool}
    (h : Visit d item rest known answer es known') : MarkedOnce d known es known' := by
  cases h with
  | lost h | nowhere h => exact h.markedOnce
  | appended answer h hm => exact h.markedOnce.append (hm.markedOnce.concat rfl)

theorem Trip.markedOnce {m : Mountpoint} {rest : Option Text} {answer : Except RemoteError Bool}
    (h : Trip s d m rest known answer es known') : MarkedOnce d known es known' := by
  cases h with
  | unconnected => exact .nil
  | tokenless => exact .cons trivial .nil
  | refused => exact .cons trivial (.cons trivial .nil)
  | visited t h => exact .cons trivial (.cons trivial (h.markedOnce.concat trivial))

theorem Placed.markedOnce {path : Text} {r : Resolution} {place : Place}
    (h : Placed s d path r known place es known') : MarkedOnce d known es known' := by
  cases h with
  | remote hm h | absent hm h => exact h.markedOnce
  | failed hm h => exact h.markedOnce.concat trivial
  | partway | root => exact .cons trivial .nil
  | own => exact .nil

theorem Posting.markedOnce {address : Text} {answer : Except SendError Unit}
    (h : Posting s d address answer es) : MarkedOnce d known es known := by
  cases h with
  | unreadable | senderless => exact .nil
  | sent recipient stamp answer h =>
    refine MarkedOnce.concat (.steady ?_) trivial
    intro e he
    obtain ⟨n, -, rfl⟩ := List.mem_map.1 he
    trivial

/-- An action asks about marks at most once, and not at all when they are known. -/
theorem Block.markedOnce {a : DeliveryAction} {answer : Except StoreError Outcome}
    (h : Block s d a known answer es known') : MarkedOnce d known es known' := by
  cases h with
  | kept implicit h => exact h.markedOnce
  | unresolved path e => exact .cons trivial .nil
  | remote path r h => exact .cons trivial h.markedOnce
  | filed path r h hf => exact .cons trivial (h.markedOnce.append hf.markedOnce)
  | sent address h => exact .cons trivial h.markedOnce
  | returned address h hf =>
    exact .cons trivial (h.markedOnce.append (.cons trivial hf.markedOnce))

theorem Course.markedOnce {todo : List DeliveryAction} {log : List (DeliveryAction × List Event)}
    {answer : Except StoreError Bool} (h : Course s d known todo log answer) :
    ∃ known', MarkedOnce d known (eventsOf log) known' := by
  induction h with
  | done => exact ⟨_, .nil⟩
  | failed h | stopped h =>
    rw [eventsOf_cons, eventsOf_nil, List.append_nil]
    exact ⟨_, h.markedOnce⟩
  | step h hgo hrest ih =>
    obtain ⟨known', hlater⟩ := ih
    exact ⟨known', h.markedOnce.append hlater⟩

/-! ## Runs -/

theorem execute_markedOnce (s : Surroundings σ τ) (d : Delivery) (w : σ) :
    ∃ known, MarkedOnce d none (d.execute s w).events known := by
  by_cases hactions : d.actions = []
  · rw [execute_of_no_actions s w hactions]
    exact ⟨none, .cons trivial .nil⟩
  · obtain ⟨answer, hcourse, hevents, -⟩ := execute_course s.follows_true d w hactions
    rw [hevents]
    exact hcourse.markedOnce

theorem answers_of_goesBy (h : ∀ e ∈ es, e.GoesBy known) : es.filterMap Event.answer? = [] :=
  List.filterMap_eq_nil_iff.2 fun e he => (h e he).answer?

theorem answers_answered (answers : List MarkAnswer) :
    (answers.flatMap d.answered).filterMap Event.answer? = answers := by
  induction answers with
  | nil => rfl
  | cons answer answers ih =>
    have hnotices : ((answer.warning? d.recipient).toList.map Event.noticed).filterMap
        Event.answer? = [] := by
      cases answer.warning? d.recipient <;> rfl
    rw [List.flatMap_cons, List.filterMap_append, ih, answered,
      List.filterMap_cons_some (f := Event.answer?) rfl, hnotices, List.singleton_append]

/-- The events, cut at the answers about marks.  When nobody was asked, nothing comes after the
cut. -/
theorem MarkedOnce.cut (h : MarkedOnce d none es known) :
    let answers := es.filterMap Event.answer?
    (answers = [] ∨ answers.map MarkAnswer.action = MarkAction.asked d.markActions) ∧
      ∃ before after, es = before ++ (answers.flatMap d.answered ++ after) ∧
        (∀ e ∈ before, e.GoesBy none) ∧
        ∀ e ∈ after, e.GoesBy (some (Marks.ofAnswers answers)) := by
  cases h with
  | steady h =>
    rw [answers_of_goesBy h]
    exact ⟨Or.inl rfl, es, [], (List.append_nil _).symm, h, List.forall_mem_nil _⟩
  | @asked before after answers hbefore hasked hafter =>
    have hanswers : (before ++ (answers.flatMap d.answered ++ after)).filterMap Event.answer? =
        answers := by
      rw [List.filterMap_append, List.filterMap_append, answers_of_goesBy hbefore,
        answers_answered, answers_of_goesBy hafter, List.nil_append, List.append_nil]
    rw [hanswers]
    exact ⟨Or.inr hasked, before, after, rfl, hbefore, hafter⟩

/-- What takes the message takes it with the marks that the answers give, wherever these stand. -/
theorem MarkedOnce.goesBy (h : MarkedOnce d none es known) {e : Event} (he : e ∈ es)
    (hanswer : e.answer? = none) :
    e.GoesBy (some (Marks.ofAnswers (es.filterMap Event.answer?))) := by
  obtain ⟨-, before, after, hes, hbefore, hafter⟩ := h.cut
  rw [hes] at he
  rcases List.mem_append.1 he with he | he
  · exact (hbefore e he).of_none
  · rcases List.mem_append.1 he with he | he
    · obtain ⟨answer, -, he⟩ := List.mem_flatMap.1 he
      rcases List.mem_cons.1 he with rfl | he
      · cases hanswer
      · obtain ⟨n, -, rfl⟩ := List.mem_map.1 he
        trivial
    · exact hafter e he

/-! ## Actions in another order -/

/-- What is read from some of the actions can be read when the others are left out. -/
theorem filterMap_filter_of_none {α : Type} {f : Action → Option α} {p : Action → Bool}
    (h : ∀ a, p a = false → f a = none) (actions : List Action) :
    (actions.filter p).filterMap f = actions.filterMap f := by
  rw [List.filterMap_filter]
  congr 1
  funext a
  cases hp : p a with
  | true => rfl
  | false => exact (h a hp).symm

/-- What a run does with actions is decided by the delivery actions in their order and the mark
actions in theirs. -/
theorem classify_congr {actions actions' : List Action}
    (hdelivery : actions'.filter Action.isDelivery = actions.filter Action.isDelivery)
    (hmarks : actions'.filter Action.isMark = actions.filter Action.isMark) :
    Action.classify actions' = Action.classify actions := by
  have hdelivery? : ∀ a : Action, a.isDelivery = false → a.delivery? = none := by
    intro a ha
    cases a <;> first | rfl | cases ha
  have hmark? : ∀ a : Action, a.isMark = false → a.mark? = none := by
    intro a ha
    cases a <;> first | rfl | cases ha
  simp only [Action.classify]
  rw [← filterMap_filter_of_none hdelivery? actions', ← filterMap_filter_of_none hmark? actions',
    hdelivery, hmarks, filterMap_filter_of_none hdelivery?, filterMap_filter_of_none hmark?]

/-- **A message has the same marks everywhere, and it does not matter where they are asked for.**
All filings of a run have the marks that the answers of this run give; so have all copies, in a
store that keeps marks, and another account is asked to take the message with the flags of these
marks.  Each mark action is asked about at most once: the answers stand in one place, with nothing
before them that takes the message.  Two lists with actions in them that have the same delivery
actions in the same order, and the same mark actions in the same order, make the same requests with
the same answers and lead to the same result and to the same delivery, up to its list of actions. -/
theorem execute_marks_uniform (s : Surroundings σ τ) (d : Delivery) (w : σ) :
    (let x := d.execute s w
      let answers := x.events.filterMap Event.answer?
      let marks := Marks.ofAnswers answers
      (∀ f answer, .filed f answer ∈ x.events → f.flags = marks.flags ∧ f.tags = marks.tags) ∧
      (s.store.KeepsMarks → ∀ copy ∈ x.events.filterMap Event.copy?,
        copy.flags = marks.flags ∧ copy.tags = marks.tags) ∧
      (∀ folder flags raw answer, .appended folder flags raw answer ∈ x.events →
        flags = TransportFlag.ofBitmask marks.flags) ∧
      (answers = [] ∨ answers.map MarkAnswer.action = MarkAction.asked d.markActions) ∧
      ∃ before after, x.events = before ++ (answers.flatMap d.answered ++ after) ∧
        (∀ e ∈ before, e.GoesBy none) ∧ ∀ e ∈ after, e.GoesBy (some marks)) ∧
    ∀ actions actions' : List Action, actions ≠ [] → actions' ≠ [] →
      actions'.filter Action.isDelivery = actions.filter Action.isDelivery →
      actions'.filter Action.isMark = actions.filter Action.isMark →
      let x := (d.setActions actions).execute s w
      let x' := (d.setActions actions').execute s w
      x'.result = x.result ∧ x'.events = x.events ∧ x'.world = x.world ∧
        x'.delivery.isDuplicate = x.delivery.isDuplicate ∧
        x'.delivery.state = x.delivery.state ∧
        x'.delivery = x.delivery.setActions actions' := by
  constructor
  · intro x answers marks
    obtain ⟨known, hx⟩ := execute_markedOnce s d w
    have hfiled : ∀ f answer, .filed f answer ∈ x.events →
        f.flags = marks.flags ∧ f.tags = marks.tags := by
      intro f answer hmem
      have hf : marks = ⟨f.flags, f.tags⟩ := Option.some.inj (hx.goesBy hmem rfl)
      rw [hf]
      exact ⟨rfl, rfl⟩
    refine ⟨hfiled, ?_, ?_, hx.cut⟩
    · intro hstore copy hcopy
      obtain ⟨e, hmem, he⟩ := List.mem_filterMap.1 hcopy
      obtain ⟨f, rfl⟩ : ∃ f, e = .filed f (.ok (some copy)) := by
        match e, he with
        | .filed f (.ok (some _)), rfl => exact ⟨f, rfl⟩
      have hkept : copy.flags = f.flags ∧ copy.tags = f.tags :=
        (execute_explains hstore.follows d w).2 f copy hmem
      rw [hkept.1, hkept.2]
      exact hfiled f _ hmem
    · intro folder flags raw answer hmem
      exact (Option.some.inj (hx.goesBy hmem rfl)).symm
  · intro actions actions' hne hne' hdelivery hmarks x x'
    have htask : SameTask (d.setActions actions) (d.setActions actions') := by
      refine ⟨rfl, rfl, rfl, rfl, classify_congr hdelivery hmarks, ?_⟩
      exact (List.isEmpty_eq_false_iff.2 hne').trans (List.isEmpty_eq_false_iff.2 hne).symm
    have hx' : x' = _ := htask.execute (List.nil_append d.processed).symm w
    rw [hx']
    refine ⟨?_, rfl, rfl, rfl, rfl, rfl⟩
    show x.result.map ([] ++ ·) = x.result
    cases x.result <;> rfl

/-- A store numbers its answers about tags.  The other account is asked to take the message and
refuses, so the inbox takes it, and takes it once more for the second action: both copies have the
tag of the first answer, and there was no second one.  It comes to the same when the tag stands
first, with an action in between that is not the library's. -/
theorem execute_marks_uniform_numbered :
    let store : Store ℕ :=
      ⟨fun w => (.ok ⟨"token".toList⟩, w),
        fun f w => (.ok (some ⟨1, f.folder, f.flags, f.tags⟩), w),
        fun _ path w => (.ok (.full ⟨256, path, path, .mounted ⟨"alice".toList, 257⟩⟩), w),
        fun name w => (.ok ⟨UInt32.ofNat w, name⟩, w + 1),
        fun id w => (.ok (.ofId id []), w)⟩
    let connector : Connector ℕ Unit :=
      ⟨fun _ _ w => (.ok (), w), fun _ t w => (.ok (some ⟨[], [], []⟩), t, w),
        fun _ _ t w => (.ok none, t, w), fun _ _ _ t w => (.error (.filing []), t, w), fun _ w => w⟩
    let s : Surroundings ℕ Unit := ⟨store, some connector, none, fun w => (⟨[], []⟩, w)⟩
    let d := start ⟨[10, 72, 105, 10], []⟩ "bob".toList none .none
    let actions : List Action :=
      [.fileInto "/Shared".toList, .tag "work".toList, .flag Flag.unread false, .keep false]
    let actions' : List Action :=
      [.tag "work".toList, .other "vacation".toList, .fileInto "/Shared".toList,
        .flag Flag.unread false, .keep false]
    let x := (d.setActions actions).execute s 7
    let x' := (d.setActions actions').execute s 7
    Message.ofOctets d.message.raw = .ok d.message ∧
      x.events.filterMap Event.copy? = [⟨1, .inbox, 0, [7]⟩, ⟨1, .inbox, 0, [7]⟩] ∧
      (∀ copy ∈ x.events.filterMap Event.copy?, copy.flags = 0 ∧ copy.tags = [7]) ∧
      x.world = 8 ∧ x'.events = x.events ∧ x'.result = x.result := by
  intro store connector s d actions actions' x x'
  have hstore : store.KeepsMarks := by
    intro f w copy h
    cases h
    exact ⟨rfl, rfl⟩
  have hmarks : Marks.ofAnswers (x.events.filterMap Event.answer?) = ⟨0, [7]⟩ := by
    decide +kernel
  obtain ⟨⟨-, hcopies, -⟩, -⟩ := execute_marks_uniform s (d.setActions actions) 7
  obtain ⟨-, horder⟩ := execute_marks_uniform s d 7
  obtain ⟨hresult, hevents, -⟩ := horder actions actions' (by decide) (by decide) (by decide)
    (by decide)
  have hsame := hcopies hstore
  rw [hmarks] at hsame
  exact ⟨Message.ofOctets_of_blank _, by decide +kernel, hsame, by decide +kernel, hevents, hresult⟩

end Delivery

end Postroom
