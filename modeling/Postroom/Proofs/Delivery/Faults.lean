import Postroom.Proofs.Delivery.Course

/-!
# What makes a run fail

A run fails at the first request to resolve a path or to file the message that the store refuses,
and asks nobody for anything after it.  All other refusals are contained.  Whatever becomes of the
runs of a delivery, it knows of exactly the copies that the store has taken.

* `Event.fault?` — the refusal that makes a run fail;
* `Delivery.EndsAtFault` — events with a refusal at their end and none before;
* `Delivery.Progress` — a delivery between the calls of its owner.
-/

namespace Postroom

/-- The error of a request that a delivery cannot do without. -/
def Event.fault? : Event → Option StoreError
  | resolved _ _ (.error e) | filed _ (.error e) => some e
  | _ => none

theorem Event.fault?_of_isQuiet {e : Event} (h : e.isQuiet = true) : e.fault? = none := by
  cases e <;> first | rfl | cases h

namespace Delivery

variable {σ τ : Type}

/-- No request is refused that a delivery cannot do without. -/
def Faultless (es : List Event) : Prop :=
  ∀ event ∈ es, event.fault? = none

/-- The last request is refused with this error, and none before it. -/
def EndsAtFault (e : StoreError) (es : List Event) : Prop :=
  ∃ before last, es = before ++ [last] ∧ last.fault? = some e ∧ Faultless before

/-- The events explain an answer: they end at its error, or at none when it is no error. -/
def Explains {α : Type} (es : List Event) : Except StoreError α → Prop
  | .ok _ => Faultless es
  | .error e => EndsAtFault e es

/-! ## Events with at most one fault -/

theorem faultless_append {es es' : List Event} :
    Faultless (es ++ es') ↔ Faultless es ∧ Faultless es' :=
  List.forall_mem_append

theorem faultless_singleton {event : Event} : Faultless [event] ↔ event.fault? = none :=
  List.forall_mem_singleton

theorem Quiet.faultless {es : List Event} (h : Quiet es) : Faultless es :=
  fun event hevent => Event.fault?_of_isQuiet (h event hevent)

theorem EndsAtFault.of_last {e : StoreError} {last : Event} (h : last.fault? = some e) :
    EndsAtFault e [last] :=
  ⟨[], last, rfl, h, List.forall_mem_nil _⟩

theorem EndsAtFault.append {e : StoreError} {es es' : List Event} (hes : Faultless es)
    (h : EndsAtFault e es') : EndsAtFault e (es ++ es') := by
  obtain ⟨before, last, rfl, hlast, hbefore⟩ := h
  exact ⟨es ++ before, last, by rw [List.append_assoc], hlast, faultless_append.2 ⟨hes, hbefore⟩⟩

theorem EndsAtFault.not_faultless {e : StoreError} {es : List Event} (h : EndsAtFault e es) :
    ¬ Faultless es := by
  obtain ⟨before, last, rfl, hlast, -⟩ := h
  intro hes
  have hnone : last.fault? = none := hes last (by simp)
  rw [hlast] at hnone
  cases hnone

/-- Events end at one fault at most. -/
theorem EndsAtFault.unique {e e' : StoreError} {es : List Event} (h : EndsAtFault e es)
    (h' : EndsAtFault e' es) : e = e' := by
  obtain ⟨before, last, rfl, hlast, -⟩ := h
  obtain ⟨before', last', heq, hlast', -⟩ := h'
  obtain ⟨-, rfl⟩ : before = before' ∧ last = last' := by simpa using List.append_inj' heq rfl
  exact Option.some_inj.1 (hlast.symm.trans hlast')

theorem Explains.append {α : Type} {answer : Except StoreError α} {es es' : List Event}
    (hes : Faultless es) (h : Explains es' answer) : Explains (es ++ es') answer := by
  cases answer with
  | ok a => exact faultless_append.2 ⟨hes, h⟩
  | error e => exact EndsAtFault.append hes h

theorem Explains.map {α β : Type} {answer : Except StoreError α} {es : List Event} (f : α → β)
    (h : Explains es answer) : Explains es (answer.map f) := by
  cases answer with
  | ok a => exact h
  | error e => exact h

theorem Explains.error_iff {α : Type} {answer : Except StoreError α} {es : List Event}
    (h : Explains es answer) (e : StoreError) : answer = .error e ↔ EndsAtFault e es := by
  cases answer with
  | ok a => simpa using fun he : EndsAtFault e es => he.not_faultless h
  | error e' =>
    constructor
    · rintro ⟨⟩
      exact h
    · intro he
      rw [EndsAtFault.unique h he]

theorem Explains.ok_iff {α : Type} {answer : Except StoreError α} {es : List Event}
    (h : Explains es answer) : (∃ a, answer = .ok a) ↔ Faultless es := by
  cases answer with
  | ok a => exact ⟨fun _ => h, fun _ => ⟨a, rfl⟩⟩
  | error e => simpa using EndsAtFault.not_faultless h

/-! ## The faults of each form -/

variable {s : Surroundings σ τ} {d : Delivery} {known known' : Option Marks}

theorem Filed.explains {folder : FolderId} {answer : Except StoreError Outcome} {es : List Event}
    (h : Filed d folder known answer es known') : Explains es answer := by
  cases h with
  | intro answer hmarking =>
    refine Explains.append hmarking.quiet.faultless (Explains.map _ ?_)
    cases answer with
    | ok copy => exact faultless_singleton.2 rfl
    | error e => exact EndsAtFault.of_last rfl

/-- A delivery action fails with the refusal that its events end at, and with no other. -/
theorem Block.explains {a : DeliveryAction} {answer : Except StoreError Outcome} {es : List Event}
    (h : Block s d a known answer es known') : Explains es answer := by
  cases h with
  | kept implicit h => exact h.explains
  | unresolved path e => exact EndsAtFault.of_last rfl
  | remote path r h =>
    exact Explains.append (faultless_singleton.2 rfl) h.quiet.faultless
  | filed path r h hf =>
    exact Explains.append (faultless_singleton.2 rfl) (hf.explains.append h.quiet.faultless)
  | sent address h =>
    exact Explains.append (faultless_singleton.2 rfl) h.quiet.faultless
  | returned address h hf =>
    have hnotice : ∀ n : Notice, Faultless [.noticed n] := fun n => faultless_singleton.2 rfl
    exact Explains.append (hnotice _) (Explains.append h.quiet.faultless
      (Explains.append (hnotice _) (hf.explains.map _)))

theorem Course.explains {todo : List DeliveryAction} {log : List (DeliveryAction × List Event)}
    {answer : Except StoreError Bool} (h : Course s d known todo log answer) :
    Explains (eventsOf log) answer := by
  induction h with
  | done => exact List.forall_mem_nil _
  | failed h | stopped h =>
    rw [eventsOf_cons, eventsOf_nil, List.append_nil]
    exact h.explains
  | step h hgo hrest ih => exact ih.append h.explains

/-! ## Runs -/

/-- The events of a run explain its result, and they are all that happens to the world. -/
theorem execute_explains {R : σ → List Event → σ → Prop} (hs : s.Follows R) (d : Delivery) (w : σ) :
    Explains (d.execute s w).events (d.execute s w).result ∧
      R w (d.execute s w).events (d.execute s w).world := by
  by_cases hactions : d.actions = []
  · rw [execute_of_no_actions s w hactions]
    exact ⟨faultless_singleton.2 rfl, hs.noticed _ w⟩
  · obtain ⟨answer, hcourse, hevents, hworld, hresult, -⟩ := execute_course hs d w hactions
    rw [hevents, hresult]
    exact ⟨hcourse.explains.map _, hworld⟩

/-! ## Several runs -/

/-- What the owner of a delivery can do with it. -/
inductive Call where
  | setActions (actions : List Action)
  | addAction (action : Action)
  | execute

/-- A delivery between the calls of its owner: the world as it is now, and the events of all runs so
far. -/
structure Progress (σ : Type) where
  delivery : Delivery
  world : σ
  events : List Event

namespace Progress

/-- What a call makes of a delivery and the world. -/
def call (s : Surroundings σ τ) (p : Progress σ) : Call → Progress σ
  | .setActions actions => { p with delivery := p.delivery.setActions actions }
  | .addAction action => { p with delivery := p.delivery.addAction action }
  | .execute =>
    let x := p.delivery.execute s p.world
    ⟨x.delivery, x.world, p.events ++ x.events⟩

/-- What several calls in order make of a delivery and the world. -/
def calls (s : Surroundings σ τ) (p : Progress σ) (cs : List Call) : Progress σ :=
  cs.foldl (call s) p

/-- The delivery knows of the copies that its events speak of, and the events are all that has
happened to the world since `w`. -/
structure Sound (R : σ → List Event → σ → Prop) (w : σ) (p : Progress σ) : Prop where
  processed : p.delivery.processed = p.events.filterMap Event.copy?
  world : R w p.events p.world

variable {R : σ → List Event → σ → Prop} {w : σ} {p : Progress σ}

theorem Sound.call (hs : s.Follows R) (h : p.Sound R w) (c : Call) : (p.call s c).Sound R w := by
  cases c with
  | setActions actions | addAction action => exact ⟨h.processed, h.world⟩
  | execute =>
    refine ⟨?_, hs.trans h.world (execute_explains hs p.delivery p.world).2⟩
    show (p.delivery.execute s p.world).delivery.processed = _
    rw [(execute_books s p.delivery p.world).1, h.processed]
    exact List.filterMap_append.symm

theorem Sound.calls (hs : s.Follows R) (h : p.Sound R w) (cs : List Call) :
    (p.calls s cs).Sound R w := by
  induction cs generalizing p with
  | nil => exact h
  | cons c cs ih => exact ih (h.call hs c)

end Progress

/-- **Only the store can make a run fail.**  After any calls of the owner of a delivery, a run fails
with an error exactly when its last request is to resolve a path or to file the message, is refused
with this error, and no such request was refused before; every other refusal is contained.  A run
that does not fail is done; one that does leaves the state it had come to, and is no duplicate.  At
every point the delivery knows of exactly the copies that the store has taken in all its runs, in
order.  The events are all that happens to the world. -/
theorem execute_error_iff (s : Surroundings σ τ) (message : Message) (recipient : Text)
    (context : Option ContextId) (detector : SpamDetector) (w : σ) (cs : List Call) :
    let p := Progress.calls s ⟨start message recipient context detector, w, []⟩ cs
    let x := p.delivery.execute s p.world
    (∀ e, x.result = .error e ↔ EndsAtFault e x.events) ∧
    ((∃ copies, x.result = .ok copies) ↔ Faultless x.events) ∧
    ((∃ copies, x.result = .ok copies) → x.delivery.state = .done) ∧
    ((∃ e, x.result = .error e) →
      (x.delivery.state = if (Action.classify p.delivery.actions).delivery = [] then .classified
        else .actionsApplied) ∧
      x.delivery.isDuplicate = false) ∧
    p.delivery.processed = p.events.filterMap Event.copy? ∧
    x.delivery.processed = (p.events ++ x.events).filterMap Event.copy? ∧
    ∀ R, s.Follows R → R w p.events p.world ∧ R p.world x.events x.world := by
  intro p x
  have hsound : ∀ R, s.Follows R → p.Sound R w := fun R hs =>
    Progress.Sound.calls hs ⟨rfl, hs.refl w⟩ cs
  have hexplains : Explains x.events x.result :=
    (execute_explains s.follows_true p.delivery p.world).1
  obtain ⟨hcopies, hstate, hduplicate, -⟩ := execute_books s p.delivery p.world
  have hprocessed := (hsound _ s.follows_true).processed
  refine ⟨hexplains.error_iff, hexplains.ok_iff, ?_, ?_, hprocessed, ?_, ?_⟩
  · rintro ⟨copies, hok⟩
    rw [hstate, hok]
    rfl
  · rintro ⟨e, herror⟩
    refine ⟨?_, hduplicate (by rw [herror]; rfl)⟩
    rw [hstate, herror]
    rfl
  · rw [hcopies, hprocessed]
    exact List.filterMap_append.symm
  · exact fun R hs => ⟨(hsound R hs).world, (execute_explains hs p.delivery p.world).2⟩

/-- The store takes one copy and refuses the second one, after it has refused the tag and the token.
The message is then not sent on, and the delivery knows of the one copy. -/
theorem execute_error_iff_second_copy :
    let store : Store Bool :=
      ⟨fun w => (.error (.authTokenMissing "bob".toList), w),
        fun f w => (if w then .error (.filingRefused "full".toList f.folder)
          else .ok (some ⟨1, f.folder, f.flags, f.tags⟩), true),
        fun _ path w => (.ok (.full ⟨256, path, path, .mounted ⟨"alice".toList, 257⟩⟩), w),
        fun name w => (.error (.tagUnknown name), w),
        fun id w => (.error (.flagUnknown id), w)⟩
    let connector : Connector Bool Unit :=
      ⟨fun _ owner w => (.error (.authentication owner), w), fun _ t w => (.ok none, t, w),
        fun _ _ t w => (.ok none, t, w), fun _ _ _ t w => (.ok (), t, w), fun _ w => w⟩
    let s : Surroundings Bool Unit := ⟨store, some connector, none, fun w => (⟨[], []⟩, w)⟩
    let message : Message := ⟨[10, 72, 105, 10], []⟩
    let p := Progress.calls s ⟨start message "bob".toList none .none, false, []⟩
      [.setActions [.tag "work".toList, .fileInto "/Shared".toList], .execute,
        .addAction (.redirect "carol@localhost".toList)]
    let x := p.delivery.execute s p.world
    Message.ofOctets message.raw = .ok message ∧
      x.result = .error (.filingRefused "full".toList .inbox) ∧
      EndsAtFault (.filingRefused "full".toList .inbox) x.events ∧
      x.delivery.state = .actionsApplied ∧
      x.delivery.processed = [⟨1, .inbox, 512, []⟩] := by
  intro store connector s message p x
  have hresult : x.result = .error (.filingRefused "full".toList .inbox) := by decide +kernel
  obtain ⟨herror, -⟩ := execute_error_iff s message "bob".toList none .none false
    [.setActions [.tag "work".toList, .fileInto "/Shared".toList], .execute,
      .addAction (.redirect "carol@localhost".toList)]
  exact ⟨Message.ofOctets_of_blank _, hresult, (herror _).1 hresult, by decide +kernel,
    by decide +kernel⟩

end Delivery

end Postroom
