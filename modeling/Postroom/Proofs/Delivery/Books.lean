import Postroom.Proofs.Delivery.Trace

/-!
# The books of a run

Besides the world, the marks and the events, a run carries its state, whether it has met a duplicate
and the copies that are filed.  The parts that make up one action only ever put copies to the
others, one for each event that has one, and leave the rest of the books to the run as a whole.

* `Run.extend` — a run that has gone on and has written its copies down;
* `RunM.Adds` — what a part of a run adds is decided by the world and the marks it starts with, and
  its books are kept in step with its events.
-/

namespace Postroom

variable {σ τ : Type}

/-- The run has gone on to a world, knows these marks, and has added these events together with the
copies among them. -/
def Run.extend (r : Run σ) (w : σ) (known : Option Marks) (es : List Event) : Run σ :=
  { r with
    world := w
    marks := known
    events := r.events ++ es
    processed := r.processed ++ es.filterMap Event.copy? }

theorem Run.extend_extend (r : Run σ) (w w' : σ) (known known' : Option Marks)
    (es es' : List Event) :
    (r.extend w known es).extend w' known' es' = r.extend w' known' (es ++ es') := by
  simp [Run.extend]

namespace RunM

variable {α β : Type}

/-- What a part of a run adds depends on the world and on the marks it starts with alone. -/
def Adds (f : RunM σ α) : Prop :=
  ∀ w known, ∃ a w' known' es, ∀ r : Run σ, r.world = w → r.marks = known →
    f r = (a, r.extend w' known' es)

variable {f : RunM σ α} {g : α → RunM σ β}

theorem adds_pure (a : α) : Adds (pure a : RunM σ α) := by
  intro w known
  refine ⟨a, w, known, [], ?_⟩
  rintro r rfl rfl
  show (a, r) = (a, r.extend r.world r.marks [])
  simp [Run.extend]

theorem Adds.bind (hf : Adds f) (hg : ∀ a, Adds (g a)) : Adds (f >>= g) := by
  intro w known
  obtain ⟨a, w₁, known₁, es, hrun⟩ := hf w known
  obtain ⟨b, w₂, known₂, es', hrun'⟩ := hg a w₁ known₁
  refine ⟨b, w₂, known₂, es ++ es', ?_⟩
  intro r hw hknown
  show g (f r).1 (f r).2 = (b, r.extend w₂ known₂ (es ++ es'))
  rw [hrun r hw hknown, hrun' (r.extend w₁ known₁ es) rfl rfl, Run.extend_extend]

theorem adds_draw (request : σ → α × σ) : Adds (draw request) := by
  intro w known
  refine ⟨(request w).1, (request w).2, known, [], ?_⟩
  rintro r rfl rfl
  simp [draw, Run.extend]

theorem adds_note {e : Event} (h : e.copy? = none) : Adds (note e : RunM σ Unit) := by
  intro w known
  refine ⟨(), w, known, [e], ?_⟩
  rintro r rfl rfl
  simp [note, Run.extend, h]

theorem adds_tell (n : Notice) : Adds (tell n : RunM σ Unit) :=
  adds_note rfl

theorem adds_tellAll (ns : List Notice) : Adds (tellAll ns : RunM σ Unit) := by
  induction ns with
  | nil => exact adds_pure ()
  | cons n ns ih => exact (adds_tell n).bind fun _ => ih

/-- A request that files nothing leaves the copies alone. -/
theorem adds_ask (request : σ → α × σ) {event : α → Event} (h : ∀ a, (event a).copy? = none) :
    Adds (ask request event) :=
  (adds_draw request).bind fun a => (adds_note (h a)).bind fun _ => adds_pure a

theorem adds_askIn (request : σ → α × τ × σ) {event : α → Event}
    (h : ∀ a, (event a).copy? = none) : Adds (askIn request event) :=
  adds_ask _ fun a => h a.1

/-- The books are in step with the events, whichever events they are. -/
theorem Adds.eq_extend (hf : Adds f) {r : Run σ} {es : List Event}
    (h : (f r).2.events = r.events ++ es) :
    (f r).2 = r.extend (f r).2.world (f r).2.marks es := by
  obtain ⟨a, w, known, added, hrun⟩ := hf r.world r.marks
  rw [hrun r rfl rfl] at h ⊢
  obtain rfl : added = es := List.append_cancel_left h
  rfl

end RunM

namespace Delivery

open RunM

/-! ## The parts of an action -/

theorem copies_answered (d : Delivery) (answers : List MarkAnswer) :
    (answers.flatMap d.answered).filterMap Event.copy? = [] := by
  refine List.filterMap_eq_nil_iff.2 fun e he => ?_
  obtain ⟨answer, -, he⟩ := List.mem_flatMap.1 he
  rcases List.mem_cons.1 he with rfl | he
  · rfl
  · obtain ⟨n, -, rfl⟩ := List.mem_map.1 he
    rfl

theorem adds_marks (s : Surroundings σ τ) (d : Delivery) (actions : List MarkAction) :
    Adds (marks s d actions) := by
  intro w known
  cases known with
  | some known =>
    refine ⟨known, w, some known, [], ?_⟩
    rintro r rfl hknown
    have hrun : marks s d actions r = (known, r) := by simp only [marks, hknown]
    rw [hrun, Run.extend, List.filterMap_nil, List.append_nil, List.append_nil, ← hknown]
  | none =>
    refine ⟨Marks.ofAnswers (Marks.ask s.store actions w).1, (Marks.ask s.store actions w).2,
      some (Marks.ofAnswers (Marks.ask s.store actions w).1),
      (Marks.ask s.store actions w).1.flatMap d.answered, ?_⟩
    rintro r rfl hknown
    rw [Run.extend, copies_answered, List.append_nil]
    simp only [marks, hknown]
    rfl

/-- Filing is the one request that can lead to a copy, and the copy is kept. -/
theorem adds_addMessage (s : Surroundings σ τ) (f : Filing) : Adds (addMessage s f) := by
  intro w known
  refine ⟨(s.store.addMessage f w).1, (s.store.addMessage f w).2, known,
    [.filed f (s.store.addMessage f w).1], ?_⟩
  rintro r rfl rfl
  have hask : RunM.ask (s.store.addMessage f) (.filed f) r =
      ((s.store.addMessage f r.world).1, { r with
        world := (s.store.addMessage f r.world).2
        events := r.events ++ [.filed f (s.store.addMessage f r.world).1] }) := rfl
  rw [addMessage, RunM.bind_apply, hask]
  rcases (s.store.addMessage f r.world).1 with e | _ | copy
  case ok.some => rfl
  all_goals
    rw [Run.extend, List.filterMap_cons_none rfl, List.filterMap_nil, List.append_nil]
    rfl

theorem adds_file (s : Surroundings σ τ) (d : Delivery) (actions : List MarkAction)
    (folder : FolderId) : Adds (file s d actions folder) :=
  (adds_marks s d actions).bind fun _ => (adds_addMessage s _).bind fun _ => adds_pure _

theorem adds_findRemote (c : Connector σ τ) (item : ItemId) (rest : Option Text) (session : τ) :
    Adds (findRemote c item rest session) := by
  refine (adds_askIn (c.folder item session) fun _ => rfl).bind ?_
  rintro ⟨answer, session₁⟩
  match answer, rest with
  | .error e, rest | .ok (some folder), none => exact adds_pure _
  | .ok none, rest => exact (adds_tell _).bind fun _ => adds_pure _
  | .ok (some folder), some path =>
    refine (adds_askIn (c.subfolder folder path session₁) fun _ => rfl).bind ?_
    rintro ⟨answer', session₂⟩
    match answer' with
    | .ok none => exact (adds_tell _).bind fun _ => adds_pure _
    | .ok (some found) | .error e => exact adds_pure _

theorem adds_fileInSession (s : Surroundings σ τ) (d : Delivery) (actions : List MarkAction)
    (c : Connector σ τ) (item : ItemId) (rest : Option Text) (session : τ) :
    Adds (fileInSession s d actions c item rest session) := by
  refine (adds_findRemote c item rest session).bind ?_
  rintro ⟨answer, session₁⟩
  match answer with
  | .error e | .ok none => exact adds_pure _
  | .ok (some folder) =>
    exact (adds_marks s d actions).bind fun _ => (adds_askIn _ fun _ => rfl).bind fun _ =>
      adds_pure _

theorem adds_fileRemotely (s : Surroundings σ τ) (d : Delivery) (actions : List MarkAction)
    (m : Mountpoint) (rest : Option Text) : Adds (fileRemotely s d actions m rest) := by
  unfold fileRemotely
  cases s.connector with
  | none => exact adds_pure _
  | some c =>
    refine (adds_ask s.store.authToken fun _ => rfl).bind ?_
    rintro (e | token)
    · exact adds_pure _
    · refine (adds_ask (c.connect token m.owner) fun _ => rfl).bind ?_
      rintro (e | session)
      · exact adds_pure _
      · exact (adds_fileInSession s d actions c m.item rest session).bind fun _ =>
          (adds_ask _ fun _ => rfl).bind fun _ => adds_pure _

theorem adds_place (s : Surroundings σ τ) (d : Delivery) (actions : List MarkAction) (path : Text)
    (res : Resolution) : Adds (place s d actions path res) := by
  unfold place
  cases res.folder.mountpoint? with
  | some m =>
    refine (adds_fileRemotely s d actions m res.remaining).bind ?_
    rintro (e | ⟨⟩ | ⟨⟩)
    · exact (adds_tell _).bind fun _ => adds_pure _
    · exact adds_pure _
    · exact adds_pure _
  | none =>
    simp only
    split
    · exact (adds_tell _).bind fun _ => adds_pure _
    · split
      · exact (adds_tell _).bind fun _ => adds_pure _
      · exact adds_pure _

theorem adds_fileInto (s : Surroundings σ τ) (d : Delivery) (actions : List MarkAction)
    (path : Text) : Adds (fileInto s d actions path) := by
  refine (adds_ask (s.store.resolve .root path) fun _ => rfl).bind ?_
  rintro (e | res)
  · exact adds_pure _
  · refine (adds_place s d actions path res).bind ?_
    rintro (id | _)
    · exact adds_file s d actions id
    · exact adds_pure _

theorem adds_sendOn (s : Surroundings σ τ) (d : Delivery) (address : Text) :
    Adds (sendOn s d address) := by
  unfold sendOn
  cases Recipient.parse address with
  | error e => exact adds_pure _
  | ok recipient =>
    cases s.sender with
    | none => exact adds_pure _
    | some send =>
      exact (adds_draw s.stamp).bind fun _ => (adds_tellAll _).bind fun _ =>
        adds_ask _ fun _ => rfl

theorem adds_redirect (s : Surroundings σ τ) (d : Delivery) (actions : List MarkAction)
    (address : Text) : Adds (redirect s d actions address) := by
  refine (adds_tell _).bind fun _ => (adds_sendOn s d address).bind ?_
  rintro (e | ⟨⟩)
  · exact (adds_tell _).bind fun _ => (adds_file s d actions .inbox).bind fun _ => adds_pure _
  · exact adds_pure _

/-- **One action and the books.**  By an action the copies that it files are put to the others, and
nothing else is entered. -/
theorem adds_perform (s : Surroundings σ τ) (d : Delivery) (actions : List MarkAction)
    (a : DeliveryAction) : Adds (perform s d actions a) := by
  match a with
  | .keep true => exact adds_file s d actions _
  | .keep false => exact adds_file s d actions _
  | .fileInto path => exact adds_fileInto s d actions path
  | .redirect address => exact adds_redirect s d actions address

end Delivery

end Postroom
