import Postroom.Filter.Delivery
import Mathlib.Algebra.Order.Ring.Nat

/-!
# Events that parts of a run add

Every part of a run only adds events.  `RunM.Emits` says which ones, and is put together along the
sequence of the parts, so that each function of a delivery gets one statement of this form.

`Surroundings.Follows` holds of a relation between worlds that every request keeps.  It is carried
along with the events, so that what a run does to the world need not be proved a second time.
-/

namespace Postroom

variable {σ τ : Type}

/-- A relation between a world, the events that follow, and the world after them, which every
request to the surroundings satisfies. -/
structure Surroundings.Follows (s : Surroundings σ τ) (R : σ → List Event → σ → Prop) : Prop where
  refl : ∀ w, R w [] w
  trans : ∀ {w w' w'' es es'}, R w es w' → R w' es' w'' → R w (es ++ es') w''
  noticed : ∀ n w, R w [.noticed n] w
  stamped : ∀ w, R w [] (s.stamp w).2
  token : ∀ w, R w [.token (s.store.authToken w).1] (s.store.authToken w).2
  resolved : ∀ root path w,
    R w [.resolved root path (s.store.resolve root path w).1] (s.store.resolve root path w).2
  filed : ∀ f w, R w [.filed f (s.store.addMessage f w).1] (s.store.addMessage f w).2
  markedFlag : ∀ id set w,
    R w [.marked (.flag id set (s.store.flagById id w).1)] (s.store.flagById id w).2
  markedTag : ∀ name w,
    R w [.marked (.tag name (s.store.tagByName name w).1)] (s.store.tagByName name w).2
  connected : ∀ c, s.connector = some c → ∀ t owner w,
    R w [.connected t owner ((c.connect t owner w).1.map fun _ => ())] (c.connect t owner w).2
  foundFolder : ∀ c, s.connector = some c → ∀ item t w,
    R w [.foundFolder item (c.folder item t w).1] (c.folder item t w).2.2
  foundSubfolder : ∀ c, s.connector = some c → ∀ parent path t w,
    R w [.foundSubfolder parent path (c.subfolder parent path t w).1]
      (c.subfolder parent path t w).2.2
  appended : ∀ c, s.connector = some c → ∀ folder flags raw t w,
    R w [.appended folder flags raw (c.append folder flags raw t w).1]
      (c.append folder flags raw t w).2.2
  closed : ∀ c, s.connector = some c → ∀ t w, R w [.closed] (c.close t w)
  sent : ∀ send, s.sender = some send → ∀ email recipient w,
    R w [.sent email recipient (send email recipient w).1] (send email recipient w).2

/-- Notices do not touch the world. -/
theorem Surroundings.Follows.notices {s : Surroundings σ τ} {R : σ → List Event → σ → Prop}
    (hs : s.Follows R) (ns : List Notice) (w : σ) : R w (ns.map .noticed) w := by
  induction ns with
  | nil => exact hs.refl w
  | cons n ns ih => exact hs.trans (hs.noticed n w) ih

/-- The relation that holds of all worlds. -/
theorem Surroundings.follows_true (s : Surroundings σ τ) : s.Follows fun _ _ _ => True := by
  constructor <;> intros <;> trivial

namespace RunM

variable {α β : Type} {R : σ → List Event → σ → Prop}

/-- From the run `r` on, a part of a run adds events that satisfy `post` together with its answer
and the marks known afterwards, and the worlds before and after are related. -/
def Emits (R : σ → List Event → σ → Prop) (r : Run σ) (f : RunM σ α)
    (post : α → List Event → Option Marks → Prop) : Prop :=
  ∃ es, (f r).2.events = r.events ++ es ∧ R r.world es (f r).2.world ∧ post (f r).1 es (f r).2.marks

variable {s : Surroundings σ τ} {r : Run σ} {f : RunM σ α} {g : α → RunM σ β}
  {post post' : α → List Event → Option Marks → Prop}

theorem Emits.mono (hf : Emits R r f post) (h : ∀ a es known, post a es known → post' a es known) :
    Emits R r f post' := by
  obtain ⟨es, hes, hR, hpost⟩ := hf
  exact ⟨es, hes, hR, h _ _ _ hpost⟩

theorem emits_pure (hs : s.Follows R) {a : α} (h : post a [] r.marks) :
    Emits R r (pure a) post :=
  ⟨[], (List.append_nil _).symm, hs.refl _, h⟩

/-- The events of a sequence of two parts are those of the first and then those of the second. -/
theorem Emits.bind {post₂ : β → List Event → Option Marks → Prop} (hs : s.Follows R)
    (hf : Emits R r f post)
    (hg : ∀ a es r', post a es r'.marks → Emits R r' (g a) fun b es' => post₂ b (es ++ es')) :
    Emits R r (f >>= g) post₂ := by
  obtain ⟨es, hes, hR, hpost⟩ := hf
  obtain ⟨es', hes', hR', hpost'⟩ := hg _ es _ hpost
  refine ⟨es ++ es', ?_, hs.trans hR hR', hpost'⟩
  -- a sequence of two parts hands on the answer and the run of the first
  show (g (f r).1 (f r).2).2.events = r.events ++ (es ++ es')
  rw [hes', hes, List.append_assoc]

theorem emits_tell (hs : s.Follows R) (n : Notice) :
    Emits R r (tell n) fun _ es known => es = [.noticed n] ∧ known = r.marks :=
  ⟨[.noticed n], rfl, hs.noticed n _, rfl, rfl⟩

theorem emits_tellAll (hs : s.Follows R) (ns : List Notice) :
    Emits R r (tellAll ns) fun _ es known => es = ns.map .noticed ∧ known = r.marks := by
  induction ns generalizing r with
  | nil => exact emits_pure hs ⟨rfl, rfl⟩
  | cons n ns ih =>
    refine (emits_tell hs n).bind hs ?_
    rintro _ _ r' ⟨rfl, hmarks⟩
    refine ih.mono ?_
    rintro _ _ _ ⟨rfl, rfl⟩
    exact ⟨rfl, hmarks⟩

theorem emits_draw {request : σ → α × σ} (h : R r.world [] (request r.world).2) :
    Emits R r (draw request) fun _ es known => es = [] ∧ known = r.marks :=
  ⟨[], by simp [draw], h, rfl, rfl⟩

theorem emits_keep (hs : s.Follows R) (copy : StoredMessage) :
    Emits R r (keep copy) fun _ es known => es = [] ∧ known = r.marks :=
  ⟨[], (List.append_nil _).symm, hs.refl _, rfl, rfl⟩

/-- A request adds the one event that records its answer. -/
theorem emits_ask {request : σ → α × σ} {event : α → Event}
    (h : R r.world [event (request r.world).1] (request r.world).2) :
    Emits R r (ask request event) fun a es known => es = [event a] ∧ known = r.marks :=
  ⟨[event (request r.world).1], rfl, h, rfl, rfl⟩

theorem emits_askIn {request : σ → α × τ × σ} {event : α → Event}
    (h : R r.world [event (request r.world).1] (request r.world).2.2) :
    Emits R r (askIn request event) fun a es known => es = [event a.1] ∧ known = r.marks :=
  ⟨[event (request r.world).1], rfl, h, rfl, rfl⟩

end RunM

end Postroom
