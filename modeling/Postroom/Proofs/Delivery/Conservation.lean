import Postroom.Mailbox.Memory
import Postroom.Proofs.Delivery.Course

/-!
# No message is lost or doubled

An effect is what a request leaves behind: a copy or a duplicate in the store, a message in the
mailbox of another account, a message on its way.  In a run that does not fail, every action that is
carried out has exactly one effect, and the actions after the last one are left only because that
one was a duplicate.
-/

namespace Postroom

/-- What a request of a delivery leaves behind. -/
inductive Effect where
  /-- The store has taken a copy. -/
  | copy (f : Filing) (stored : StoredMessage)
  /-- The store had the copy already. -/
  | duplicate (f : Filing)
  /-- Another account has taken the message. -/
  | remote (folder : RemoteFolder) (flags : List TransportFlag) (raw : Octets)
  /-- The message has been sent on. -/
  | mail (email : Octets) (recipient : Text)

namespace Event

/-- The effect of an event; a request that failed has none. -/
def effect? : Event → Option Effect
  | filed f (.ok (some stored)) => some (.copy f stored)
  | filed f (.ok none) => some (.duplicate f)
  | appended folder flags raw (.ok ()) => some (.remote folder flags raw)
  | sent email recipient (.ok ()) => some (.mail email recipient)
  | _ => none

end Event

/-- The effect settles the action of a delivery.  What goes into the store is the message itself,
for the recipient and the context of the delivery; another account gets the octets of the message;
what is sent on goes to the address of the action and ends with these octets. -/
def Effect.Settles (d : Delivery) : DeliveryAction → Effect → Prop
  | _, .copy f _ | _, .duplicate f =>
    f.message = d.message ∧ f.recipient = d.recipient ∧ f.context = d.context
  | .fileInto _, .remote _ _ raw => raw = d.message.raw
  | .redirect address, .mail email recipient =>
    Recipient.parse address = .ok recipient ∧ d.message.raw <:+ email
  | _, _ => False

namespace Delivery

variable {σ τ : Type} {s : Surroundings σ τ} {d : Delivery} {known known' : Option Marks}

/-! ## The effects of each form -/

/-- Notices have no effect. -/
theorem effects_notices (ns : List Notice) :
    (ns.map Event.noticed).filterMap Event.effect? = [] := by
  induction ns with
  | nil => rfl
  | cons n ns ih => rw [List.map_cons, List.filterMap_cons_none rfl, ih]

theorem effects_answered (answers : List MarkAnswer) :
    (answers.flatMap d.answered).filterMap Event.effect? = [] := by
  induction answers with
  | nil => rfl
  | cons answer answers ih =>
    rw [List.flatMap_cons, List.filterMap_append, ih, List.append_nil, answered]
    exact effects_notices _

theorem Marking.effects {marks : Marks} {es : List Event} (h : Marking d known marks es) :
    es.filterMap Event.effect? = [] := by
  cases h with
  | known => rfl
  | asked answers => exact effects_answered answers

/-- A filing that is answered has one effect, a duplicate exactly when the answer is one. -/
theorem Filed.effect {folder : FolderId} {outcome : Outcome} {es : List Event}
    (h : Filed d folder known (.ok outcome) es known') (a : DeliveryAction) :
    ∃ e, es.filterMap Event.effect? = [e] ∧ e.Settles d a ∧
      (outcome = .duplicate ↔ ∃ f, e = .duplicate f) := by
  generalize hanswer : (Except.ok outcome : Except StoreError Outcome) = answer at h
  cases h with
  | @intro marks marking answer hmarking =>
    rw [List.filterMap_append, hmarking.effects]
    match answer with
    | .error e => cases hanswer
    | .ok none =>
      obtain rfl : outcome = .duplicate := by simpa [Except.map, Outcome.ofCopy] using hanswer
      exact ⟨.duplicate _, rfl, by simp [Effect.Settles, filing], by simp⟩
    | .ok (some stored) =>
      obtain rfl : outcome = .filed stored := by simpa [Except.map, Outcome.ofCopy] using hanswer
      exact ⟨.copy _ stored, rfl, by simp [Effect.Settles, filing], by simp⟩

theorem Lookup.effects {item : ItemId} {rest : Option Text}
    {answer : Except RemoteError (Option RemoteFolder)} {es : List Event}
    (h : Lookup item rest answer es) : es.filterMap Event.effect? = [] := by
  cases h <;> rfl

/-- A visit has an effect exactly when it files the message. -/
theorem Visit.effects {item : ItemId} {rest : Option Text} {answer : Except RemoteError Bool}
    {es : List Event} (h : Visit d item rest known answer es known') :
    (answer = .ok true ∧
        ∃ folder flags, es.filterMap Event.effect? = [.remote folder flags d.message.raw]) ∨
      (answer ≠ .ok true ∧ es.filterMap Event.effect? = []) := by
  cases h with
  | lost h => exact Or.inr ⟨by simp, h.effects⟩
  | nowhere h => exact Or.inr ⟨by simp, h.effects⟩
  | appended answer h hm =>
    rw [List.filterMap_append, List.filterMap_append, h.effects, hm.effects]
    match answer with
    | .ok () => exact Or.inl ⟨rfl, _, _, rfl⟩
    | .error e => exact Or.inr ⟨by simp [Except.map], rfl⟩

theorem Trip.effects {m : Mountpoint} {rest : Option Text} {answer : Except RemoteError Bool}
    {es : List Event} (h : Trip s d m rest known answer es known') :
    (answer = .ok true ∧
        ∃ folder flags, es.filterMap Event.effect? = [.remote folder flags d.message.raw]) ∨
      (answer ≠ .ok true ∧ es.filterMap Event.effect? = []) := by
  cases h with
  | unconnected | tokenless | refused => exact Or.inr ⟨by simp, rfl⟩
  | visited t h =>
    -- opening and closing the session have no effect
    have heffects : ∀ es : List Event,
        (.token (.ok t) :: .connected t m.owner (.ok ()) :: (es ++ [.closed])).filterMap
          Event.effect? = es.filterMap Event.effect? := by
      intro es
      rw [List.filterMap_cons_none rfl, List.filterMap_cons_none rfl, List.filterMap_append]
      exact List.append_nil _
    rw [heffects]
    exact h.effects

/-- Finding a place has an effect exactly when the place is remote. -/
theorem Placed.effects {path : Text} {r : Resolution} {place : Place} {es : List Event}
    (h : Placed s d path r known place es known') :
    (place = .remote ∧
        ∃ folder flags, es.filterMap Event.effect? = [.remote folder flags d.message.raw]) ∨
      (place ≠ .remote ∧ es.filterMap Event.effect? = []) := by
  cases h with
  | remote hm h =>
    rcases h.effects with ⟨-, heffect⟩ | ⟨hne, -⟩
    · exact Or.inl ⟨rfl, heffect⟩
    · exact absurd rfl hne
  | absent hm h =>
    rcases h.effects with ⟨htrue, -⟩ | ⟨-, hnone⟩
    · cases htrue
    · exact Or.inr ⟨by simp, hnone⟩
  | failed hm h =>
    rcases h.effects with ⟨htrue, -⟩ | ⟨-, hnone⟩
    · cases htrue
    · exact Or.inr ⟨by simp, by simpa [Event.effect?] using hnone⟩
  | partway | root | own => exact Or.inr ⟨by simp, rfl⟩

/-- Sending on has an effect exactly when it succeeds. -/
theorem Posting.effects {address : Text} {answer : Except SendError Unit} {es : List Event}
    (h : Posting s d address answer es) :
    (answer = .ok () ∧ ∃ email recipient, es.filterMap Event.effect? = [.mail email recipient] ∧
        Recipient.parse address = .ok recipient ∧ d.message.raw <:+ email) ∨
      (answer ≠ .ok () ∧ es.filterMap Event.effect? = []) := by
  cases h with
  | unreadable | senderless => exact Or.inr ⟨by simp, rfl⟩
  | sent recipient stamp answer h =>
    rw [List.filterMap_append, effects_notices]
    match answer with
    | .ok () =>
      exact Or.inl ⟨rfl, _, recipient, rfl, h, Forward.prepare_suffix stamp d.message⟩
    | .error e => exact Or.inr ⟨by simp, rfl⟩

/-- An action that is carried out has one effect, which settles it.  Its outcome is a duplicate when
the effect is one, unless the action is to send the message on. -/
theorem Block.effect {a : DeliveryAction} {outcome : Outcome} {es : List Event}
    (h : Block s d a known (.ok outcome) es known') :
    ∃ e, es.filterMap Event.effect? = [e] ∧ e.Settles d a ∧
      (outcome = .duplicate ↔ (∀ address, a ≠ .redirect address) ∧ ∃ f, e = .duplicate f) := by
  -- the forms of failed actions drop out by their answer
  generalize hanswer : (Except.ok outcome : Except StoreError Outcome) = answer at h
  cases h with
  | kept implicit h =>
    obtain ⟨e, he, hsettles, hdup⟩ := (hanswer ▸ h).effect (.keep implicit)
    exact ⟨e, he, hsettles, by simpa using hdup⟩
  | unresolved => cases hanswer
  | remote path r h =>
    obtain rfl : outcome = .elsewhere := by simpa using hanswer
    rcases h.effects with ⟨-, folder, flags, heffect⟩ | ⟨hne, -⟩
    · refine ⟨.remote folder flags d.message.raw, ?_, rfl, by simp⟩
      rw [List.filterMap_cons_none rfl]
      exact heffect
    · exact absurd rfl hne
  | filed path r h hf =>
    rcases h.effects with ⟨hremote, -⟩ | ⟨-, hnone⟩
    · cases hremote
    · obtain ⟨e, he, hsettles, hdup⟩ := (hanswer ▸ hf).effect (.fileInto path)
      refine ⟨e, ?_, hsettles, by simpa using hdup⟩
      rw [List.filterMap_cons_none rfl, List.filterMap_append, hnone, he]
      rfl
  | sent address h =>
    obtain rfl : outcome = .elsewhere := by simpa using hanswer
    rcases h.effects with ⟨-, email, recipient, heffect, hparse, hsuffix⟩ | ⟨hne, -⟩
    · refine ⟨.mail email recipient, ?_, ⟨hparse, hsuffix⟩, by simp⟩
      rw [List.filterMap_cons_none rfl]
      exact heffect
    · exact absurd rfl hne
  | returned address h hf =>
    rename_i answer e es es'
    rcases h.effects with ⟨hsent, -⟩ | ⟨-, hnone⟩
    · cases hsent
    · match answer with
      | .error e' => cases hanswer
      | .ok outcome' =>
        obtain rfl : outcome = .elsewhere := by simpa [Except.map] using hanswer
        obtain ⟨effect, he, hsettles, -⟩ := hf.effect (.redirect address)
        refine ⟨effect, ?_, hsettles, by simp⟩
        rw [List.filterMap_cons_none rfl, List.filterMap_append, hnone, List.nil_append,
          List.filterMap_cons_none rfl, he]

/-! ## Runs -/

/-- The action of a log's entry ends a run: it is not one that sends the message on, and the store
had its copy already. -/
def Stops (entry : DeliveryAction × List Event) : Prop :=
  (∀ address, entry.1 ≠ .redirect address) ∧
    ∃ f, entry.2.filterMap Event.effect? = [.duplicate f]

theorem Block.stops_iff {a : DeliveryAction} {outcome : Outcome} {es : List Event}
    (h : Block s d a known (.ok outcome) es known') :
    Stops (a, es) ↔ outcome = .duplicate := by
  obtain ⟨e, heffect, -, hdup⟩ := h.effect
  simp [Stops, heffect, hdup]

variable {todo : List DeliveryAction} {log : List (DeliveryAction × List Event)} {duplicate : Bool}

theorem Course.effects (h : Course s d known todo log (.ok duplicate)) :
    ∀ entry ∈ log, ∃ e, entry.2.filterMap Event.effect? = [e] ∧ e.Settles d entry.1 := by
  generalize hanswer : (Except.ok duplicate : Except StoreError Bool) = answer at h
  induction h with
  | done => simp
  | failed => cases hanswer
  | stopped h =>
    obtain ⟨e, heffect, hsettles, -⟩ := h.effect
    simpa using ⟨e, heffect, hsettles⟩
  | step h hgo hrest ih =>
    obtain ⟨e, heffect, hsettles, -⟩ := h.effect
    simpa using ⟨⟨e, heffect, hsettles⟩, fun a es hmem => ih hanswer (a, es) hmem⟩

/-- The actions that are carried out are the first ones, and all of them unless there was a
duplicate. -/
theorem Course.left (h : Course s d known todo log (.ok duplicate)) :
    ∃ left, todo = log.map (·.1) ++ left ∧ (left ≠ [] → duplicate = true) := by
  generalize hanswer : (Except.ok duplicate : Except StoreError Bool) = answer at h
  induction h with
  | done => exact ⟨[], by simp⟩
  | failed => cases hanswer
  | @stopped _ _ _ rest => exact ⟨rest, by simp, fun _ => by simpa using hanswer⟩
  | step h hgo hrest ih =>
    obtain ⟨left, htodo, hleft⟩ := ih hanswer
    exact ⟨left, by simp [htodo], hleft⟩

/-- A run ends at a duplicate exactly when its last action is one that ends it. -/
theorem Course.stops_iff (h : Course s d known todo log (.ok duplicate)) :
    duplicate = true ↔ ∃ entry, log.getLast? = some entry ∧ Stops entry := by
  generalize hanswer : (Except.ok duplicate : Except StoreError Bool) = answer at h
  induction h with
  | done => simpa using hanswer
  | failed => cases hanswer
  | stopped h => simpa [h.stops_iff] using hanswer
  | @step _ _ _ _ _ _ log _ h hgo hrest ih =>
    cases log with
    | nil =>
      -- no action is carried out after this one, which was no duplicate
      cases hrest
      have hno : duplicate = false := by simpa using hanswer
      simp [h.stops_iff, hgo, hno]
    | cons entry log => simpa using ih hanswer

/-- **No message is lost or doubled.**  In a run with actions that does not fail, the actions that
are carried out are the first ones of the delivery actions, or of the one that files the message
where it goes by default.  Each of them has exactly one effect, which settles it, nothing else has
an effect, and the events are all that happens to the world.  Actions are left only when the run
ended at a duplicate, that is, when the last one that is carried out is not one that sends the
message on and was answered with a duplicate. -/
theorem execute_conserves (s : Surroundings σ τ) (d : Delivery) (w : σ)
    (copies : List StoredMessage) (hactions : d.actions ≠ [])
    (hresult : (d.execute s w).result = .ok copies) :
    (∃ left, d.todo = (d.log s w).map (·.1) ++ left ∧
      (left ≠ [] → (d.execute s w).delivery.isDuplicate = true)) ∧
    (∀ entry ∈ d.log s w, ∃ e, entry.2.filterMap Event.effect? = [e] ∧ e.Settles d entry.1) ∧
    (d.execute s w).events = eventsOf (d.log s w) ∧
    (∀ R, s.Follows R → R w (d.execute s w).events (d.execute s w).world) ∧
    copies = d.processed ++ (d.execute s w).events.filterMap Event.copy? ∧
    ((d.execute s w).delivery.isDuplicate = true ↔
      ∃ entry, (d.log s w).getLast? = some entry ∧ Stops entry) := by
  obtain ⟨answer, hcourse, hevents, -, hcopies, hduplicate⟩ :=
    execute_course s.follows_true d w hactions
  have hworld : ∀ R, s.Follows R → R w (d.execute s w).events (d.execute s w).world := by
    -- the same run, seen by another relation
    intro R hs
    obtain ⟨-, -, hevents', hR, -⟩ := execute_course hs d w hactions
    exact hevents' ▸ hR
  rw [hcopies] at hresult
  match answer with
  | .error e => cases hresult
  | .ok duplicate =>
    have hflag : (d.execute s w).delivery.isDuplicate = true ↔ duplicate = true := by
      simpa using hduplicate
    simp only [hflag]
    refine ⟨hcourse.left, hcourse.effects, hevents, hworld, ?_, hcourse.stops_iff⟩
    rw [hevents]
    simpa [Except.map] using hresult.symm

/-- Without a sender, the message that is to be sent on is filed in the inbox instead; a path that
leads nowhere then leads to the same inbox, so that the run ends there, and one action is left. -/
theorem execute_conserves_returned :
    let s : Surroundings Mailbox Unit := ⟨Mailbox.store, none, none, fun w => (⟨[], []⟩, w)⟩
    let d := (start ⟨[10, 72, 105, 10], []⟩ "bob".toList (some 1) .none).setActions
      [.redirect "carol@localhost".toList, .fileInto "/Missing".toList, .keep false]
    let w := Mailbox.new "bob".toList none
    Message.ofOctets d.message.raw = .ok d.message ∧ d.actions ≠ [] ∧
      (d.execute s w).result = .ok [⟨1, .inbox, 512, []⟩] ∧
      ∃ entry, (d.log s w).getLast? = some entry ∧ Stops entry := by
  intro s d w
  have hactions : d.actions ≠ [] := by decide
  have hresult : (d.execute s w).result = .ok [⟨1, .inbox, 512, []⟩] := by decide +kernel
  obtain ⟨-, -, -, -, -, hstops⟩ := execute_conserves s d w _ hactions hresult
  exact ⟨Message.ofOctets_of_blank _, hactions, hresult, hstops.1 (by decide +kernel)⟩

end Delivery

end Postroom
