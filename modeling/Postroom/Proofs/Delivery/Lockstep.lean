import Postroom.Proofs.Delivery.Faults
import Postroom.Proofs.Mailbox.Agreement
import Mathlib.Data.List.Forall2

/-!
# Two runs side by side

Two runs of one delivery, in worlds whose answers to its requests are alike, make the same requests
in the same order.  They can differ in what each of them makes up: the numbers of copies, and the
identifiers and dates of messages that are sent on.

* `Event.Alike` — events that differ in nothing else;
* `Surroundings.Steady` — surroundings that answer alike in worlds that are alike;
* `RunM.Together` — parts of runs that go on side by side, put together along their sequence.
-/

namespace Postroom

variable {σ τ : Type}

/-- Events that differ at most in the number of a copy or in the stamp of a message sent on. -/
inductive Event.Alike (message : Message) : Event → Event → Prop
  | same (e : Event) : Alike message e e
  | filed (f : Filing) {answer answer' : Except StoreError (Option StoredMessage)}
      (h : SameAnswer answer answer') : Alike message (.filed f answer) (.filed f answer')
  | sent (stamp stamp' : Forward.Stamp) (recipient : Text) (answer : Except SendError Unit) :
      Alike message (.sent (Forward.prepare stamp message).1 recipient answer)
        (.sent (Forward.prepare stamp' message).1 recipient answer)

/-! ## Steady collaborators -/

/-- Two answers to a request for a session: refused for the same reason, or two sessions that are
alike. -/
inductive SameOpening (E : τ → τ → Prop) : Except RemoteError τ → Except RemoteError τ → Prop
  | refused (e : RemoteError) : SameOpening E (.error e) (.error e)
  | opened {t t' : τ} (h : E t t') : SameOpening E (.ok t) (.ok t')

/-- In worlds that are alike, the connector answers a request in the same way, and sessions that
were opened by the same request and used alike stay alike. -/
structure Connector.Steady (c : Connector σ τ) (W : σ → σ → Prop) (E : τ → τ → Prop) : Prop where
  connect : ∀ token owner w w', W w w' →
    SameOpening E (c.connect token owner w).1 (c.connect token owner w').1 ∧
      W (c.connect token owner w).2 (c.connect token owner w').2
  folder : ∀ item ⦃t t'⦄, E t t' → ∀ w w', W w w' →
    (c.folder item t' w').1 = (c.folder item t w).1 ∧
      E (c.folder item t w).2.1 (c.folder item t' w').2.1 ∧
      W (c.folder item t w).2.2 (c.folder item t' w').2.2
  subfolder : ∀ parent path ⦃t t'⦄, E t t' → ∀ w w', W w w' →
    (c.subfolder parent path t' w').1 = (c.subfolder parent path t w).1 ∧
      E (c.subfolder parent path t w).2.1 (c.subfolder parent path t' w').2.1 ∧
      W (c.subfolder parent path t w).2.2 (c.subfolder parent path t' w').2.2
  append : ∀ folder flags raw ⦃t t'⦄, E t t' → ∀ w w', W w w' →
    (c.append folder flags raw t' w').1 = (c.append folder flags raw t w).1 ∧
      E (c.append folder flags raw t w).2.1 (c.append folder flags raw t' w').2.1 ∧
      W (c.append folder flags raw t w).2.2 (c.append folder flags raw t' w').2.2
  close : ∀ ⦃t t'⦄, E t t' → ∀ w w', W w w' → W (c.close t w) (c.close t' w')

/-- In worlds that are alike, the sender answers in the same way when it is asked to send a message
on to a recipient, whatever stamps the message gets. -/
def Sender.Steady (send : Sender σ) (stamp : σ → Forward.Stamp × σ) (W : σ → σ → Prop) : Prop :=
  ∀ message recipient v v' w w', W w w' →
    let email := (Forward.prepare (stamp v).1 message).1
    let email' := (Forward.prepare (stamp v').1 message).1
    (send email' recipient w').1 = (send email recipient w).1 ∧
      W (send email recipient w).2 (send email' recipient w').2

/-- In worlds that are alike, the requests of a delivery have answers that are alike, and leave
worlds that are alike. -/
structure Surroundings.Steady (s : Surroundings σ τ) (d : Delivery) (W : σ → σ → Prop)
    (E : τ → τ → Prop) : Prop where
  token : ∀ w w', W w w' → (s.store.authToken w').1 = (s.store.authToken w).1 ∧
    W (s.store.authToken w).2 (s.store.authToken w').2
  resolved : ∀ root path w w', W w w' →
    (s.store.resolve root path w').1 = (s.store.resolve root path w).1 ∧
      W (s.store.resolve root path w).2 (s.store.resolve root path w').2
  filed : ∀ folder marks w w', W w w' →
    SameAnswer (s.store.addMessage (d.filing folder marks) w).1
        (s.store.addMessage (d.filing folder marks) w').1 ∧
      W (s.store.addMessage (d.filing folder marks) w).2
        (s.store.addMessage (d.filing folder marks) w').2
  markedFlag : ∀ id w w', W w w' → (s.store.flagById id w').1 = (s.store.flagById id w).1 ∧
    W (s.store.flagById id w).2 (s.store.flagById id w').2
  markedTag : ∀ name w w', W w w' →
    (s.store.tagByName name w').1 = (s.store.tagByName name w).1 ∧
      W (s.store.tagByName name w).2 (s.store.tagByName name w').2
  stamped : ∀ w w', W w w' → W (s.stamp w).2 (s.stamp w').2
  connector : ∀ c, s.connector = some c → c.Steady W E
  sender : ∀ send, s.sender = some send → send.Steady s.stamp W

/-! ## Parts of runs -/

/-- Two runs have come equally far.  Their copies are not compared, since these have numbers. -/
structure SameRun (message : Message) (W : σ → σ → Prop) (r r' : Run σ) : Prop where
  world : W r.world r'.world
  marks : r'.marks = r.marks
  events : List.Forall₂ (Event.Alike message) r.events r'.events
  state : r'.state = r.state
  isDuplicate : r'.isDuplicate = r.isDuplicate

namespace RunM

variable {α β : Type} {message : Message} {W : σ → σ → Prop}

/-- From runs that have come equally far, the parts give answers that are related and lead to runs
that have come equally far. -/
def Together (message : Message) (W : σ → σ → Prop) (f f' : RunM σ α) (V : α → α → Prop) : Prop :=
  ∀ ⦃r r'⦄, SameRun message W r r' →
    V (f r).1 (f' r').1 ∧ SameRun message W (f r).2 (f' r').2

variable {f f' : RunM σ α} {V : α → α → Prop}

theorem together_pure {a a' : α} (h : V a a') :
    Together message W (pure a : RunM σ α) (pure a') V :=
  fun _ _ hr => ⟨h, hr⟩

theorem Together.bind {g g' : α → RunM σ β} {V' : β → β → Prop} (hf : Together message W f f' V)
    (hg : ∀ a a', V a a' → Together message W (g a) (g' a') V') :
    Together message W (f >>= g) (f' >>= g') V' := by
  intro r r' hr
  obtain ⟨hV, hnext⟩ := hf hr
  exact hg _ _ hV hnext

theorem together_note {e e' : Event} (h : e.Alike message e') :
    Together message W (note e) (note e') fun _ _ => True := by
  intro r r' hr
  refine ⟨trivial, hr.world, hr.marks, ?_, hr.state, hr.isDuplicate⟩
  exact List.rel_append (R := Event.Alike message) hr.events (.cons h .nil)

theorem together_tell (n : Notice) :
    Together message W (tell n) (tell n) fun _ _ => True :=
  together_note (.same _)

theorem together_tellAll (ns : List Notice) :
    Together message W (tellAll ns) (tellAll ns) fun _ _ => True := by
  induction ns with
  | nil => exact together_pure trivial
  | cons n ns ih => exact (together_tell n).bind fun _ _ _ => ih

theorem together_draw {request request' : σ → α × σ}
    (h : ∀ w w', W w w' → V (request w).1 (request' w').1 ∧ W (request w).2 (request' w').2) :
    Together message W (draw request) (draw request') V := by
  intro r r' hr
  obtain ⟨hV, hW⟩ := h _ _ hr.world
  exact ⟨hV, hW, hr.marks, hr.events, hr.state, hr.isDuplicate⟩

theorem together_enter (state : DeliveryState) :
    Together message W (enter state) (enter state) fun _ _ => True :=
  fun _ _ hr => ⟨trivial, hr.world, hr.marks, hr.events, rfl, hr.isDuplicate⟩

theorem together_markDuplicate :
    Together message W markDuplicate markDuplicate fun _ _ => True :=
  fun _ _ hr => ⟨trivial, hr.world, hr.marks, hr.events, hr.state, rfl⟩

theorem together_keep (copy copy' : StoredMessage) :
    Together message W (keep copy) (keep copy') fun _ _ => True :=
  fun _ _ hr => ⟨trivial, hr.world, hr.marks, hr.events, hr.state, hr.isDuplicate⟩

/-- A request that is made in both runs, with answers whose events are alike. -/
theorem together_ask {request request' : σ → α × σ} {event event' : α → Event}
    (h : ∀ w w', W w w' → V (request w).1 (request' w').1 ∧ W (request w).2 (request' w').2)
    (hevent : ∀ a a', V a a' → (event a).Alike message (event' a')) :
    Together message W (ask request event) (ask request' event') V := by
  refine (together_draw h).bind ?_
  intro a a' hV
  exact (together_note (hevent a a' hV)).bind fun _ _ _ => together_pure hV

/-- A request that is made in both runs and has the same answer. -/
theorem together_ask_same {request : σ → α × σ} {event : α → Event}
    (h : ∀ w w', W w w' → (request w').1 = (request w).1 ∧ W (request w).2 (request w').2) :
    Together message W (ask request event) (ask request event) fun a a' => a' = a := by
  refine together_ask h ?_
  rintro _ a rfl
  exact .same _

/-- A request that is made in two sessions that are alike and has the same answer. -/
theorem together_askIn {E : τ → τ → Prop} {request request' : σ → α × τ × σ} {event : α → Event}
    (h : ∀ w w', W w w' → (request' w').1 = (request w).1 ∧
      E (request w).2.1 (request' w').2.1 ∧ W (request w).2.2 (request' w').2.2) :
    Together message W (askIn request event) (askIn request' event)
      fun a a' => a'.1 = a.1 ∧ E a.2 a'.2 := by
  refine together_ask ?_ ?_
  · intro w w' hW
    obtain ⟨hanswer, hE, hW'⟩ := h w w' hW
    exact ⟨⟨hanswer, hE⟩, hW'⟩
  · rintro ⟨_, t⟩ ⟨a, t'⟩ ⟨rfl, -⟩
    exact .same _

end RunM

/-! ## The parts of a delivery -/

namespace Delivery

open RunM

variable {s : Surroundings σ τ} {d : Delivery} {W : σ → σ → Prop} {E : τ → τ → Prop}
  {actions : List MarkAction}

/-- Two actions come to the same: they fail with the same error, or both or none of them find a
copy that was filed before. -/
def SameOutcome (answer answer' : Except StoreError Outcome) : Prop :=
  answer'.map (· == .duplicate) = answer.map (· == .duplicate)

theorem askFlags_steady (hs : s.Steady d W E) (actions : List MarkAction) {w w' : σ} (h : W w w') :
    (Marks.askFlags s.store actions w').1 = (Marks.askFlags s.store actions w).1 ∧
      W (Marks.askFlags s.store actions w).2 (Marks.askFlags s.store actions w').2 := by
  induction actions generalizing w w' with
  | nil => exact ⟨rfl, h⟩
  | cons a rest ih =>
    cases a with
    | tag name => exact ih h
    | flag id set =>
      obtain ⟨hanswer, hnext⟩ := hs.markedFlag id _ _ h
      obtain ⟨hanswers, hlast⟩ := ih hnext
      exact ⟨by simp only [Marks.askFlags, hanswer, hanswers], hlast⟩

theorem askTags_steady (hs : s.Steady d W E) (actions : List MarkAction) {w w' : σ} (h : W w w') :
    (Marks.askTags s.store actions w').1 = (Marks.askTags s.store actions w).1 ∧
      W (Marks.askTags s.store actions w).2 (Marks.askTags s.store actions w').2 := by
  induction actions generalizing w w' with
  | nil => exact ⟨rfl, h⟩
  | cons a rest ih =>
    cases a with
    | flag id set => exact ih h
    | tag name =>
      obtain ⟨hanswer, hnext⟩ := hs.markedTag name _ _ h
      obtain ⟨hanswers, hlast⟩ := ih hnext
      exact ⟨by simp only [Marks.askTags, hanswer, hanswers], hlast⟩

theorem together_marks (hs : s.Steady d W E) :
    Together d.message W (marks s d actions) (marks s d actions) fun a a' => a' = a := by
  intro r r' hr
  unfold marks
  rw [hr.marks]
  cases hmarks : r.marks with
  | some known => exact ⟨rfl, hr⟩
  | none =>
    obtain ⟨hflags, hnext⟩ := askFlags_steady hs actions hr.world
    obtain ⟨htags, hlast⟩ := askTags_steady hs actions hnext
    have hanswers :
        (Marks.ask s.store actions r'.world).1 = (Marks.ask s.store actions r.world).1 := by
      simp only [Marks.ask, hflags, htags]
    simp only [hanswers]
    refine ⟨trivial, hlast, rfl, ?_, hr.state, hr.isDuplicate⟩
    exact List.rel_append (R := Event.Alike d.message) hr.events
      (List.forall₂_same.2 fun e _ => .same e)

theorem together_addMessage (hs : s.Steady d W E) (folder : FolderId) (marks : Marks) :
    Together d.message W (addMessage s (d.filing folder marks))
      (addMessage s (d.filing folder marks)) SameAnswer := by
  refine (together_ask (V := SameAnswer) (hs.filed folder marks) ?_).bind ?_
  · exact fun a a' h => .filed _ h
  · intro answer answer' h
    rcases h.cases with ⟨e, rfl, rfl⟩ | ⟨rfl, rfl⟩ | ⟨copy, copy', rfl, rfl⟩
    · exact together_pure h
    · exact together_pure h
    · exact (together_keep copy copy').bind fun _ _ _ => together_pure h

theorem together_file (hs : s.Steady d W E) (folder : FolderId) :
    Together d.message W (file s d actions folder) (file s d actions folder) SameOutcome := by
  refine (together_marks hs).bind ?_
  rintro _ marks rfl
  refine (together_addMessage hs folder marks).bind ?_
  intro answer answer' h
  refine together_pure ?_
  rcases h.cases with ⟨e, rfl, rfl⟩ | ⟨rfl, rfl⟩ | ⟨copy, copy', rfl, rfl⟩
  all_goals rfl

theorem together_findRemote (hs : s.Steady d W E) {c : Connector σ τ} (hc : s.connector = some c)
    (item : ItemId) (rest : Option Text) {t t' : τ} (ht : E t t') :
    Together d.message W (findRemote c item rest t) (findRemote c item rest t')
      fun a a' => a'.1 = a.1 ∧ E a.2 a'.2 := by
  refine (together_askIn ((hs.connector c hc).folder item ht)).bind ?_
  rintro ⟨_, t₁⟩ ⟨answer, t₁'⟩ ⟨rfl, ht₁⟩
  match answer, rest with
  | .error e, rest => exact together_pure ⟨rfl, ht₁⟩
  | .ok none, rest => exact (together_tell _).bind fun _ _ _ => together_pure ⟨rfl, ht₁⟩
  | .ok (some folder), none => exact together_pure ⟨rfl, ht₁⟩
  | .ok (some folder), some path =>
    refine (together_askIn ((hs.connector c hc).subfolder folder path ht₁)).bind ?_
    rintro ⟨_, t₂⟩ ⟨answer', t₂'⟩ ⟨rfl, ht₂⟩
    match answer' with
    | .ok none => exact (together_tell _).bind fun _ _ _ => together_pure ⟨rfl, ht₂⟩
    | .ok (some found) | .error e => exact together_pure ⟨rfl, ht₂⟩

theorem together_fileInSession (hs : s.Steady d W E) {c : Connector σ τ}
    (hc : s.connector = some c) (item : ItemId) (rest : Option Text) {t t' : τ} (ht : E t t') :
    Together d.message W (fileInSession s d actions c item rest t)
      (fileInSession s d actions c item rest t') fun a a' => a'.1 = a.1 ∧ E a.2 a'.2 := by
  refine (together_findRemote hs hc item rest ht).bind ?_
  rintro ⟨_, t₁⟩ ⟨answer, t₁'⟩ ⟨rfl, ht₁⟩
  match answer with
  | .error e | .ok none => exact together_pure ⟨rfl, ht₁⟩
  | .ok (some folder) =>
    refine (together_marks hs).bind ?_
    rintro _ marks rfl
    refine (together_askIn ((hs.connector c hc).append folder _ _ ht₁)).bind ?_
    rintro ⟨_, t₂⟩ ⟨answer', t₂'⟩ ⟨rfl, ht₂⟩
    exact together_pure ⟨rfl, ht₂⟩

theorem together_fileRemotely (hs : s.Steady d W E) (m : Mountpoint) (rest : Option Text) :
    Together d.message W (fileRemotely s d actions m rest) (fileRemotely s d actions m rest)
      fun a a' => a' = a := by
  unfold fileRemotely
  cases hc : s.connector with
  | none => exact together_pure rfl
  | some c =>
    refine (together_ask_same hs.token).bind ?_
    rintro _ answer rfl
    match answer with
    | .error e => exact together_pure rfl
    | .ok token =>
      refine (together_ask (V := SameOpening E)
        ((hs.connector c hc).connect token m.owner) ?_).bind ?_
      · rintro _ _ (⟨e⟩ | ⟨h⟩)
        · exact .same _
        · exact .same _
      · rintro _ _ (⟨e⟩ | ⟨ht⟩)
        · exact together_pure rfl
        · refine (together_fileInSession hs hc m.item rest ht).bind ?_
          rintro ⟨_, t₁⟩ ⟨answer, t₁'⟩ ⟨rfl, ht₁⟩
          refine (together_ask (V := fun _ _ => True) ?_ fun _ _ _ => .same _).bind
            fun _ _ _ => together_pure rfl
          exact fun _ _ hW => ⟨trivial, (hs.connector c hc).close ht₁ _ _ hW⟩

theorem together_place (hs : s.Steady d W E) (path : Text) (res : Resolution) :
    Together d.message W (place s d actions path res) (place s d actions path res)
      fun a a' => a' = a := by
  unfold place
  cases res.folder.mountpoint? with
  | some m =>
    refine (together_fileRemotely hs m res.remaining).bind ?_
    rintro _ answer rfl
    match answer with
    | .ok true | .ok false => exact together_pure rfl
    | .error e => exact (together_tell _).bind fun _ _ _ => together_pure rfl
  | none =>
    simp only
    split
    · exact (together_tell _).bind fun _ _ _ => together_pure rfl
    · split
      · exact (together_tell _).bind fun _ _ _ => together_pure rfl
      · exact together_pure rfl

theorem together_fileInto (hs : s.Steady d W E) (path : Text) :
    Together d.message W (fileInto s d actions path) (fileInto s d actions path) SameOutcome := by
  refine (together_ask_same (hs.resolved .root path)).bind ?_
  rintro _ answer rfl
  match answer with
  | .error e => exact together_pure rfl
  | .ok res =>
    refine (together_place hs path res).bind ?_
    rintro _ place rfl
    match place with
    | .remote => exact together_pure rfl
    | .folder id => exact together_file hs id

theorem together_sendOn (hs : s.Steady d W E) (address : Text) :
    Together d.message W (sendOn s d address) (sendOn s d address) fun a a' => a' = a := by
  unfold sendOn
  cases Recipient.parse address with
  | error e => exact together_pure rfl
  | ok recipient =>
    cases hsend : s.sender with
    | none => exact together_pure rfl
    | some send =>
      -- the stamps of the two runs may differ, but both are drawn in some world
      refine (together_draw (V := fun stamp stamp' => ∃ v v', stamp = (s.stamp v).1 ∧
        stamp' = (s.stamp v').1) fun _ _ hW => ⟨⟨_, _, rfl, rfl⟩, hs.stamped _ _ hW⟩).bind ?_
      rintro _ _ ⟨v, v', rfl, rfl⟩
      refine (together_tellAll _).bind fun _ _ _ => ?_
      refine together_ask (V := fun a a' => a' = a)
        (hs.sender send hsend d.message recipient v v') ?_
      rintro _ answer rfl
      exact .sent _ _ recipient answer

theorem together_redirect (hs : s.Steady d W E) (address : Text) :
    Together d.message W (redirect s d actions address) (redirect s d actions address)
      SameOutcome := by
  refine (together_tell _).bind fun _ _ _ => (together_sendOn hs address).bind ?_
  rintro _ answer rfl
  match answer with
  | .ok () => exact together_pure rfl
  | .error e =>
    refine (together_tell _).bind fun _ _ _ => (together_file hs .inbox).bind ?_
    intro answer answer' h
    refine together_pure ?_
    match answer, answer', h with
    | .error e, .error _, h => cases h; rfl
    | .ok _, .ok _, _ => rfl

/-- **One action, side by side.**  Both runs come to the same by an action. -/
theorem together_perform (hs : s.Steady d W E) (a : DeliveryAction) :
    Together d.message W (perform s d actions a) (perform s d actions a) SameOutcome := by
  match a with
  | .keep true => exact together_file hs _
  | .keep false => exact together_file hs _
  | .fileInto path => exact together_fileInto hs path
  | .redirect address => exact together_redirect hs address

theorem together_performAll (hs : s.Steady d W E) (todo : List DeliveryAction) :
    Together d.message W (performAll s d actions todo) (performAll s d actions todo)
      fun a a' => a' = a := by
  induction todo with
  | nil => exact together_pure rfl
  | cons a rest ih =>
    refine (together_perform hs a).bind ?_
    intro answer answer' h
    match answer, answer', h with
    | .error e, .error _, h => cases h; exact together_pure rfl
    | .ok .duplicate, .ok .duplicate, _ =>
      exact together_markDuplicate.bind fun _ _ _ => together_pure rfl
    | .ok (.filed _), .ok (.filed _), _ | .ok (.filed _), .ok .elsewhere, _ |
      .ok .elsewhere, .ok (.filed _), _ | .ok .elsewhere, .ok .elsewhere, _ => exact ih

theorem together_fileByDefault (hs : s.Steady d W E) (c : ClassifiedActions) :
    Together d.message W (fileByDefault s d c) (fileByDefault s d c) fun a a' => a' = a := by
  unfold fileByDefault
  split
  · refine (together_file hs d.defaultFolder).bind ?_
    intro answer answer' h
    match answer, answer', h with
    | .error e, .error _, h => cases h; exact together_pure rfl
    | .ok .duplicate, .ok .duplicate, _ =>
      exact together_markDuplicate.bind fun _ _ _ => (together_enter _).bind fun _ _ _ =>
        together_pure rfl
    | .ok (.filed _), .ok (.filed _), _ | .ok (.filed _), .ok .elsewhere, _ |
      .ok .elsewhere, .ok (.filed _), _ | .ok .elsewhere, .ok .elsewhere, _ =>
      exact (together_enter _).bind fun _ _ _ => together_pure rfl
  · exact (together_enter _).bind fun _ _ _ => together_pure rfl

theorem together_runActions (hs : s.Steady d W E) :
    Together d.message W (runActions s d) (runActions s d) fun a a' => a' = a := by
  unfold runActions
  split
  · exact (together_tell _).bind fun _ _ _ => (together_enter _).bind fun _ _ _ =>
      (together_enter _).bind fun _ _ _ => together_pure rfl
  · refine (together_enter _).bind fun _ _ _ => (together_fileByDefault hs _).bind ?_
    rintro _ (e | ⟨⟩) rfl
    · exact together_pure rfl
    · refine (together_performAll hs _).bind ?_
      rintro _ (e | ⟨⟩) rfl
      · exact together_pure rfl
      · exact (together_enter _).bind fun _ _ _ => together_pure rfl

/-- **Two runs, side by side.**  From worlds that are alike, two runs of a delivery have events that
are alike, leave worlds that are alike, and come to the same. -/
theorem execute_together (hs : s.Steady d W E) (w w' : σ) (h : W w w') :
    let x := d.execute s w
    let x' := d.execute s w'
    List.Forall₂ (Event.Alike d.message) x.events x'.events ∧ W x.world x'.world ∧
      x'.delivery.isDuplicate = x.delivery.isDuplicate ∧ x'.delivery.state = x.delivery.state := by
  have hstart : SameRun d.message W (d.toRun w) (d.toRun w') := ⟨h, rfl, .nil, rfl, rfl⟩
  obtain ⟨-, hrun⟩ := together_runActions hs hstart
  exact ⟨hrun.events, hrun.world, hrun.isDuplicate, hrun.state⟩

end Delivery

end Postroom
