import Postroom.Proofs.Delivery.Filings
import Postroom.Proofs.Delivery.Lockstep
import Postroom.Proofs.Mailbox.Commutation

/-!
# Deliveries that do not get in each other's way

A run reads a mailbox through its setup and through the copies for its own context and recipient,
and it writes only such copies.  So two deliveries that do not share both do the same whether they
run alone or one after the other, and their order makes no difference to what comes later.
-/

namespace Postroom

variable {ρ σ τ : Type}

/-- What an event sends on and to whom, and the answer. -/
def Event.post? : Event → Option (Octets × Text × Except SendError Unit)
  | sent email recipient answer => some (email, recipient, answer)
  | _ => none

/-- The answers of the connector depend on the requests only, whatever else has happened. -/
def Connector.AnswersByRequest (c : Connector ρ τ) : Prop :=
  ∃ E, c.Steady (fun _ _ => True) E

/-- The answers of the sender depend on the requests only, whatever else has happened. -/
def Sender.AnswersByRequest (send : Sender ρ) (stamp : ρ → Forward.Stamp × ρ) : Prop :=
  send.Steady stamp fun _ _ => True

/-! ## What a delivery reads -/

/-- A connector that answers by request does so next to something else. -/
theorem Connector.Steady.beside {c : Connector ρ τ} {E : τ → τ → Prop} {W : σ → σ → Prop}
    (hc : c.Steady (fun _ _ => True) E) : c.beside.Steady (fun w w' => W w.1 w'.1) E := by
  constructor
  case connect =>
    intro token owner w w' hW
    exact ⟨(hc.connect token owner _ _ trivial).1, hW⟩
  case folder =>
    intro item t t' ht w w' hW
    obtain ⟨hanswer, ht', -⟩ := hc.folder item ht w.2 w'.2 trivial
    exact ⟨hanswer, ht', hW⟩
  case subfolder =>
    intro parent path t t' ht w w' hW
    obtain ⟨hanswer, ht', -⟩ := hc.subfolder parent path ht w.2 w'.2 trivial
    exact ⟨hanswer, ht', hW⟩
  case append =>
    intro folder flags raw t t' ht w w' hW
    obtain ⟨hanswer, ht', -⟩ := hc.append folder flags raw ht w.2 w'.2 trivial
    exact ⟨hanswer, ht', hW⟩
  case close => exact fun _ _ _ _ _ hW => hW

namespace Delivery

/-- The filing is for the recipient of the delivery, and for its context. -/
def Owns (d : Delivery) (f : Filing) : Prop :=
  f.recipient = d.recipient ∧ f.context = d.context

/-- Next to a connector and a sender that answer by request, a mailbox answers a delivery alike as
long as it knows the same copies that are the delivery's own. -/
theorem surroundings_steady {connector : Option (Connector ρ τ)} {sender : Option (Sender ρ)}
    {stamp : ρ → Forward.Stamp × ρ} {E : τ → τ → Prop}
    (hc : ∀ c ∈ connector, c.Steady (fun _ _ => True) E)
    (hsend : ∀ send ∈ sender, send.AnswersByRequest stamp) (d : Delivery) :
    (Mailbox.surroundings connector sender stamp).Steady d
      (fun w w' => w.1.AgreesOn d.Owns w'.1) E := by
  constructor
  case token => exact fun _ _ hW => ⟨hW.toSameSetup.authToken, hW⟩
  case resolved =>
    exact fun root path _ _ hW => ⟨Mailbox.resolve_congr hW.folders root path, hW⟩
  case filed => exact fun folder marks _ _ hW => hW.addMessage ⟨rfl, rfl⟩
  case markedFlag => exact fun id _ _ hW => ⟨hW.toSameSetup.flagById id, hW⟩
  case markedTag => exact fun name _ _ hW => ⟨hW.toSameSetup.tagByName name, hW⟩
  case stamped => exact fun _ _ hW => hW
  case connector =>
    intro c h
    obtain ⟨c, hmem, rfl⟩ := Option.map_eq_some_iff.1 h
    exact (hc c hmem).beside
  case sender =>
    intro send h
    obtain ⟨send, hmem, rfl⟩ := Option.map_eq_some_iff.1 h
    intro message recipient v v' w w' hW
    exact ⟨(hsend send hmem message recipient v.2 v'.2 _ _ trivial).1, hW⟩

/-! ## What a delivery writes -/

variable {s : Surroundings σ τ} {d : Delivery} {known known' : Option Marks}

theorem Filed.owns {folder : FolderId} {answer : Except StoreError Outcome} {es : List Event}
    (h : Filed d folder known answer es known') :
    Mailbox.OnlyFiles d.Owns (es.filterMap Event.operation?) := by
  cases h with
  | @intro marks marking answer hmarking =>
    rw [List.filterMap_append, hmarking.operations]
    exact List.forall_mem_singleton.2 ⟨d.filing folder marks, rfl, rfl, rfl⟩

theorem Block.owns {a : DeliveryAction} {answer : Except StoreError Outcome} {es : List Event}
    (h : Block s d a known answer es known') :
    Mailbox.OnlyFiles d.Owns (es.filterMap Event.operation?) := by
  cases h with
  | kept implicit h => exact h.owns
  | unresolved path e => exact List.forall_mem_nil _
  | remote path r h =>
    rw [List.filterMap_cons_none rfl, h.operations]
    exact List.forall_mem_nil _
  | filed path r h hf =>
    rw [List.filterMap_cons_none rfl, List.filterMap_append, h.operations]
    exact hf.owns
  | sent address h =>
    rw [List.filterMap_cons_none rfl, h.operations]
    exact List.forall_mem_nil _
  | returned address h hf =>
    rw [List.filterMap_cons_none rfl, List.filterMap_append, h.operations, List.nil_append,
      List.filterMap_cons_none rfl]
    exact hf.owns

theorem Course.owns {todo : List DeliveryAction} {log : List (DeliveryAction × List Event)}
    {answer : Except StoreError Bool} (h : Course s d known todo log answer) :
    Mailbox.OnlyFiles d.Owns ((eventsOf log).filterMap Event.operation?) := by
  induction h with
  | done => exact List.forall_mem_nil _
  | failed h | stopped h => simpa using h.owns
  | step h hgo hrest ih =>
    rw [eventsOf_cons, List.filterMap_append]
    exact List.forall_mem_append.2 ⟨h.owns, ih⟩

/-- A run files copies of its own only. -/
theorem execute_owns (s : Surroundings σ τ) (d : Delivery) (w : σ) :
    Mailbox.OnlyFiles d.Owns ((d.execute s w).events.filterMap Event.operation?) := by
  by_cases hactions : d.actions = []
  · rw [execute_of_no_actions s w hactions]
    exact List.forall_mem_nil _
  · obtain ⟨answer, hcourse, hevents, -⟩ := execute_course s.follows_true d w hactions
    rw [hevents]
    exact hcourse.owns

/-! ## What two runs have in common -/

/-- A message that is sent on in two runs is the same apart from the stamp that a run gives it, and
so are the recipient and the answer. -/
def SamePost (message : Message) (p p' : Octets × Text × Except SendError Unit) : Prop :=
  p'.2 = p.2 ∧ (p'.1 = p.1 ∨ ∃ stamp stamp', p.1 = (Forward.prepare stamp message).1 ∧
    p'.1 = (Forward.prepare stamp' message).1)

theorem append?_of_alike {message : Message} {e e' : Event} (h : e.Alike message e') :
    e'.append? = e.append? := by
  cases h <;> rfl

theorem operation?_of_alike {message : Message} {e e' : Event} (h : e.Alike message e') :
    e'.operation? = e.operation? := by
  cases h <;> rfl

theorem post?_of_alike {message : Message} {e e' : Event} (h : e.Alike message e') :
    Option.Rel (SamePost message) e.post? e'.post? := by
  cases h with
  | same e =>
    cases e.post? with
    | none => exact .none
    | some p => exact .some ⟨rfl, Or.inl rfl⟩
  | filed => exact .none
  | sent stamp stamp' => exact .some ⟨rfl, Or.inr ⟨stamp, stamp', rfl, rfl⟩⟩

/-- What is seen alike in events that are alike is the same for both runs. -/
theorem filterMap_of_alike {α : Type} {message : Message} {g : Event → Option α}
    (hg : ∀ {e e'}, Event.Alike message e e' → g e' = g e) {es es' : List Event}
    (h : List.Forall₂ (Event.Alike message) es es') : es'.filterMap g = es.filterMap g := by
  induction h with
  | nil => rfl
  | cons h _ ih => rw [List.filterMap_cons, List.filterMap_cons, hg h, ih]

/-- A run of the delivery does to one mailbox what another run does to another mailbox. -/
structure SameDelivery (d : Delivery) (m m' : Mailbox) (x x' : Execution (Mailbox × ρ)) : Prop where
  filed : ∃ added, x.world.1.contents = m.contents ++ added ∧
    x'.world.1.contents = m'.contents ++ added
  appended : x'.events.filterMap Event.append? = x.events.filterMap Event.append?
  sent : List.Forall₂ (SamePost d.message) (x.events.filterMap Event.post?)
    (x'.events.filterMap Event.post?)
  isDuplicate : x'.delivery.isDuplicate = x.delivery.isDuplicate
  state : x'.delivery.state = x.delivery.state

/-- The deliveries have a context in common, and their recipients are the same up to case. -/
def SharesKey (d d' : Delivery) : Prop :=
  (∃ context, d.context = some context ∧ d'.context = some context) ∧
    Unicode.lowercase d.recipient = Unicode.lowercase d'.recipient

theorem not_sameCopy {d d' : Delivery} (h : ¬ d.SharesKey d') (f g : Filing) (hf : d.Owns f)
    (hg : d'.Owns g) : ¬ Mailbox.SameCopy f g := by
  obtain ⟨hfrecipient, hfcontext⟩ := hf
  obtain ⟨hgrecipient, hgcontext⟩ := hg
  rintro ⟨hcontext, -, hrecipient⟩
  rw [hfcontext, hgcontext] at hcontext
  rw [hfrecipient, hgrecipient] at hrecipient
  exact h ⟨hcontext, hrecipient⟩

section Runs

variable {m m' : Mailbox} {connector : Option (Connector ρ τ)} {sender : Option (Sender ρ)}
  {stamp : ρ → Forward.Stamp × ρ}

/-- What a run does to a mailbox is what its events ask for. -/
theorem world_execute (connector : Option (Connector ρ τ)) (sender : Option (Sender ρ))
    (stamp : ρ → Forward.Stamp × ρ) (d : Delivery) (m : Mailbox) (w : ρ) :
    let x := d.execute (Mailbox.surroundings connector sender stamp) (m, w)
    x.world.1 = m.run (x.events.filterMap Event.operation?) :=
  (execute_explains (Mailbox.surroundings_follows connector sender stamp) d (m, w)).2.2

/-- **Runs over mailboxes that agree.**  When two mailboxes agree on the copies of a delivery, its
runs over them do the same and ask for the same filings. -/
theorem sameDelivery_of_agreesOn (hc : ∀ c ∈ connector, c.AnswersByRequest)
    (hsend : ∀ send ∈ sender, send.AnswersByRequest stamp) (h : m.AgreesOn d.Owns m') (w w' : ρ) :
    let x := d.execute (Mailbox.surroundings connector sender stamp) (m, w)
    let x' := d.execute (Mailbox.surroundings connector sender stamp) (m', w')
    d.SameDelivery m m' x x' ∧
      x'.events.filterMap Event.operation? = x.events.filterMap Event.operation? := by
  intro x x'
  obtain ⟨E, hE⟩ : ∃ E, ∀ c ∈ connector, c.Steady (fun _ _ => True) E := by
    cases connector with
    | none => exact ⟨fun _ _ => True, fun c hmem => by cases hmem⟩
    | some c =>
      obtain ⟨E, hE⟩ := hc c rfl
      exact ⟨E, fun c' hmem => by cases hmem; exact hE⟩
  obtain ⟨hevents, -, hduplicate, hstate⟩ :=
    execute_together (surroundings_steady hE hsend d) (m, w) (m', w') h
  have hops := filterMap_of_alike operation?_of_alike hevents
  refine ⟨⟨?_, filterMap_of_alike append?_of_alike hevents, ?_, hduplicate, hstate⟩, hops⟩
  · refine ⟨(m.taken (x.events.filterMap Event.operation?)).map Filing.content, ?_, ?_⟩
    · exact (congrArg Mailbox.contents (world_execute connector sender stamp d m w)).trans
        (Mailbox.contents_run _ _)
    · refine (congrArg Mailbox.contents (world_execute connector sender stamp d m' w')).trans ?_
      rw [hops, Mailbox.contents_run, h.taken (execute_owns _ d (m, w))]
  · exact List.rel_filterMap (@fun _ _ h => post?_of_alike h) hevents

end Runs

/-- **Deliveries with different keys do not get in each other's way.**  Each of them files the same
copies, appends and sends the same messages and ends in the same way, whether it runs alone or after
the other one.  In either order they leave the same copies, and every filing that is made later,
whatever comes between, is answered alike. -/
theorem execute_independent {τ' : Type} (m : Mailbox) {d d' : Delivery} (hkeys : ¬ d.SharesKey d')
    (connector : Option (Connector ρ τ)) (hc : ∀ c ∈ connector, c.AnswersByRequest)
    (sender : Option (Sender ρ)) (stamp : ρ → Forward.Stamp × ρ)
    (hsend : ∀ send ∈ sender, send.AnswersByRequest stamp)
    (connector' : Option (Connector ρ τ')) (hc' : ∀ c ∈ connector', c.AnswersByRequest)
    (sender' : Option (Sender ρ)) (stamp' : ρ → Forward.Stamp × ρ)
    (hsend' : ∀ send ∈ sender', send.AnswersByRequest stamp') (w : ρ) :
    let s := Mailbox.surroundings connector sender stamp
    let s' := Mailbox.surroundings connector' sender' stamp'
    let x := d.execute s (m, w)
    let x' := d'.execute s' (m, w)
    let after' := d.execute s x'.world
    let after := d'.execute s' x.world
    d.SameDelivery m x'.world.1 x after' ∧ d'.SameDelivery m x.world.1 x' after ∧
      after.world.1.contents.Perm after'.world.1.contents ∧
      ∀ later f, ((after'.world.1.run later).addMessage f).1 =
        ((after.world.1.run later).addMessage f).1 := by
  intro s s' x x' after' after
  have hcopies := not_sameCopy hkeys
  have howns := execute_owns s d (m, w)
  have howns' := execute_owns s' d' (m, w)
  have hx : x.world.1 = m.run (x.events.filterMap Event.operation?) :=
    world_execute connector sender stamp d m w
  have hx' : x'.world.1 = m.run (x'.events.filterMap Event.operation?) :=
    world_execute connector' sender' stamp' d' m w
  -- each run leaves the mailbox in agreement with what it was on the copies of the other delivery
  have hagrees' : m.AgreesOn d'.Owns x.world.1 := hx ▸ howns.agreesOn hcopies m
  have hagrees : m.AgreesOn d.Owns x'.world.1 :=
    hx' ▸ howns'.agreesOn (fun f g hf hg hsame => hcopies g f hg hf hsame.symm) m
  obtain ⟨hsame, hops⟩ := sameDelivery_of_agreesOn hc hsend hagrees w x'.world.2
  obtain ⟨hsame', hops'⟩ := sameDelivery_of_agreesOn hc' hsend' hagrees' w x.world.2
  refine ⟨hsame, hsame', ?_⟩
  have hafter' : after'.world.1 = x'.world.1.run (x.events.filterMap Event.operation?) :=
    hops ▸ world_execute connector sender stamp d x'.world.1 x'.world.2
  have hafter : after.world.1 = x.world.1.run (x'.events.filterMap Event.operation?) :=
    hops' ▸ world_execute connector' sender' stamp' d' x.world.1 x.world.2
  rw [hafter, hafter', hx, hx']
  obtain ⟨hperm, hinterchangeable⟩ := Mailbox.run_exchange howns howns' hcopies m
  exact ⟨hperm, fun later f => ((hinterchangeable.run later).addMessage f).1⟩

/-- One message for two recipients: for one of them it goes along a mountpoint, is sent on and is
kept, for the other one it is marked and kept.  The other recipient gets the same copy, whether
the first one has been served or not. -/
theorem execute_independent_two_recipients :
    let m := (Mailbox.new "team".toList (some ⟨"secret".toList⟩)).apply
      (.createMountpoint "/Shared".toList "alice".toList 257)
    let shared : RemoteFolder := ⟨"257".toList, "Shared".toList, "/".toList⟩
    let connector : Connector Nat Unit :=
      ⟨fun _ _ n => (.ok (), n + 1), fun _ t n => (.ok (some shared), t, n + 1),
        fun _ _ t n => (.ok none, t, n + 1), fun _ _ _ t n => (.ok (), t, n + 1), fun _ n => n⟩
    let sender : Sender Nat := fun _ _ n => (.ok (), n + 1)
    let stamp : Nat → Forward.Stamp × Nat := fun n => (⟨Text.ofNat n, Text.ofNat n⟩, n + 1)
    let s := Mailbox.surroundings (some connector) (some sender) stamp
    let d := (start ⟨[10, 72, 105, 10], []⟩ "bob".toList (some 1) .none).setActions
      [.fileInto "/shared".toList, .redirect "dave@localhost".toList, .keep false]
    let d' := (start ⟨[10, 72, 105, 10], []⟩ "carol".toList (some 1) .none).setActions
      [.flag 5 true, .keep false]
    Message.ofOctets d.message.raw = .ok d.message ∧ d'.message = d.message ∧
      ¬ d.SharesKey d' ∧ connector.AnswersByRequest ∧ sender.AnswersByRequest stamp ∧
      d'.SameDelivery m (d.execute s (m, 0)).world.1 (d'.execute s (m, 0))
        (d'.execute s (d.execute s (m, 0)).world) := by
  intro m shared connector sender stamp s d d'
  have hkeys : ¬ d.SharesKey d' := by
    rintro ⟨-, hrecipient⟩
    revert hrecipient
    decide +kernel
  have hc : connector.AnswersByRequest := by
    refine ⟨fun _ _ => True, ?_⟩
    constructor
    case connect => exact fun _ _ _ _ _ => ⟨.opened trivial, trivial⟩
    case close => exact fun _ _ _ _ _ _ => trivial
    all_goals intros; exact ⟨rfl, trivial, trivial⟩
  have hsend : sender.AnswersByRequest stamp := fun _ _ _ _ _ _ _ => ⟨rfl, trivial⟩
  have hcs : ∀ c ∈ some connector, c.AnswersByRequest := fun c hmem => by cases hmem; exact hc
  have hsends : ∀ send ∈ some sender, send.AnswersByRequest stamp :=
    fun send hmem => by cases hmem; exact hsend
  have hindependent := execute_independent m hkeys (some connector) hcs (some sender) stamp
    hsends (some connector) hcs (some sender) stamp hsends 0
  -- with the surroundings folded, the runs need not be evaluated
  have hs : Mailbox.surroundings (some connector) (some sender) stamp = s := rfl
  rw [hs] at hindependent
  exact ⟨Message.ofOctets_of_blank _, rfl, hkeys, hc, hsend, hindependent.2.1⟩

end Delivery

end Postroom
