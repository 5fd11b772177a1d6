import Postroom.Proofs.Delivery.Filings

/-!
# Deliveries that are tried again

A delivery for a context may be tried again when it is not known whether it went through.  As long
as the folders stay what they are and the message leaves the mailbox by the same actions, the second
run files nothing: whatever it reaches before it ends, the first run had filed already.

The argument runs along both courses at once.  At each action both runs have the same destination,
so either the message leaves in both, or the second run asks for a copy that is known.
-/

namespace Postroom.Delivery

variable {σ σ' τ τ' : Type} {s : Surroundings σ τ} {s' : Surroundings σ' τ'} {d d' : Delivery}
  {known known₁ known' known₁' : Option Marks} {m m' : Mailbox}

/-- The first delivery does again what the second one did: the same message, verdict, context and
actions, and the same recipient up to case. -/
structure Retries (d' d : Delivery) : Prop where
  message : d'.message = d.message
  isSpam : d'.isSpam = d.isSpam
  context : d'.context = d.context
  actions : d'.actions = d.actions
  recipient : Unicode.lowercase d'.recipient = Unicode.lowercase d.recipient

/-- The entry of a log ends a run that files nothing new: its action keeps the message in the
mailbox, and is not one that was to send it on. -/
def Ends (entry : DeliveryAction × List Event) : Prop :=
  (∀ address, entry.1 ≠ .redirect address) ∧ ¬ Leaves entry.2

/-! ## Blocks -/

theorem Block.not_leaves_of_keep {implicit : Bool} {answer : Except StoreError Outcome}
    {es : List Event} (h : Block s d (.keep implicit) known answer es known') : ¬ Leaves es := by
  cases h with
  | kept _ h => exact h.not_leaves

/-- The effects by which a message leaves come from answers that took it. -/
theorem eq_of_effect? {e : Event} {x : Effect} (h : e.effect? = some x) :
    match x with
    | .remote folder flags raw => e = .appended folder flags raw (.ok ())
    | .mail email recipient => e = .sent email recipient (.ok ())
    | .copy _ _ | .duplicate _ => True := by
  match e with
  | .appended _ _ _ (.ok ()) | .sent _ _ (.ok ()) | .filed _ (.ok (some _)) | .filed _ (.ok none) =>
    cases h
    trivial
  | .filed _ (.error _) | .appended _ _ _ (.error _) | .sent _ _ (.error _) | .resolved .. |
    .marked _ | .token _ | .connected .. | .foundFolder .. | .foundSubfolder .. | .closed |
    .noticed _ => cases h

theorem exists_appended_of_remote {es : List Event} {folder : RemoteFolder}
    {flags : List TransportFlag} {raw : Octets}
    (h : .remote folder flags raw ∈ es.filterMap Event.effect?) :
    .appended folder flags raw (.ok ()) ∈ es := by
  obtain ⟨e, he, heffect⟩ := List.mem_filterMap.1 h
  exact eq_of_effect? heffect ▸ he

/-- When an action files the message along a path, it leaves exactly when another account has taken
it. -/
theorem Block.leaves_iff_of_fileInto {path : Text} {answer : Except StoreError Outcome}
    {es : List Event} (h : Block s d (.fileInto path) known answer es known') :
    Leaves es ↔ ∃ folder flags raw, .appended folder flags raw (.ok ()) ∈ es := by
  constructor
  · intro hleaves
    cases h with
    | unresolved => exact absurd hleaves (not_leaves_of_effects rfl)
    | remote path r h =>
      rcases h.effects with ⟨-, folder, flags, heffect⟩ | ⟨hne, -⟩
      · have hmem := exists_appended_of_remote (heffect ▸ List.mem_singleton_self _)
        exact ⟨folder, flags, _, List.mem_cons_of_mem _ hmem⟩
      · exact absurd rfl hne
    | filed path r h hf =>
      rw [leaves_cons rfl, leaves_append] at hleaves
      exact absurd hleaves (not_or.2 ⟨h.not_leaves, hf.not_leaves⟩)
  · rintro ⟨folder, flags, raw, hmem⟩
    exact ⟨.remote folder flags raw, List.mem_filterMap.2 ⟨_, hmem, rfl⟩, rfl⟩

/-- **One action, twice.**  A later run of the same action, on a mailbox that knows all that the
first one filed, leaves the mailbox as it is.  It is a duplicate unless the action sends the message
on or files it elsewhere, and when it is none, the first run was none either. -/
theorem Block.retry {a : DeliveryAction} {answer answer' : Except StoreError Outcome}
    {es es' : List Event} (h : Block s d a known answer es known₁)
    (h' : Block s' d' a known' answer' es' known₁') (hretries : d'.Retries d)
    (hcontext : d.context ≠ none) (hm : m.Rooted) (hfolders : m'.folders = m.folders)
    (hes : m.Answers es) (hes' : m'.Answers es') (hsame : Leaves es ↔ Leaves es')
    (hlater : ∀ f, (m.after es).Knows f → m'.Knows f) :
    m'.after es' = m' ∧
      (Ends (a, es') ∧ answer' = .ok .duplicate ∨
        ¬ Ends (a, es') ∧ answer' = .ok .elsewhere ∧ answer = .ok .elsewhere) := by
  have hm' : m'.Rooted := hm.congr hfolders
  rcases h'.leaves_or_files hm' hes' with
    ⟨hanswer', hleaves', hops'⟩ |
      ⟨f', copy', hops', hfolder', hrecipient', hcontext', hstays', hcopy', hanswer'⟩
  · refine ⟨Mailbox.after_of_no_operation hops',
      Or.inr ⟨fun hends => hends.2 hleaves', hanswer', ?_⟩⟩
    rcases h.leaves_or_files hm hes with ⟨hanswer, -, -⟩ | ⟨-, -, -, -, -, -, hstays, -, -⟩
    · exact hanswer
    · exact absurd (hsame.2 hleaves') hstays
  · rcases h.leaves_or_files hm hes with
      ⟨-, hleaves, -⟩ | ⟨f, copy, hops, hfolder, hrecipient, hfcontext, -, hcopy, hanswer⟩
    · exact absurd (hsame.1 hleaves) hstays'
    · -- both runs ask for a copy at this action, and it is the same one
      have hknows : (m.after es).Knows f := by
        rw [Mailbox.after, hops]
        exact Mailbox.knows_addMessage (hfolder ▸ takes_destination hm d a) (hfcontext ▸ hcontext)
      have hsamecopy : Mailbox.SameCopy f f' := by
        obtain ⟨context, hsome⟩ := Option.ne_none_iff_exists'.1 hcontext
        refine ⟨⟨context, hfcontext.trans hsome, ?_⟩, ?_, ?_⟩
        · rw [hcontext', hretries.context, hsome]
        · rw [hfolder, hfolder', destination_congr hfolders hretries.isSpam]
        · rw [hrecipient, hrecipient', hretries.recipient]
      have hadd : m'.addMessage f' = (.ok none, m') :=
        Mailbox.addMessage_of_knows (hfolder' ▸ takes_destination hm' d' a)
          ((hlater f hknows).of_sameCopy hsamecopy)
      obtain rfl : none = copy' := by simpa [hadd] using hcopy'
      have hafter : m'.after es' = m' := by
        rw [Mailbox.after, hops']
        exact congrArg Prod.snd hadd
      refine ⟨hafter, ?_⟩
      cases a with
      | keep implicit | fileInto path =>
        exact Or.inl ⟨⟨fun address h => DeliveryAction.noConfusion h, hstays'⟩, hanswer'⟩
      | redirect address =>
        exact Or.inr ⟨fun hends => hends.1 address rfl, hanswer', hanswer⟩

/-! ## Runs -/

/-- A later course of the same actions, on a mailbox that knows all that the first one filed, leaves
the mailbox as it is and ends at the first action that keeps the message there. -/
theorem Course.retry {todo : List DeliveryAction} {log log' : List (DeliveryAction × List Event)}
    {answer answer' : Except StoreError Bool} (h : Course s d known todo log answer)
    (h' : Course s' d' known' todo log' answer') (hretries : d'.Retries d)
    (hcontext : d.context ≠ none) (hm : m.Rooted) (hfolders : m'.folders = m.folders)
    (hes : m.Answers (eventsOf log)) (hes' : m'.Answers (eventsOf log'))
    (hsame : ∀ p ∈ log.zip log', (Leaves p.1.2 ↔ Leaves p.2.2))
    (hlater : ∀ f, (m.after (eventsOf log)).Knows f → m'.Knows f) :
    m'.after (eventsOf log') = m' ∧
      ∃ duplicate, answer' = .ok duplicate ∧ (duplicate = true ↔ ∃ entry ∈ log', Ends entry) := by
  induction todo generalizing known known' log log' m with
  | nil =>
    cases h'
    exact ⟨rfl, false, rfl, by simp⟩
  | cons a rest ih =>
    obtain ⟨es, later, known₁, first, rfl, hblock, hgo⟩ := h.cons_cases
    obtain ⟨es', later', known₁', first', rfl, hblock', hgo'⟩ := h'.cons_cases
    obtain ⟨hes, hrest⟩ := Mailbox.answers_append.1 hes
    obtain ⟨hes', hrest'⟩ := Mailbox.answers_append.1 hes'
    -- what the first action has filed is still known after the rest of the run
    have hknows : ∀ f, (m.after es).Knows f → m'.Knows f := by
      intro f hf
      refine hlater f ?_
      rw [eventsOf_cons, Mailbox.after_append]
      exact hf.run _
    obtain ⟨hafter, hends⟩ := hblock.retry hblock' hretries hcontext hm hfolders hes hes'
      (hsame ((a, es), (a, es')) (by simp)) hknows
    rw [eventsOf_cons, Mailbox.after_append, hafter]
    rw [hafter] at hrest'
    rcases hends with ⟨hends, rfl⟩ | ⟨hgoes, rfl, rfl⟩
    · -- the second run ends here, whatever the first one did
      rcases hgo' with ⟨e, he, -⟩ | ⟨-, rfl, rfl⟩ | ⟨outcome, houtcome, hne, -⟩
      · cases he
      · exact ⟨rfl, true, rfl, by simp [hends]⟩
      · cases houtcome
        exact absurd rfl hne
    · rcases hgo with ⟨e, he, -⟩ | ⟨he, -⟩ | ⟨-, -, -, hcourse⟩
      · cases he
      · cases he
      · rcases hgo' with ⟨e, he, -⟩ | ⟨he, -⟩ | ⟨-, -, -, hcourse'⟩
        · cases he
        · cases he
        · have hfolders₁ : m'.folders = (m.after es).folders :=
            hfolders.trans (Mailbox.folders_after m es).symm
          obtain ⟨hsame', duplicate, hanswer', hduplicate⟩ := ih hcourse hcourse'
            (hm.congr (Mailbox.folders_after m es)) hfolders₁ hrest hrest'
            (fun p hp => hsame p (List.mem_cons_of_mem _ hp))
            (fun f hf => hlater f (by rwa [eventsOf_cons, Mailbox.after_append]))
          refine ⟨hsame', duplicate, hanswer', ?_⟩
          rw [hduplicate]
          simp [hgoes]

/-- The delivery keeps the message when it has no delivery action, or one that keeps it. -/
theorem keep_mem_todo_iff :
    (∃ implicit, .keep implicit ∈ d.todo) ↔
      (Action.classify d.actions).delivery = [] ∨
        ∃ implicit, .keep implicit ∈ (Action.classify d.actions).delivery := by
  unfold todo steps
  cases (Action.classify d.actions).delivery with
  | nil => simp
  | cons a rest => simp

theorem todo_getElem?_fileInto_iff {i : ℕ} {path : Text} :
    d.todo[i]? = some (.fileInto path) ↔
      (Action.classify d.actions).delivery[i]? = some (.fileInto path) := by
  unfold todo steps
  cases (Action.classify d.actions).delivery with
  | nil => cases i <;> simp
  | cons a rest => simp

/-- When a course ends at the first action that keeps the message in the mailbox, the actions alone
tell whether it does, apart from what other accounts have taken. -/
theorem Course.ends_iff {log : List (DeliveryAction × List Event)} {duplicate : Bool}
    (h : Course s d known d.todo log (.ok duplicate))
    (hduplicate : duplicate = true ↔ ∃ entry ∈ log, Ends entry) :
    duplicate = true ↔
      (∃ implicit, .keep implicit ∈ d.todo) ∨
        ∃ (i : ℕ) (path : Text), d.todo[i]? = some (.fileInto path) ∧
          ∀ es : List Event, log[i]? = some (.fileInto path, es) →
            ∀ folder flags raw, .appended folder flags raw (.ok ()) ∉ es := by
  obtain ⟨left, htodo, hleft⟩ := h.left
  constructor
  · intro htrue
    obtain ⟨⟨a, es⟩, hmem, hredirect, hstays⟩ := hduplicate.1 htrue
    obtain ⟨i, hi⟩ := List.getElem?_of_mem hmem
    have hi' : d.todo[i]? = some a := by
      rw [htodo, List.getElem?_append_left (by simpa using (List.getElem?_eq_some_iff.1 hi).1)]
      simp [hi]
    match a with
    | .keep implicit => exact Or.inl ⟨implicit, List.mem_of_getElem? hi'⟩
    | .fileInto path =>
      refine Or.inr ⟨i, path, hi', ?_⟩
      intro es' hi'' folder flags raw happended
      obtain rfl : es = es' := by simpa [hi] using hi''
      obtain ⟨_, _, _, hblock⟩ := h.block hmem
      exact hstays (hblock.leaves_iff_of_fileInto.2 ⟨folder, flags, raw, happended⟩)
    | .redirect address => exact absurd rfl (hredirect address)
  · intro hkeeps
    by_contra hfalse
    -- all actions are carried out, and none of them ended the run
    obtain rfl : left = [] := by
      by_contra hne
      exact hfalse (hleft hne)
    rw [List.append_nil] at htodo
    refine mt hduplicate.2 hfalse ?_
    rcases hkeeps with ⟨implicit, hkeep⟩ | ⟨i, path, hi, hnone⟩
    · rw [htodo] at hkeep
      obtain ⟨⟨_, es⟩, hmem, rfl⟩ := List.mem_map.1 hkeep
      obtain ⟨_, _, _, hblock⟩ := h.block hmem
      exact ⟨_, hmem, fun address h => DeliveryAction.noConfusion h, hblock.not_leaves_of_keep⟩
    · rw [htodo, List.getElem?_map] at hi
      obtain ⟨⟨_, es⟩, hi, rfl⟩ := Option.map_eq_some_iff.1 hi
      have hmem := List.mem_of_getElem? hi
      obtain ⟨_, _, _, hblock⟩ := h.block hmem
      refine ⟨_, hmem, fun address h => DeliveryAction.noConfusion h, fun hleaves => ?_⟩
      obtain ⟨folder, flags, raw, happended⟩ := hblock.leaves_iff_of_fileInto.1 hleaves
      exact hnone es hi folder flags raw happended

/-- **A delivery that is tried again files nothing.**  A run for a context has left a mailbox, other
deliveries have changed it since without creating folders, and the delivery is repeated, maybe in
other surroundings.  If the message leaves the mailbox at an action of the second run exactly when
it did so at that action of the first one, then the second run leaves the mailbox as it is and does
not fail.  It is a duplicate exactly when there is no delivery action, or one that keeps the
message, or one that files it along a path and does not end with another account taking it. -/
theorem execute_retry {ρ ρ' : Type} {m m₁ m₂ : Mailbox} (hm : m.Reachable) {d d' : Delivery}
    (hactions : d.actions ≠ []) (hcontext : d.context ≠ none) (hretries : d'.Retries d)
    (connector : Option (Connector ρ τ)) (sender : Option (Sender ρ))
    (stamp : ρ → Forward.Stamp × ρ) (w : ρ) (between : List Mailbox.Operation)
    (connector' : Option (Connector ρ' τ')) (sender' : Option (Sender ρ'))
    (stamp' : ρ' → Forward.Stamp × ρ') (w' : ρ')
    (hfirst : (d.execute (Mailbox.surroundings connector sender stamp) (m, w)).world.1 = m₁)
    (hbetween : m₁.run between = m₂) (hfolders : m₂.folders = m₁.folders)
    (hsame : ∀ p ∈ (d.log (Mailbox.surroundings connector sender stamp) (m, w)).zip
      (d'.log (Mailbox.surroundings connector' sender' stamp') (m₂, w')),
      (Leaves p.1.2 ↔ Leaves p.2.2)) :
    let second := d'.execute (Mailbox.surroundings connector' sender' stamp') (m₂, w')
    second.world.1 = m₂ ∧ second.result = .ok d'.processed ∧
      (second.delivery.isDuplicate = true ↔
        (Action.classify d.actions).delivery = [] ∨
        (∃ implicit, .keep implicit ∈ (Action.classify d.actions).delivery) ∨
        ∃ (i : ℕ) (path : Text), (Action.classify d.actions).delivery[i]? = some (.fileInto path) ∧
          ∀ es : List Event,
            (d'.log (Mailbox.surroundings connector' sender' stamp') (m₂, w'))[i]? =
              some (.fileInto path, es) →
            ∀ folder flags raw, .appended folder flags raw (.ok ()) ∉ es) := by
  intro second
  have hactions' : d'.actions ≠ [] := hretries.actions ▸ hactions
  obtain ⟨answer, hcourse, -, ⟨hanswers, hworld⟩, -⟩ :=
    execute_course (Mailbox.surroundings_follows connector sender stamp) d (m, w) hactions
  obtain ⟨answer', hcourse', -, ⟨hanswers', hworld'⟩, hresult, hflag⟩ :=
    execute_course (Mailbox.surroundings_follows connector' sender' stamp') d' (m₂, w') hactions'
  have htodo : d'.todo = d.todo := by rw [todo, hretries.actions, todo]
  rw [hfirst] at hworld
  have hfolders₁ : m₁.folders = m.folders := by
    rw [hworld]
    exact Mailbox.folders_after _ _
  obtain ⟨hafter, duplicate, rfl, hends⟩ := hcourse.retry (htodo ▸ hcourse') hretries hcontext
    hm.rooted (hfolders.trans hfolders₁) hanswers hanswers' hsame
    (fun f hf => hbetween ▸ (hworld ▸ hf : m₁.Knows f).run between)
  refine ⟨hworld'.trans hafter, ?_, ?_⟩
  · show (d'.execute _ (m₂, w')).result = .ok d'.processed
    rw [hresult, hanswers'.copies_eq_nil hafter, List.append_nil]
    rfl
  · have hduplicate : second.delivery.isDuplicate = true ↔ duplicate = true := by
      simpa using hflag
    rw [hduplicate, hcourse'.ends_iff hends, keep_mem_todo_iff]
    simp only [todo_getElem?_fileInto_iff, hretries.actions, or_assoc]

/-- A message goes along a mountpoint, cannot be sent on and is kept.  When that is done again for a
recipient in capital letters, the other account gets a second copy, and the mailbox none. -/
theorem execute_retry_respelled :
    let m := (Mailbox.new "bob".toList (some ⟨"secret".toList⟩)).apply
      (.createMountpoint "/Shared".toList "alice".toList 257)
    let shared : RemoteFolder := ⟨"257".toList, "Shared".toList, "/".toList⟩
    let connector : Connector Unit Unit :=
      ⟨fun _ _ w => (.ok (), w), fun _ t w => (.ok (some shared), t, w),
        fun _ _ t w => (.ok none, t, w), fun _ _ _ t w => (.ok (), t, w), fun _ w => w⟩
    let s := Mailbox.surroundings (some connector) none fun w => (⟨[], []⟩, w)
    let actions : List Action :=
      [.fileInto "/shared".toList, .redirect "carol@localhost".toList, .keep false]
    let d := (start ⟨[10, 72, 105, 10], []⟩ "bob".toList (some 1) .none).setActions actions
    let d' := (start ⟨[10, 72, 105, 10], []⟩ "BOB".toList (some 1) .none).setActions actions
    let m₁ := (d.execute s (m, ())).world.1
    let m₂ := m₁.run [.createTag "work".toList]
    Message.ofOctets d.message.raw = .ok d.message ∧ m.Reachable ∧ d.actions ≠ [] ∧
      d.context ≠ none ∧ d'.Retries d ∧ m₂.folders = m₁.folders ∧
      (∀ p ∈ (d.log s (m, ())).zip (d'.log s (m₂, ())), (Leaves p.1.2 ↔ Leaves p.2.2)) ∧
      (d'.execute s (m₂, ())).world.1 = m₂ := by
  intro m shared connector s actions d d' m₁ m₂
  have hreachable : m.Reachable := .apply (.new _ _) _ (by decide +kernel)
  have hactions : d.actions ≠ [] := List.cons_ne_nil _ _
  have hcontext : d.context ≠ none := Option.some_ne_none _
  have hretries : d'.Retries d := ⟨rfl, rfl, rfl, rfl, by decide +kernel⟩
  have hfolders : m₂.folders = m₁.folders := by decide +kernel
  have hsame : ∀ p ∈ (d.log s (m, ())).zip (d'.log s (m₂, ())), (Leaves p.1.2 ↔ Leaves p.2.2) := by
    decide +kernel
  have hretry := @execute_retry _ _ _ _ m m₁ m₂ hreachable d d' hactions hcontext hretries
    (some connector) none (fun w => (⟨[], []⟩, w)) () [.createTag "work".toList]
    (some connector) none (fun w => (⟨[], []⟩, w)) ()
  -- with the surroundings folded, the runs need not be evaluated
  have hs : Mailbox.surroundings (some connector) none (fun w => (⟨[], []⟩, w)) = s := rfl
  rw [hs] at hretry
  obtain ⟨hworld, -, -⟩ := hretry rfl rfl hfolders hsame
  exact ⟨Message.ofOctets_of_blank _, hreachable, hactions, hcontext, hretries, hfolders, hsame,
    hworld⟩

end Postroom.Delivery
