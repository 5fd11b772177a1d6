import Postroom.Proofs.Delivery.Routing
import Postroom.Proofs.Delivery.Uniformity
import Postroom.Proofs.Filter.ResolvedMarks

/-!
# Warnings of a run

A message that does not get where an action sends it is returned to the inbox, and the run warns
about it; it also warns about marks that the mailbox does not have, wherever these are asked for.
`Warns` reads the events of a run with the second kind left out, and is put together along the forms
of events like the relations before it.

* `Delivery.Returned` — the message is in the inbox in place of where the action sends it;
* `Delivery.Detour` — why, with what there is to tell of it;
* `Delivery.markWarnings` — the warnings about marks.
-/

namespace Postroom

variable {ρ σ τ : Type}

namespace Event

/-- The warning that an event is. -/
def warning? : Event → Option Notice
  | noticed n => if n.severity = .warning then some n else none
  | _ => none

/-- The event asks somebody to take the message in: the mailbox, or another account. -/
def isAttempt : Event → Bool
  | filed .. | appended .. => true
  | _ => false

end Event

theorem Forward.severity_of_mem_prepare {stamp : Stamp} {message : Message} {n : Notice}
    (h : n ∈ (prepare stamp message).2) : n.severity = .info := by
  unfold prepare at h
  split at h
  · cases h
  · rw [List.mem_singleton.1 h]
    rfl

/-! ## The answers of a mailbox about marks -/

namespace MarkAnswer

/-- The answer of a mailbox to an action that marks the message. -/
def ofMailbox (m : Mailbox) : MarkAction → MarkAnswer
  | .flag id set => .flag id set (m.flagById id)
  | .tag name => .tag name (m.tagByName name)

theorem severity_of_warning? {answer : MarkAnswer} {recipient : Text} {n : Notice}
    (h : answer.warning? recipient = some n) : n.severity = .warning := by
  match answer, h with
  | .flag _ _ (.error _), rfl | .tag _ (.error _), rfl => rfl

end MarkAnswer

theorem Mailbox.SameSetup.ofMailbox {m m' : Mailbox} (h : m.SameSetup m') (a : MarkAction) :
    MarkAnswer.ofMailbox m' a = .ofMailbox m a := by
  cases a with
  | flag id set => simp only [MarkAnswer.ofMailbox, h.flagById]
  | tag name => simp only [MarkAnswer.ofMailbox, h.tagByName]

/-- The answers about marks are those of the mailbox, and its setup stays what it is. -/
theorem Mailbox.surroundings_marks (connector : Option (Connector ρ τ))
    (sender : Option (Sender ρ)) (stamp : ρ → Forward.Stamp × ρ) :
    (surroundings connector sender stamp).Follows fun w es w' => w.1.SameSetup w'.1 ∧
      ∀ answer, .marked answer ∈ es → answer = .ofMailbox w.1 answer.action := by
  constructor
  case trans =>
    rintro w w' w'' es es' ⟨hsetup, hes⟩ ⟨hsetup', hes'⟩
    refine ⟨hsetup.trans hsetup', fun answer hmem => ?_⟩
    rcases List.mem_append.1 hmem with hmem | hmem
    · exact hes answer hmem
    · exact (hes' answer hmem).trans (hsetup.ofMailbox answer.action)
  case refl | stamped => exact fun _ => ⟨.refl _, by simp⟩
  case noticed => exact fun _ _ => ⟨.refl _, by simp⟩
  case token => exact fun _ => ⟨.refl _, by simp⟩
  case resolved => exact fun _ _ _ => ⟨.refl _, by simp⟩
  case filed => exact fun f w => ⟨sameSetup_addMessage w.1 f, by simp⟩
  case markedFlag =>
    intro id set w
    refine ⟨.refl _, fun answer hmem => ?_⟩
    cases List.mem_singleton.1 hmem
    rfl
  case markedTag =>
    intro name w
    refine ⟨.refl _, fun answer hmem => ?_⟩
    cases List.mem_singleton.1 hmem
    rfl
  case connected | foundFolder | foundSubfolder | appended | closed =>
    intro c hc
    obtain ⟨c, -, rfl⟩ := Option.map_eq_some_iff.1 hc
    intros
    exact ⟨.refl _, by simp⟩
  case sent =>
    intro send hsend
    obtain ⟨send, -, rfl⟩ := Option.map_eq_some_iff.1 hsend
    intros
    exact ⟨.refl _, by simp⟩

/-- Answers of the mailbox about all actions that mark the message are those that it gives when it
is asked about them at once. -/
theorem Mailbox.answers_eq_ask (m : Mailbox) {actions : List MarkAction}
    {answers : List MarkAnswer}
    (hasked : answers.map MarkAnswer.action = MarkAction.asked actions)
    (hof : ∀ answer ∈ answers, answer = .ofMailbox m answer.action) :
    answers = (Marks.ask Mailbox.store actions m).1 := by
  have hback : ∀ answers : List MarkAnswer,
      (∀ answer ∈ answers, answer = .ofMailbox m answer.action) →
      (answers.map MarkAnswer.action).map (.ofMailbox m) = answers := by
    intro answers hof
    rw [List.map_map]
    exact (List.map_congr_left fun answer h => (hof answer h).symm).trans (List.map_id' answers)
  have hask : ∀ answer ∈ (Marks.ask Mailbox.store actions m).1,
      answer = .ofMailbox m answer.action := by
    rw [Marks.ask_store]
    intro answer hmem
    rcases List.mem_append.1 hmem with hmem | hmem <;>
    · obtain ⟨_, -, rfl⟩ := List.mem_map.1 hmem
      rfl
  rw [← hback answers hof, hasked, ← hback _ hask, Delivery.map_action_ask]

namespace Delivery

/-! ## What there is to warn about -/

/-- Why there is no folder in another account, with what there is to tell of it. -/
inductive Missing (item : ItemId) (rest : Option Text) (es : List Event) : Notice → Prop
  | folder (h : .foundFolder item (.ok none) ∈ es) :
      Missing item rest es (.warning ("cannot find remote folder ".toList ++ item.render
        ++ " of mountpoint, filing to Inbox instead".toList))
  | subfolder {parent : RemoteFolder} {path : Text} (hrest : rest = some path)
      (h : .foundSubfolder parent path (.ok none) ∈ es) :
      Missing item rest es (.warning ("subfolder ".toList ++ path ++ " of mountpoint ".toList
        ++ item.render ++ " does not exist, filing to Inbox instead".toList))

/-- Why nothing can be filed in another account. -/
inductive Refused (s : Surroundings σ τ) (m : Mountpoint) (es : List Event) : RemoteError → Prop
  | connector (h : s.connector = none) : Refused s m es (.connectorMissing m.owner)
  | token {e : StoreError} (h : .token (.error e) ∈ es) : Refused s m es (.store e)
  | connection {t : AuthToken} {e : RemoteError} (h : .connected t m.owner (.error e) ∈ es) :
      Refused s m es e
  | folder {e : RemoteError} (h : .foundFolder m.item (.error e) ∈ es) : Refused s m es e
  | subfolder {parent : RemoteFolder} {path : Text} {e : RemoteError}
      (h : .foundSubfolder parent path (.error e) ∈ es) : Refused s m es e
  | append {folder : RemoteFolder} {flags : List TransportFlag} {raw : Octets} {e : RemoteError}
      (h : .appended folder flags raw (.error e) ∈ es) : Refused s m es e

/-- Why a message is not sent on. -/
inductive Unsent (s : Surroundings σ τ) (address : Text) (es : List Event) : SendError → Prop
  | unreadable {e : Recipient.RecipientError} (h : Recipient.parse address = .error e) :
      Unsent s address es (.recipient e)
  | senderless {recipient : Text} (h : Recipient.parse address = .ok recipient)
      (hs : s.sender = none) : Unsent s address es (.senderMissing recipient)
  | refused {email : Octets} {recipient : Text} {e : SendError}
      (h : Recipient.parse address = .ok recipient) (hsent : .sent email recipient (.error e) ∈ es) :
      Unsent s address es e

/-- Why an action has returned the message to the inbox, with what there is to tell of it. -/
inductive Detour (s : Surroundings σ τ) (m : Mailbox) : DeliveryAction × List Event → Notice → Prop
  | partway {path : Text} {es : List Event} {r : Resolution} (hr : m.resolve .root path = .ok r)
      (hm : r.folder.mountpoint? = none) (h : r.isPartial = true) :
      Detour s m (.fileInto path, es) (.warning ("cannot find folder ".toList ++ path
        ++ ", filing to Inbox instead".toList))
  | root {path : Text} {es : List Event} {r : Resolution} (hr : m.resolve .root path = .ok r)
      (hm : r.folder.mountpoint? = none) (h : r.isPartial = false) (hroot : r.folder.id = .root) :
      Detour s m (.fileInto path, es) (.warning ("cannot file to the mailbox root ".toList
        ++ Text.quoted path ++ ", filing to Inbox instead".toList))
  | missing {path : Text} {es : List Event} {r : Resolution} {mountpoint : Mountpoint} {n : Notice}
      (hr : m.resolve .root path = .ok r) (hm : r.folder.mountpoint? = some mountpoint)
      (h : Missing mountpoint.item r.remaining es n) : Detour s m (.fileInto path, es) n
  | refused {path : Text} {es : List Event} {r : Resolution} {mountpoint : Mountpoint}
      {e : RemoteError} (hr : m.resolve .root path = .ok r)
      (hm : r.folder.mountpoint? = some mountpoint) (h : Refused s mountpoint es e) :
      Detour s m (.fileInto path, es) (.warning ("cannot file to ".toList ++ path
        ++ ", filing to Inbox instead: ".toList ++ e.message))
  | unsent {address : Text} {es : List Event} {e : SendError} (h : Unsent s address es e) :
      Detour s m (.redirect address, es) (.warning ("redirect to ".toList ++ address
        ++ " failed, saving message to Inbox: ".toList ++ e.message))

/-- The message is in the inbox in place of where the action sends it: no folder of the mailbox has
the path and no other account has taken the message, or nobody has taken it to send it on. -/
def Returned (m : Mailbox) : DeliveryAction × List Event → Prop
  | (.keep _, _) => False
  | (.fileInto path, es) => (∀ f, ¬ m.IsTarget path f) ∧ ¬ FilesRemotely es
  | (.redirect _, es) => ¬ SendsOn es

/-- An action has one warning, which says why, when it has returned the message, and none
otherwise. -/
def Warned (s : Surroundings σ τ) (m : Mailbox) (entry : DeliveryAction × List Event)
    (ns : List Notice) : Prop :=
  (Returned m entry ∧ ∃ n, ns = [n] ∧ Detour s m entry n) ∨ (¬ Returned m entry ∧ ns = [])

/-- The warnings about marks that the mailbox does not have: one for each action on such a flag, and
then one for each on such a tag. -/
def markWarnings (d : Delivery) (m : Mailbox) : List Notice :=
  (((d.markActions.filterMap MarkAction.setting?).map (·.1)).filter (· ∉ Flag.numbers)).map
      Marks.flagWarning ++
    ((d.markActions.filterMap MarkAction.tagName?).filter (!m.hasTag ·)).map
      (Marks.tagWarning d.recipient)

/-! ## The warnings of events -/

/-- The events have these warnings, apart from those about marks, which come right behind the answer
that they are about.  Somebody is asked to take the message in behind each answer about marks. -/
inductive Warns (d : Delivery) : List Event → List Notice → Prop
  | nil : Warns d [] []
  | told {n : Notice} {es : List Event} {ns : List Notice} (hn : n.severity = .warning)
      (h : Warns d es ns) : Warns d (.noticed n :: es) (n :: ns)
  | silent {e : Event} {es : List Event} {ns : List Notice} (hwarning : e.warning? = none)
      (hanswer : e.answer? = none) (h : Warns d es ns) : Warns d (e :: es) ns
  | marked {es : List Event} {ns : List Notice} (answer : MarkAnswer)
      (hattempt : ∃ e ∈ es, e.isAttempt = true) (h : Warns d es ns) :
      Warns d (.marked answer :: ((answer.warning? d.recipient).toList.map .noticed ++ es)) ns

variable {s : Surroundings σ τ} {d : Delivery} {known known' : Option Marks} {m : Mailbox}
  {es es' rest : List Event} {ns ns' : List Notice}

theorem Warns.append (h : Warns d es ns) (h' : Warns d es' ns') :
    Warns d (es ++ es') (ns ++ ns') := by
  induction h with
  | nil => exact h'
  | told hn _ ih => exact .told hn ih
  | silent hwarning hanswer _ ih => exact .silent hwarning hanswer ih
  | marked answer hattempt _ ih =>
    rw [List.cons_append, List.append_assoc]
    obtain ⟨e, he, hattempt⟩ := hattempt
    exact .marked answer ⟨e, List.mem_append_left _ he, hattempt⟩ ih

theorem Warns.notices {notices : List Notice} (hnotices : ∀ n ∈ notices, n.severity = .info)
    (h : Warns d es ns) : Warns d (notices.map .noticed ++ es) ns := by
  induction notices with
  | nil => exact h
  | cons n notices ih =>
    obtain ⟨hn, hrest⟩ := List.forall_mem_cons.1 hnotices
    exact .silent (by simp [Event.warning?, hn]) rfl (ih hrest)

theorem Marking.warns {marks : Marks} (h : Marking d known marks es)
    (hattempt : ∃ e ∈ rest, e.isAttempt = true) (hrest : Warns d rest ns) :
    Warns d (es ++ rest) ns := by
  cases h with
  | known => exact hrest
  | asked answers hasked =>
    clear hasked
    induction answers with
    | nil => exact hrest
    | cons answer answers ih =>
      rw [List.flatMap_cons, List.append_assoc]
      obtain ⟨e, he, hattempt⟩ := hattempt
      exact .marked answer ⟨e, List.mem_append_right _ he, hattempt⟩ ih

theorem Filed.warns {folder : FolderId} {answer : Except StoreError Outcome}
    (h : Filed d folder known answer es known') : Warns d es [] := by
  cases h with
  | intro answer h => exact h.warns ⟨_, List.mem_singleton_self _, rfl⟩ (.silent rfl rfl .nil)

/-! ## Reasons in more events -/

theorem Missing.mono {item : ItemId} {path : Option Text} {n : Notice} (hes : es ⊆ es')
    (h : Missing item path es n) : Missing item path es' n := by
  cases h with
  | folder h => exact .folder (hes h)
  | subfolder hrest h => exact .subfolder hrest (hes h)

theorem Refused.mono {mountpoint : Mountpoint} {e : RemoteError} (hes : es ⊆ es')
    (h : Refused s mountpoint es e) : Refused s mountpoint es' e := by
  cases h with
  | connector h => exact .connector h
  | token h => exact .token (hes h)
  | connection h => exact .connection (hes h)
  | folder h => exact .folder (hes h)
  | subfolder h => exact .subfolder (hes h)
  | append h => exact .append (hes h)

theorem Unsent.mono {address : Text} {e : SendError} (hes : es ⊆ es')
    (h : Unsent s address es e) : Unsent s address es' e := by
  cases h with
  | unreadable h => exact .unreadable h
  | senderless h hs => exact .senderless h hs
  | refused h hsent => exact .refused h (hes hsent)

theorem Detour.mono {a : DeliveryAction} {n : Notice} (hes : es ⊆ es')
    (h : Detour s m (a, es) n) : Detour s m (a, es') n := by
  cases h with
  | partway hr hm h => exact .partway hr hm h
  | root hr hm h hroot => exact .root hr hm h hroot
  | missing hr hm h => exact .missing hr hm (h.mono hes)
  | refused hr hm h => exact .refused hr hm (h.mono hes)
  | unsent h => exact .unsent (h.mono hes)

/-! ## Other accounts -/

/-- What the answer about another account has to do with the warnings so far: there is one when no
folder was found, and a refusal, which is told later, has a reason. -/
def Told (s : Surroundings σ τ) (mountpoint : Mountpoint) (path : Option Text) (es : List Event)
    (ns : List Notice) : Except RemoteError Bool → Prop
  | .ok true => ns = []
  | .ok false => ∃ n, ns = [n] ∧ Missing mountpoint.item path es n
  | .error e => ns = [] ∧ Refused s mountpoint es e

variable {mountpoint : Mountpoint} {path : Option Text} {answer : Except RemoteError Bool}

theorem Told.mono (hes : es ⊆ es') (h : Told s mountpoint path es ns answer) :
    Told s mountpoint path es' ns answer := by
  match answer, h with
  | .ok true, h => exact h
  | .ok false, ⟨n, hn, hmissing⟩ => exact ⟨n, hn, hmissing.mono hes⟩
  | .error e, ⟨hn, hrefused⟩ => exact ⟨hn, hrefused.mono hes⟩

/-- Looking for a folder warns when there is none. -/
theorem Lookup.warns (s : Surroundings σ τ) (d : Delivery)
    {answer : Except RemoteError (Option RemoteFolder)}
    (h : Lookup mountpoint.item path answer es) :
    ∃ ns, Warns d es ns ∧ Told s mountpoint path es ns (answer.map Option.isSome) := by
  cases h with
  | failed path e => exact ⟨[], .silent rfl rfl .nil, rfl, .folder List.mem_cons_self⟩
  | missing =>
    exact ⟨_, .silent rfl rfl (.told rfl .nil), _, rfl, .folder List.mem_cons_self⟩
  | found folder => exact ⟨[], .silent rfl rfl .nil, rfl⟩
  | below parent path answer hanswer =>
    refine ⟨[], .silent rfl rfl (.silent rfl rfl .nil), ?_⟩
    match answer, hanswer with
    | .ok (some folder), _ => rfl
    | .error e, _ => exact ⟨rfl, .subfolder (List.mem_cons_of_mem _ List.mem_cons_self)⟩
  | belowMissing parent path =>
    exact ⟨_, .silent rfl rfl (.silent rfl rfl (.told rfl .nil)), _, rfl,
      .subfolder rfl (List.mem_cons_of_mem _ List.mem_cons_self)⟩

theorem Visit.warns (s : Surroundings σ τ) (h : Visit d mountpoint.item path known answer es known') :
    ∃ ns, Warns d es ns ∧ Told s mountpoint path es ns answer := by
  cases h with
  | lost h | nowhere h => exact h.warns s d
  | appended answer h hm =>
    obtain ⟨ns, hes, rfl⟩ := h.warns s d
    refine ⟨[] ++ [], hes.append ?_, ?_⟩
    · exact hm.warns ⟨_, List.mem_singleton_self _, rfl⟩ (.silent rfl rfl .nil)
    · match answer with
      | .ok () => rfl
      | .error e =>
        exact ⟨rfl, .append (List.mem_append_right _ (List.mem_append_right _ List.mem_cons_self))⟩

theorem Trip.warns (h : Trip s d mountpoint path known answer es known') :
    ∃ ns, Warns d es ns ∧ Told s mountpoint path es ns answer := by
  cases h with
  | unconnected h => exact ⟨[], .nil, rfl, .connector h⟩
  | tokenless e => exact ⟨[], .silent rfl rfl .nil, rfl, .token List.mem_cons_self⟩
  | refused t e =>
    exact ⟨[], .silent rfl rfl (.silent rfl rfl .nil), rfl,
      .connection (List.mem_cons_of_mem _ List.mem_cons_self)⟩
  | visited t h =>
    obtain ⟨ns, hes, htold⟩ := h.warns s
    refine ⟨ns ++ [], .silent rfl rfl (.silent rfl rfl (hes.append (.silent rfl rfl .nil))), ?_⟩
    rw [List.append_nil]
    exact htold.mono fun e he => by simp [he]

/-! ## Actions -/

/-- On the way to another account that takes the message there is no warning. -/
theorem Placed.warns_of_remote {path : Text} {r : Resolution}
    (h : Placed s d path r known .remote es known') : Warns d es [] := by
  cases h with
  | remote hm h =>
    obtain ⟨ns, hes, rfl⟩ := h.warns
    exact hes

/-- A path leads to a folder of the mailbox that has it, without a warning, or there is one warning
and no such folder. -/
theorem Placed.warns_of_folder {path : Text} {r : Resolution} {folder : FolderId}
    (h : Placed s d path r known (.folder folder) es known') (hm : m.Reachable)
    (hr : m.resolve .root path = .ok r) :
    (m.IsTarget path r.folder ∧ Warns d es []) ∨
      (∀ f, ¬ m.IsTarget path f) ∧ ∃ n, Warns d es [n] ∧ Detour s m (.fileInto path, es) n := by
  -- a folder that has the path is where the path leads, all the way
  have htarget : ∀ f, m.IsTarget path f → r.folder.mountpoint? = none ∧ r.isPartial = false ∧
      r.folder.id ≠ .root := by
    rintro f ⟨hmem, hpath, hmount, hroot⟩
    obtain rfl : r = .partway f [] :=
      Except.ok.inj (hr.symm.trans (hm.resolve_of_mem hmem hpath))
    exact ⟨by simpa [Folder.isMountpoint, Resolution.partway] using hmount, rfl, hroot⟩
  cases h with
  | absent hm h =>
    obtain ⟨ns, hes, n, rfl, hmissing⟩ := h.warns
    refine Or.inr ⟨fun f hf => ?_, n, hes, .missing hr hm hmissing⟩
    rw [(htarget f hf).1] at hm
    cases hm
  | failed hm h =>
    obtain ⟨ns, hes, rfl, hrefused⟩ := h.warns
    refine Or.inr ⟨fun f hf => ?_, _, hes.append (.told rfl .nil),
      .refused hr hm (hrefused.mono (List.subset_append_left ..))⟩
    rw [(htarget f hf).1] at hm
    cases hm
  | partway hm h =>
    refine Or.inr ⟨fun f hf => ?_, _, .told rfl .nil, .partway hr hm h⟩
    rw [(htarget f hf).2.1] at h
    cases h
  | root hm h hroot =>
    exact Or.inr ⟨fun f hf => (htarget f hf).2.2 hroot, _, .told rfl .nil, .root hr hm h hroot⟩
  | own hmount h hroot =>
    have hown : r.folder.isMountpoint = false := by simp [Folder.isMountpoint, hmount]
    exact Or.inl ⟨hm.rooted.isTarget_of_resolve hr h hown hroot, .nil⟩

theorem Posting.warns {address : Text} {answer : Except SendError Unit}
    (h : Posting s d address answer es) : Warns d es [] := by
  cases h with
  | unreadable | senderless => exact .nil
  | sent recipient stamp answer h =>
    exact .notices (fun n hn => Forward.severity_of_mem_prepare hn) (.silent rfl rfl .nil)

theorem Posting.unsent {address : Text} {e : SendError}
    (h : Posting s d address (.error e) es) : Unsent s address es e := by
  cases h with
  | unreadable e h => exact .unreadable h
  | senderless recipient h hs => exact .senderless h hs
  | sent recipient stamp answer h =>
    exact .refused h (List.mem_append_right _ List.mem_cons_self)

/-- **An action warns once when it returns the message, and not otherwise.** -/
theorem Block.warns {a : DeliveryAction} {answer : Except StoreError Outcome}
    (h : Block s d a known answer es known') (hm : m.Reachable) (hes : m.Answers es) :
    ∃ ns, Warns d es ns ∧ Warned s m (a, es) ns := by
  have hblock := h
  cases h with
  | kept implicit h => exact ⟨[], h.warns, Or.inr ⟨id, rfl⟩⟩
  | unresolved path e =>
    -- the mailbox resolves every path
    obtain ⟨r, hr, -⟩ := hm.rooted.resolve_root path
    cases hes.1.trans hr
  | remote path r h =>
    have hremote := hblock.leaves_iff_of_fileInto.1 ((leaves_cons rfl).2 h.leaves)
    exact ⟨[], .silent rfl rfl h.warns_of_remote, Or.inr ⟨fun hreturned => hreturned.2 hremote, rfl⟩⟩
  | @filed _ _ _ _ _ es es' path r h hf =>
    have hstays : ¬ Leaves (.resolved .root path (.ok r) :: (es ++ es')) := by
      rw [leaves_cons rfl, leaves_append]
      exact not_or.2 ⟨h.not_leaves, hf.not_leaves⟩
    rcases h.warns_of_folder hm hes.1.symm with ⟨htarget, hwarns⟩ | ⟨hnone, n, hwarns, hdetour⟩
    · exact ⟨[], .silent rfl rfl (hwarns.append hf.warns),
        Or.inr ⟨fun hreturned => hreturned.1 _ htarget, rfl⟩⟩
    · have hreturned : Returned m (.fileInto path, .resolved .root path (.ok r) :: (es ++ es')) :=
        ⟨hnone, mt hblock.leaves_iff_of_fileInto.2 hstays⟩
      exact ⟨[n], .silent rfl rfl (hwarns.append hf.warns), Or.inl ⟨hreturned, n, rfl,
        hdetour.mono fun e he => List.mem_cons_of_mem _ (List.mem_append_left _ he)⟩⟩
  | sent address h =>
    have hsent := hblock.leaves_iff_of_redirect.1 ((leaves_cons rfl).2 h.leaves)
    exact ⟨[], .silent rfl rfl h.warns, Or.inr ⟨fun hreturned => hreturned hsent, rfl⟩⟩
  | @returned _ _ _ e es es' address h hf =>
    refine ⟨[_], .silent rfl rfl (h.warns.append (.told rfl hf.warns)), Or.inl ⟨?_, _, rfl, ?_⟩⟩
    · refine mt hblock.leaves_iff_of_redirect.2 ?_
      rw [leaves_cons rfl, leaves_append, leaves_cons rfl]
      exact not_or.2 ⟨h.not_leaves, hf.not_leaves⟩
    · exact .unsent (h.unsent.mono fun e he =>
        List.mem_cons_of_mem _ (List.mem_append_left _ he))

/-! ## Runs -/

theorem warned_congr {m' : Mailbox} (h : m'.folders = m.folders)
    (entry : DeliveryAction × List Event) : Warned s m' entry ns ↔ Warned s m entry ns := by
  have hreturned : Returned m' entry ↔ Returned m entry := by
    unfold Returned
    simp only [Mailbox.IsTarget, h]
  have hdetour : ∀ {m m' : Mailbox}, m'.folders = m.folders → ∀ {n},
      Detour s m entry n → Detour s m' entry n := by
    intro m m' h n hdetour
    have hresolve := Mailbox.resolve_congr h .root
    cases hdetour with
    | partway hr hm h => exact .partway ((hresolve _).trans hr) hm h
    | root hr hm h hroot => exact .root ((hresolve _).trans hr) hm h hroot
    | missing hr hm h => exact .missing ((hresolve _).trans hr) hm h
    | refused hr hm h => exact .refused ((hresolve _).trans hr) hm h
    | unsent h => exact .unsent h
  have hiff : ∀ n, Detour s m' entry n ↔ Detour s m entry n :=
    fun n => ⟨hdetour h.symm, hdetour h⟩
  simp only [Warned, hreturned, hiff]

/-- Each action of a run warns once when it returns the message, and not otherwise; apart from marks
nothing else warns. -/
theorem Course.warns {todo : List DeliveryAction} {log : List (DeliveryAction × List Event)}
    {answer : Except StoreError Bool} (h : Course s d known todo log answer) (hm : m.Reachable)
    (hes : m.Answers (eventsOf log)) :
    ∃ told, List.Forall₂ (Warned s m) log told ∧ Warns d (eventsOf log) told.flatten := by
  induction h generalizing m with
  | done => exact ⟨[], .nil, .nil⟩
  | failed h | stopped h =>
    obtain ⟨hes, -⟩ := Mailbox.answers_append.1 hes
    obtain ⟨ns, hwarns, hwarned⟩ := h.warns hm hes
    exact ⟨[ns], .cons hwarned .nil, hwarns.append .nil⟩
  | @step _ _ _ _ _ es _ _ h hgo hrest ih =>
    obtain ⟨hes, hlater⟩ := Mailbox.answers_append.1 hes
    obtain ⟨ns, hwarns, hwarned⟩ := h.warns hm hes
    obtain ⟨told, htold, hrestWarns⟩ := ih (hm.after es) hlater
    refine ⟨ns :: told, .cons hwarned (htold.imp fun entry ns => ?_), hwarns.append hrestWarns⟩
    exact (warned_congr (Mailbox.folders_after m es) entry).1

/-! ## Warnings about marks -/

/-- An answer about marks is followed by somebody being asked to take the message in. -/
theorem Warns.exists_attempt (h : Warns d es ns) {answer : MarkAnswer}
    (hmem : .marked answer ∈ es) : ∃ e ∈ es, e.isAttempt = true := by
  induction h with
  | nil => cases hmem
  | told _ _ ih =>
    obtain ⟨e, he, hattempt⟩ := ih (by simpa using hmem)
    exact ⟨e, List.mem_cons_of_mem _ he, hattempt⟩
  | @silent e' _ _ _ hanswer _ ih =>
    rcases List.mem_cons.1 hmem with rfl | hmem
    · cases hanswer
    · obtain ⟨e, he, hattempt⟩ := ih hmem
      exact ⟨e, List.mem_cons_of_mem _ he, hattempt⟩
  | marked answer hattempt =>
    obtain ⟨e, he, hattempt⟩ := hattempt
    exact ⟨e, List.mem_cons_of_mem _ (List.mem_append_right _ he), hattempt⟩

/-- In front of all answers about marks, the warnings are those of the events. -/
theorem Warns.of_append (hes : ∀ e ∈ es, e.answer? = none) (h : Warns d (es ++ es') ns) :
    ∃ ns', ns = es.filterMap Event.warning? ++ ns' ∧ Warns d es' ns' := by
  induction es generalizing ns with
  | nil => exact ⟨ns, rfl, h⟩
  | cons e es ih =>
    obtain ⟨he, hrest⟩ := List.forall_mem_cons.1 hes
    rw [List.cons_append] at h
    generalize htail : es ++ es' = tail at h
    cases h with
    | told hn h =>
      obtain ⟨ns', rfl, h'⟩ := ih hrest (htail ▸ h)
      exact ⟨ns', by simp [Event.warning?, hn], h'⟩
    | silent hwarning hanswer h =>
      obtain ⟨ns', rfl, h'⟩ := ih hrest (htail ▸ h)
      exact ⟨ns', by rw [List.filterMap_cons_none hwarning], h'⟩
    | marked => cases he

/-- Answers about marks, with the warnings they give rise to, are left out. -/
theorem Warns.of_answered {answers : List MarkAnswer}
    (h : Warns d (answers.flatMap d.answered ++ es) ns) : Warns d es ns := by
  induction answers with
  | nil => exact h
  | cons answer answers ih =>
    rw [List.flatMap_cons, List.append_assoc, answered, List.cons_append] at h
    generalize htail : (answer.warning? d.recipient).toList.map Event.noticed ++
      (answers.flatMap d.answered ++ es) = tail at h
    cases h with
    | silent _ hanswer => cases hanswer
    | marked _ _ h => exact ih (List.append_cancel_left htail ▸ h)

theorem warnings_answered (answers : List MarkAnswer) :
    (answers.flatMap d.answered).filterMap Event.warning? =
      answers.filterMap (MarkAnswer.warning? d.recipient) := by
  induction answers with
  | nil => rfl
  | cons answer answers ih =>
    rw [List.flatMap_cons, List.filterMap_append, ih, answered, List.filterMap_cons_none rfl,
      List.filterMap_cons]
    cases hwarning : answer.warning? d.recipient with
    | none => rfl
    | some n =>
      have hn : (Event.noticed n).warning? = some n :=
        if_pos (MarkAnswer.severity_of_warning? hwarning)
      exact congrArg (· ++ _) (List.filterMap_cons_some hn)

/-- What a mailbox answers about all marks gives rise to the warnings about them. -/
theorem warnings_ask (hm : m.Reachable) :
    (Marks.ask Mailbox.store d.markActions m).1.filterMap (MarkAnswer.warning? d.recipient) =
      d.markWarnings m := by
  rw [Marks.ask_store, List.filterMap_append, Marks.warnings_flags hm.flags_eq,
    Marks.warnings_tags hm, markWarnings]

/-- Where nobody is asked about marks, the warnings are those of the events. -/
theorem Warns.eq_warnings (hes : ∀ e ∈ es, e.answer? = none) (h : Warns d es ns) :
    ns = es.filterMap Event.warning? := by
  rw [← List.append_nil es] at h
  obtain ⟨ns', rfl, hnil⟩ := h.of_append hes
  cases hnil
  exact List.append_nil _

/-- As long as marks are not known, nobody is asked to take the message in. -/
theorem not_isAttempt_of_goesBy {e : Event} (h : e.GoesBy none) : e.isAttempt = false := by
  cases e <;> first | rfl | cases h

/-- The warnings about marks stand in one place among the others, when anybody was asked to take the
message in. -/
theorem MarkedOnce.warnings (h : MarkedOnce d none es known) (hwarns : Warns d es ns)
    (hm : m.Reachable)
    (hof : ∀ answer, .marked answer ∈ es → answer = .ofMailbox m answer.action) :
    ∃ before after, es.filterMap Event.warning? =
        before ++ (if es.any Event.isAttempt then d.markWarnings m else []) ++ after ∧
      before ++ after = ns := by
  cases h with
  | steady h =>
    have hquiet : es.any Event.isAttempt = false :=
      List.any_eq_false.2 fun e he => by simp [not_isAttempt_of_goesBy (h e he)]
    obtain rfl := hwarns.eq_warnings fun e he => (h e he).answer?
    exact ⟨es.filterMap Event.warning?, [], by simp [hquiet], List.append_nil _⟩
  | @asked before after answers hbefore hasked hafter =>
    have hask : answers = (Marks.ask Mailbox.store d.markActions m).1 := by
      refine m.answers_eq_ask hasked fun answer hmem => hof answer ?_
      refine List.mem_append_right _ (List.mem_append_left _ ?_)
      exact List.mem_flatMap.2 ⟨answer, hmem, List.mem_cons_self⟩
    have hmarks : answers.filterMap (MarkAnswer.warning? d.recipient) = d.markWarnings m :=
      hask ▸ warnings_ask hm
    -- somebody is asked to take the message in, unless there was nothing to ask about
    have hattempt : (if (before ++ (answers.flatMap d.answered ++ after)).any Event.isAttempt
        then d.markWarnings m else []) = d.markWarnings m := by
      match answers with
      | [] => rw [← hmarks]; exact ite_self _
      | answer :: answers =>
        have hmem : .marked answer ∈ before ++ ((answer :: answers).flatMap d.answered ++ after) :=
          List.mem_append_right _ List.mem_cons_self
        exact if_pos (List.any_eq_true.2 (hwarns.exists_attempt hmem))
    obtain ⟨ns', rfl, hlater⟩ := hwarns.of_append fun e he => (hbefore e he).answer?
    obtain rfl := hlater.of_answered.eq_warnings fun e he => (hafter e he).answer?
    refine ⟨before.filterMap Event.warning?, after.filterMap Event.warning?, ?_, rfl⟩
    rw [hattempt, List.filterMap_append, List.filterMap_append, warnings_answered, hmarks,
      List.append_assoc]

/-- **Every fallback is warned about once, and nothing else is, apart from marks.**  Over a mailbox
that can be reached, the warnings of a run are one for each action that has returned the message to
the inbox, in the order of the actions and with the reason, whatever became of the filing there; an
action that has not returned it has none.  In one place among them are the warnings about marks, one
for each action on a flag or a tag that the mailbox does not have, when the run has asked anybody to
take the message in, and none otherwise. -/
theorem execute_warns {m : Mailbox} (hm : m.Reachable) (connector : Option (Connector ρ τ))
    (sender : Option (Sender ρ)) (stamp : ρ → Forward.Stamp × ρ) (d : Delivery) (w : ρ) :
    let s := Mailbox.surroundings connector sender stamp
    let x := d.execute s (m, w)
    let log := d.log s (m, w)
    log.map (·.1) <+: d.todo ∧ (d.actions ≠ [] → x.events = eventsOf log) ∧
    ∃ told before after, List.Forall₂ (Warned s m) log told ∧
      x.events.filterMap Event.warning? =
        before ++ (if x.events.any Event.isAttempt then d.markWarnings m else []) ++ after ∧
      before ++ after = told.flatten := by
  intro s x log
  by_cases hactions : d.actions = []
  · have hx : x = _ := execute_of_no_actions s (m, w) hactions
    have hlog : log = [] := by simp [log, Delivery.log, hactions]
    rw [hx, hlog]
    exact ⟨List.nil_prefix, fun hne => absurd hactions hne, [], [], [], .nil, rfl, rfl⟩
  have hs := Mailbox.surroundings_follows connector sender stamp
  obtain ⟨answer, hcourse, hevents, ⟨hanswers, -⟩, -, -⟩ := execute_course hs d (m, w) hactions
  obtain ⟨duplicate, rfl⟩ := hcourse.ok hm.rooted hanswers
  obtain ⟨left, htodo, -⟩ := hcourse.left
  obtain ⟨told, htold, hwarns⟩ := hcourse.warns hm hanswers
  have hmarks := (execute_explains (Mailbox.surroundings_marks connector sender stamp) d (m, w)).2.2
  obtain ⟨known, hmarked⟩ := execute_markedOnce s d (m, w)
  rw [← hevents] at hwarns
  obtain ⟨before, after, hwarnings, hflatten⟩ := hmarked.warnings hwarns hm hmarks
  exact ⟨⟨left, htodo.symm⟩, fun _ => hevents, told, before, after, htold, hwarnings, hflatten⟩

/-- Three of five actions return the message, one before the marks are asked for.  The inbox has had
the copies of the last two already; the last one ends the run, and the keep is left. -/
theorem execute_warns_duplicates :
    let work := (Mailbox.new "bob".toList (some ⟨"token".toList⟩)).apply
      (.createFolder "/Work".toList)
    let m := work.apply (.createMountpoint "/Shared".toList "alice".toList 257)
    let connector : Connector Unit Unit :=
      ⟨fun _ _ w => (.ok (), w), fun _ t w => (.ok (some ⟨[], [], []⟩), t, w),
        fun _ _ t w => (.ok none, t, w), fun _ _ _ t w => (.ok (), t, w), fun _ w => w⟩
    let s : Surroundings (Mailbox × Unit) Unit :=
      Mailbox.surroundings (some connector) none fun w => (⟨[], []⟩, w)
    let d := { start ⟨[10, 72, 105, 10], []⟩ "bob".toList (some 7) .none with
      actions := [.fileInto "/Shared/Gone".toList, .flag (-30) true, .fileInto "/Work".toList,
        .fileInto "/Shared".toList, .redirect "carol@localhost".toList, .tag "home".toList,
        .fileInto " / ".toList, .keep false] }
    let x := d.execute s (m, ())
    Message.ofOctets d.message.raw = .ok d.message ∧ m.Reachable ∧
      x.delivery.isDuplicate = true ∧
      (x.events.filterMap Event.warning?).length = 5 ∧
      (x.events.filterMap Event.warning?)[1]? = some (Marks.flagWarning (-30)) ∧
      (x.events.filterMap Event.warning?)[2]? =
        some (Marks.tagWarning "bob".toList "home".toList) ∧
      ∃ told, List.Forall₂ (Warned s m) (d.log s (m, ())) told ∧ told.flatten.length = 3 := by
  intro work m connector s d x
  have hwork : work.Reachable := .apply (.new _ _) _ (by decide +kernel)
  have hm : m.Reachable := .apply hwork _ (by decide +kernel)
  have hrun := execute_warns hm (some connector) none (fun w => (⟨[], []⟩, w)) d ()
  -- with the surroundings folded, the run need not be evaluated
  have hs : Mailbox.surroundings (some connector) none (fun w => (⟨[], []⟩, w)) = s := rfl
  rw [hs] at hrun
  obtain ⟨-, -, told, before, after, htold, hwarnings, hflatten⟩ := hrun
  have hlength : (x.events.filterMap Event.warning?).length = 5 := by decide +kernel
  have hattempt : x.events.any Event.isAttempt = true := by decide +kernel
  have hmarks : (d.markWarnings m).length = 2 := by decide +kernel
  refine ⟨Message.ofOctets_of_blank _, hm, by decide +kernel, hlength, by decide +kernel,
    by decide +kernel, told, htold, ?_⟩
  rw [if_pos hattempt] at hwarnings
  have hall := congrArg List.length hwarnings
  rw [hlength, List.length_append, List.length_append, hmarks] at hall
  rw [← hflatten, List.length_append]
  omega

end Delivery

end Postroom
