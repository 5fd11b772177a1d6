import Postroom.Proofs.Delivery.Faults
import Postroom.Proofs.Delivery.Retry
import Postroom.Proofs.Mailbox.Commutation
import Postroom.Proofs.Mailbox.Resolution

/-!
# Where messages are filed

Over a mailbox that can be reached, a run does not fail, and each of its actions files the message
in one folder at most, which the action, the verdict and the folders decide.  A path files into the
folder that has it, up to case, and otherwise into the inbox; neither the root nor a mountpoint ever
gets a message.
-/

namespace Postroom

namespace Mailbox

variable {m : Mailbox}

/-- The folder has the path, up to case and to how it is written, and can take messages filed along
it: it is neither a mountpoint nor the root. -/
def IsTarget (m : Mailbox) (path : Text) (f : Folder) : Prop :=
  f ∈ m.folders ∧ Text.sameName f.path (Path.join (Path.split path)) = true ∧
    f.isMountpoint = false ∧ f.id ≠ .root

/-- A delivery leaves everything but the messages alone. -/
theorem sameSetup_after (m : Mailbox) (es : List Event) : m.SameSetup (m.after es) := by
  refine (agreesOn_run (K := fun _ => False) ?_).toSameSetup
  intro o ho
  obtain ⟨e, -, he⟩ := List.mem_filterMap.1 ho
  cases e with
  | filed f answer => exact ⟨f, by simpa [Event.operation?] using he.symm, fun _ => False.elim⟩
  | _ => cases he

theorem Reachable.after (h : m.Reachable) (es : List Event) : (m.after es).Reachable := by
  induction es generalizing m with
  | nil => exact h
  | cons e es ih =>
    cases e with
    | filed f answer =>
      refine ih (.apply h (.addMessage f) ?_)
      rw [show (m.apply (.addMessage f)).nextFolder = m.nextFolder from
        (sameSetup_addMessage m f).nextFolder]
      exact UInt32.le_refl _
    | _ => exact ih h

/-- A path leads all the way to a folder that has it. -/
theorem Reachable.resolve_of_mem (h : m.Reachable) {f : Folder} {path : Text} (hf : f ∈ m.folders)
    (hpath : Text.sameName f.path (Path.join (Path.split path)) = true) :
    m.resolve .root path = .ok (.partway f []) := by
  have hfound := h.folderAt?_of_mem hf hpath
  obtain ⟨n, g, hg, hlonger, hn, hresolve⟩ := h.rooted.resolve_root_longest path
  -- the whole path has a folder, so that no shorter part of it was tried
  have hwhole : n = (Path.split path).length := by
    by_contra hne
    have hnone := hlonger _ (Nat.lt_of_le_of_ne hn hne) le_rfl
    rw [List.take_length, hfound] at hnone
    cases hnone
  rw [hwhole, List.take_length, hfound] at hg
  obtain rfl : f = g := Option.some_inj.1 hg
  rw [hresolve, hwhole, List.drop_length]
  rfl

/-- A path that leads all the way to a folder, which is neither a mountpoint nor the root, is the
path of this folder. -/
theorem Rooted.isTarget_of_resolve (h : m.Rooted) {path : Text} {r : Resolution}
    (hr : m.resolve .root path = .ok r) (hpartial : r.isPartial = false)
    (hmount : r.folder.isMountpoint = false) (hroot : r.folder.id ≠ .root) :
    m.IsTarget path r.folder := by
  obtain ⟨n, f, hf, -, -, hresolve⟩ := h.resolve_root_longest path
  obtain rfl : r = .partway f (Path.relative ((Path.split path).drop n)) :=
    Except.ok.inj (hr.symm.trans hresolve)
  obtain ⟨hmem, hpath⟩ := mem_of_folderAt? hf
  have hsegments : ∀ s ∈ (Path.split path).drop n, Path.IsSegment s :=
    fun s hs => Path.isSegment_of_mem_split (List.mem_of_mem_drop hs)
  have hrest : (Path.split path).drop n = [] := by
    refine (Path.relative_eq_nil_iff hsegments).1 ?_
    by_contra hne
    simp [Resolution.isPartial, hne] at hpartial
  rw [List.take_of_length_le (List.drop_eq_nil_iff.1 hrest)] at hpath
  exact ⟨hmem, hpath, hmount, hroot⟩

end Mailbox

namespace Delivery

variable {σ τ : Type} {s : Surroundings σ τ} {d : Delivery} {known known' : Option Marks}
  {m : Mailbox}

/-! ## Destinations -/

theorem destination_of_isTarget (hm : m.Reachable) {path : Text} {f : Folder}
    (hf : m.IsTarget path f) : d.destination m (.fileInto path) = f.id := by
  obtain ⟨hmem, hpath, hmount, hroot⟩ := hf
  simp only [destination, hm.resolve_of_mem hmem hpath]
  simp [Resolution.localFolder, Resolution.isPartial, Resolution.partway, Resolution.remaining,
    hmount, hroot]

/-- A path that no folder has, or only the root or a mountpoint, files into the inbox. -/
theorem destination_of_no_target (hm : m.Reachable) {path : Text}
    (h : ∀ f, ¬ m.IsTarget path f) : d.destination m (.fileInto path) = .inbox := by
  obtain ⟨r, hr, -⟩ := hm.rooted.resolve_root path
  simp only [destination, hr, Resolution.localFolder]
  refine if_pos ?_
  by_contra hown
  simp only [Bool.or_eq_true, not_or, Bool.not_eq_true, beq_eq_false_iff_ne] at hown
  exact h _ (hm.rooted.isTarget_of_resolve hr hown.1.2 hown.1.1 hown.2)

theorem destination_ne_root (d : Delivery) (m : Mailbox) (a : DeliveryAction) :
    d.destination m a ≠ .root := by
  match a with
  | .keep true =>
    simp only [destination, defaultFolder]
    split <;> decide
  | .keep false | .redirect _ =>
    show FolderId.inbox ≠ FolderId.root
    decide
  | .fileInto path =>
    simp only [destination]
    split
    · rename_i r hr
      unfold Resolution.localFolder
      split
      · decide
      · rename_i hown
        simp only [Bool.or_eq_true, not_or, beq_iff_eq] at hown
        exact hown.2
    · decide

/-! ## Actions -/

/-- The events file the message once, in this folder. -/
def FilesIn (es : List Event) (folder : FolderId) : Prop :=
  ∃ f, es.filterMap Event.operation? = [.addMessage f] ∧ f.folder = folder

/-- Another account has taken the message. -/
def FilesRemotely (es : List Event) : Prop :=
  ∃ folder flags raw, .appended folder flags raw (.ok ()) ∈ es

/-- Someone has taken the message to send it on. -/
def SendsOn (es : List Event) : Prop :=
  ∃ email recipient, .sent email recipient (.ok ()) ∈ es

/-- An action has filed the message where it should.  Kept, it goes to the inbox, or with the spam
when the keep is implicit and it is spam.  Filed along a path, it goes to the folder that has the
path, and when there is none to the inbox, unless another account has taken it.  When it cannot be
sent on, it goes to the inbox. -/
def Routed (d : Delivery) (m : Mailbox) : DeliveryAction × List Event → Prop
  | (.keep implicit, es) => FilesIn es (if implicit && d.isSpam then .spam else .inbox)
  | (.fileInto path, es) =>
    (∀ f, m.IsTarget path f → FilesIn es f.id) ∧
      ((∀ f, ¬ m.IsTarget path f) →
        (FilesRemotely es ∧ es.filterMap Event.operation? = []) ∨
          (¬ FilesRemotely es ∧ FilesIn es .inbox))
  | (.redirect _, es) =>
    (SendsOn es ∧ es.filterMap Event.operation? = []) ∨ (¬ SendsOn es ∧ FilesIn es .inbox)

/-- Along a path that a folder of the mailbox has, the message does not leave. -/
theorem Block.not_leaves_of_isTarget {path : Text} {answer : Except StoreError Outcome}
    {es : List Event} (h : Block s d (.fileInto path) known answer es known') (hm : m.Reachable)
    (hes : m.Answers es) {f : Folder} (hf : m.IsTarget path f) : ¬ Leaves es := by
  obtain ⟨hmem, hpath, hmount, -⟩ := hf
  have hresolve := hm.resolve_of_mem hmem hpath
  cases h with
  | unresolved => exact not_leaves_of_effects rfl
  | remote path r h =>
    -- only along a mountpoint does another account take the message
    obtain ⟨hr, -⟩ := hes
    rw [hresolve] at hr
    cases h with
    | remote hm' _ =>
      obtain rfl : r = .partway f [] := by simpa using hr
      have hnone : f.mountpoint? = none := by simpa [Folder.isMountpoint] using hmount
      rw [show (Resolution.partway f []).folder = f from rfl, hnone] at hm'
      cases hm'
  | filed path r h hf =>
    rw [leaves_cons rfl, leaves_append]
    exact not_or.2 ⟨h.not_leaves, hf.not_leaves⟩

theorem exists_sent_of_mail {es : List Event} {email : Octets} {recipient : Text}
    (h : .mail email recipient ∈ es.filterMap Event.effect?) :
    .sent email recipient (.ok ()) ∈ es := by
  obtain ⟨e, he, heffect⟩ := List.mem_filterMap.1 h
  exact eq_of_effect? heffect ▸ he

/-- When an action sends the message on, it leaves exactly when someone has taken it. -/
theorem Block.leaves_iff_of_redirect {address : Text} {answer : Except StoreError Outcome}
    {es : List Event} (h : Block s d (.redirect address) known answer es known') :
    Leaves es ↔ SendsOn es := by
  constructor
  · intro hleaves
    cases h with
    | sent address h =>
      rcases h.effects with ⟨-, email, recipient, heffect, -⟩ | ⟨hne, -⟩
      · have hmem := exists_sent_of_mail (heffect ▸ List.mem_singleton_self _)
        exact ⟨email, recipient, List.mem_cons_of_mem _ hmem⟩
      · exact absurd rfl hne
    | returned address h hf =>
      rw [leaves_cons rfl, leaves_append, leaves_cons rfl] at hleaves
      exact absurd hleaves (not_or.2 ⟨h.not_leaves, hf.not_leaves⟩)
  · rintro ⟨email, recipient, hmem⟩
    exact ⟨.mail email recipient, List.mem_filterMap.2 ⟨_, hmem, rfl⟩, rfl⟩

/-- **An action files the message where it should.** -/
theorem Block.routed {a : DeliveryAction} {answer : Except StoreError Outcome} {es : List Event}
    (h : Block s d a known answer es known') (hm : m.Reachable) (hes : m.Answers es) :
    Routed d m (a, es) := by
  have hfiles := h.leaves_or_files hm.rooted hes
  match a with
  | .keep implicit =>
    rcases hfiles with ⟨-, hleaves, -⟩ | ⟨f, copy, hops, hfolder, -⟩
    · exact absurd hleaves h.not_leaves_of_keep
    · refine ⟨f, hops, ?_⟩
      rw [hfolder]
      cases implicit <;> rfl
  | .fileInto path =>
    refine ⟨?_, ?_⟩
    · intro g hg
      rcases hfiles with ⟨-, hleaves, -⟩ | ⟨f, copy, hops, hfolder, -⟩
      · exact absurd hleaves (h.not_leaves_of_isTarget hm hes hg)
      · exact ⟨f, hops, hfolder.trans (destination_of_isTarget hm hg)⟩
    · intro hnone
      rcases hfiles with ⟨-, hleaves, hops⟩ | ⟨f, copy, hops, hfolder, -, -, hstays, -⟩
      · exact Or.inl ⟨h.leaves_iff_of_fileInto.1 hleaves, hops⟩
      · exact Or.inr ⟨mt h.leaves_iff_of_fileInto.2 hstays, f, hops,
          hfolder.trans (destination_of_no_target hm hnone)⟩
  | .redirect address =>
    rcases hfiles with ⟨-, hleaves, hops⟩ | ⟨f, copy, hops, hfolder, -, -, hstays, -⟩
    · exact Or.inl ⟨h.leaves_iff_of_redirect.1 hleaves, hops⟩
    · exact Or.inr ⟨mt h.leaves_iff_of_redirect.2 hstays, f, hops, hfolder⟩

/-- An action asks for filings in folders that take messages only, and never in the root. -/
theorem Block.takes {a : DeliveryAction} {answer : Except StoreError Outcome} {es : List Event}
    (h : Block s d a known answer es known') (hm : m.Rooted) (hes : m.Answers es) :
    Mailbox.OnlyFiles (fun f => m.Takes f.folder ∧ f.folder ≠ .root)
      (es.filterMap Event.operation?) := by
  intro o ho
  rcases h.leaves_or_files hm hes with ⟨-, -, hops⟩ | ⟨f, copy, hops, hfolder, -⟩
  · simp [hops] at ho
  · obtain rfl : o = .addMessage f := by simpa [hops] using ho
    exact ⟨f, rfl, hfolder ▸ takes_destination hm d a, hfolder ▸ destination_ne_root d m a⟩

/-! ## Runs -/

theorem routed_congr {m' : Mailbox} (h : m'.folders = m.folders)
    (entry : DeliveryAction × List Event) : Routed d m' entry ↔ Routed d m entry := by
  unfold Routed
  simp only [Mailbox.IsTarget, h]

/-- Over a mailbox, the actions of a run do not fail. -/
theorem Course.ok {todo : List DeliveryAction} {log : List (DeliveryAction × List Event)}
    {answer : Except StoreError Bool} (h : Course s d known todo log answer) (hm : m.Rooted)
    (hes : m.Answers (eventsOf log)) : ∃ duplicate, answer = .ok duplicate := by
  induction h generalizing m with
  | done => exact ⟨false, rfl⟩
  | stopped => exact ⟨true, rfl⟩
  | failed h =>
    obtain ⟨hes, -⟩ := Mailbox.answers_append.1 hes
    rcases h.leaves_or_files hm hes with ⟨hanswer, -⟩ | ⟨_, _, _, _, _, _, _, _, hanswer⟩
    all_goals cases hanswer
  | @step _ _ _ _ _ es _ _ h hgo hrest ih =>
    exact ih (hm.congr (Mailbox.folders_after m es)) (Mailbox.answers_append.1 hes).2

/-- Each action of a run files the message where it should. -/
theorem Course.routed {todo : List DeliveryAction} {log : List (DeliveryAction × List Event)}
    {answer : Except StoreError Bool} (h : Course s d known todo log answer) (hm : m.Reachable)
    (hes : m.Answers (eventsOf log)) : ∀ entry ∈ log, Routed d m entry := by
  intro entry hentry
  obtain ⟨before, _, _, _, hbefore, hblock⟩ := h.entries hes entry hentry
  exact (routed_congr (Mailbox.folders_after m before) entry).1
    (hblock.routed (hm.after before) hbefore)

/-- A run asks for filings in folders that take messages only, and never in the root. -/
theorem Course.takes {todo : List DeliveryAction} {log : List (DeliveryAction × List Event)}
    {answer : Except StoreError Bool} (h : Course s d known todo log answer) (hm : m.Rooted)
    (hes : m.Answers (eventsOf log)) :
    Mailbox.OnlyFiles (fun f => m.Takes f.folder ∧ f.folder ≠ .root)
      ((eventsOf log).filterMap Event.operation?) := by
  intro o ho
  obtain ⟨e, he, ho⟩ := List.mem_filterMap.1 ho
  obtain ⟨entry, hentry, he⟩ := List.mem_flatMap.1 he
  obtain ⟨before, _, _, _, hbefore, hblock⟩ := h.entries hes entry hentry
  have hfolders := Mailbox.folders_after m before
  obtain ⟨f, rfl, hf, hroot⟩ := hblock.takes (hm.congr hfolders) hbefore o
    (List.mem_filterMap.2 ⟨e, he, ho⟩)
  exact ⟨f, rfl, hf.congr hfolders.symm, hroot⟩

/-- **A run files the message where it should.**  Over a mailbox that can be reached, a run does not
fail.  It carries out its actions up to a duplicate, and each of them files the message where it
should.  What the mailbox has afterwards, beyond what it had, are the copies that these actions have
filed; none of them is in a mountpoint or in the root.  Its folders, tags and flags are what they
were. -/
theorem execute_routes {ρ : Type} {m : Mailbox} (hm : m.Reachable)
    (connector : Option (Connector ρ τ)) (sender : Option (Sender ρ))
    (stamp : ρ → Forward.Stamp × ρ) (d : Delivery) (w : ρ) :
    let s := Mailbox.surroundings connector sender stamp
    let x := d.execute s (m, w)
    let log := d.log s (m, w)
    (∃ copies, x.result = .ok copies) ∧
    log.map (·.1) <+: d.todo ∧
    (d.actions ≠ [] → x.delivery.isDuplicate = false → log.map (·.1) = d.todo) ∧
    (∀ entry ∈ log, Routed d m entry) ∧
    x.world.1 = m.after (eventsOf log) ∧
    (∃ added, x.world.1.messages = m.messages ++ added ∧
      ∀ message ∈ added, m.Takes message.1.folder ∧ message.1.folder ≠ .root) ∧
    x.world.1.folders = m.folders ∧ x.world.1.tags = m.tags ∧ x.world.1.flags = m.flags := by
  intro s x log
  have hs := Mailbox.surroundings_follows connector sender stamp
  by_cases hactions : d.actions = []
  · have hx : x = _ := execute_of_no_actions s (m, w) hactions
    have hlog : log = [] := by simp [log, Delivery.log, hactions]
    rw [hx, hlog]
    exact ⟨⟨_, rfl⟩, List.nil_prefix, fun hne => absurd hactions hne, List.forall_mem_nil _, rfl,
      ⟨[], (List.append_nil _).symm, List.forall_mem_nil _⟩, rfl, rfl, rfl⟩
  · obtain ⟨answer, hcourse, -, ⟨hanswers, hworld⟩, hresult, hduplicate⟩ :=
      execute_course hs d (m, w) hactions
    obtain ⟨duplicate, rfl⟩ := hcourse.ok hm.rooted hanswers
    have hsetup := Mailbox.sameSetup_after m (eventsOf log)
    have hafter : x.world.1 = m.after (eventsOf log) := hworld
    rw [hafter]
    obtain ⟨left, htodo, hleft⟩ := hcourse.left
    refine ⟨⟨_, hresult⟩, ⟨left, htodo.symm⟩, ?_, hcourse.routed hm hanswers, rfl,
      ⟨_, Mailbox.messages_run m _, ?_⟩, hsetup.folders, hsetup.tags, hsetup.flags⟩
    · intro _ hnew
      obtain rfl : left = [] := by
        by_contra hne
        have hdup : x.delivery.isDuplicate = true := hduplicate.2 (congrArg _ (hleft hne))
        rw [hnew] at hdup
        cases hdup
      rw [htodo, List.append_nil]
    · intro message hmessage
      obtain ⟨⟨f, copy⟩, haccepted, rfl⟩ := List.mem_map.1 hmessage
      obtain ⟨hop, hfolder⟩ := Mailbox.mem_accepted haccepted
      obtain ⟨f', hf', hf, hroot⟩ := hcourse.takes hm.rooted hanswers _ hop
      obtain rfl : f = f' := by simpa using hf'
      exact ⟨hfolder ▸ hf, hfolder ▸ hroot⟩

/-- Paths with capital letters, blanks and doubled delimiters lead to folders as their normal forms
do; a path that nobody has, one below a mountpoint and a blank one lead to the inbox. -/
theorem execute_routes_respelled :
    let work := (Mailbox.new "bob".toList none).apply (.createFolder "/Work".toList)
    let projects := work.apply (.createFolder "/Work/Projects".toList)
    let m := projects.apply (.createMountpoint "/Shared".toList "alice".toList 257)
    let s : Surroundings (Mailbox × Unit) Unit :=
      Mailbox.surroundings none none fun w => (⟨[], []⟩, w)
    let d := { start ⟨[10, 72, 105, 10], []⟩ "bob".toList none .none with
      isSpam := true
      actions := [.fileInto " WORK // projects/ ".toList, .fileInto "/Work/Other".toList,
        .fileInto "/Shared/News".toList, .fileInto " / ".toList, .keep true, .keep false] }
    let x := d.execute s (m, ())
    Message.ofOctets d.message.raw = .ok d.message ∧ m.Reachable ∧
      (∃ copies, x.result = .ok copies) ∧
      x.world.1.messages.map (·.1.folder) = [257, .inbox, .inbox, .inbox, .spam, .inbox] := by
  intro work projects m s d x
  have hwork : work.Reachable := .apply (.new _ _) _ (by decide +kernel)
  have hprojects : projects.Reachable := .apply hwork _ (by decide +kernel)
  have hm : m.Reachable := .apply hprojects _ (by decide +kernel)
  obtain ⟨hok, -⟩ := execute_routes hm (none : Option (Connector Unit Unit)) none
    (fun w => (⟨[], []⟩, w)) d ()
  exact ⟨Message.ofOctets_of_blank _, hm, hok, by decide +kernel⟩

end Delivery

end Postroom
