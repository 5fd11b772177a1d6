import Postroom.Proofs.Mailbox.History

/-!
# Folders of a mailbox

In every mailbox that can be reached, the system folders come first and no number stands for two
folders.  So the inbox always takes messages, a path always leads to a folder, and a folder that a
path leads to is found again by its number.
-/

namespace Postroom.Mailbox

/-- The mailboxes that histories lead to.  The counter of folders is an unsigned number of 32 bits;
a creation that overruns it leaves no mailbox. -/
inductive Reachable : Mailbox → Prop
  | new (account : Text) (token : Option AuthToken) : Reachable (new account token)
  | apply {m : Mailbox} (h : Reachable m) (o : Operation)
      (hnext : m.nextFolder ≤ (m.apply o).nextFolder) : Reachable (m.apply o)

/-- The system folders come first, and no two folders share a number. -/
structure Rooted (m : Mailbox) : Prop where
  system : systemFolders <+: m.folders
  distinct : m.folders.Pairwise fun f g => f.id ≠ g.id

theorem Rooted.congr {m m' : Mailbox} (h : m.Rooted) (hfolders : m'.folders = m.folders) :
    m'.Rooted :=
  ⟨hfolders ▸ h.system, hfolders ▸ h.distinct⟩

/-- A reachable mailbox is rooted, and its next folder will get a number that is greater than all
that are taken. -/
theorem Reachable.rooted_and_lt {m : Mailbox} (h : m.Reachable) :
    m.Rooted ∧ ∀ f ∈ m.folders, f.id < m.nextFolder := by
  induction h with
  | new account token =>
    refine ⟨⟨List.prefix_refl _, ?_⟩, ?_⟩
    · show systemFolders.Pairwise fun f g => f.id ≠ g.id
      decide +kernel
    · show ∀ f ∈ systemFolders, f.id < firstFolder
      decide +kernel
  | @apply m h o hnext ih =>
    obtain ⟨⟨hsystem, hdistinct⟩, hlt⟩ := ih
    obtain ⟨next, c, hm, -, hchange⟩ := exists_change m o
    rw [hm] at hnext ⊢
    cases hchange with
    | nothing | tag | copy => exact ⟨⟨hsystem, hdistinct⟩, hlt⟩
    | folder f hid =>
      -- the counter has not gone back, so it has grown
      have hgrows : m.nextFolder < m.nextFolder + 1 := by
        rw [UInt32.le_iff_toNat_le, UInt32.toNat_add] at hnext
        rw [UInt32.lt_iff_toNat_lt, UInt32.toNat_add]
        simp only [UInt32.toNat_one] at hnext ⊢
        omega
      refine ⟨⟨hsystem.trans (List.prefix_append _ _), ?_⟩, ?_⟩
      · refine List.pairwise_append.2 ⟨hdistinct, by simp, ?_⟩
        intro g hg f' hf'
        obtain rfl : f' = f := by simpa using hf'
        exact hid ▸ (UInt32.ne_of_lt (hlt g hg))
      · intro g hg
        rcases List.mem_append.1 hg with hg | hg
        · exact UInt32.lt_trans (hlt g hg) hgrows
        · obtain rfl : g = f := by simpa using hg
          exact hid ▸ hgrows

theorem Reachable.rooted {m : Mailbox} (h : m.Reachable) : m.Rooted :=
  h.rooted_and_lt.1

/-! ## Look-ups -/

/-- A folder is found by its number. -/
theorem Rooted.folder?_of_mem {m : Mailbox} (h : m.Rooted) {f : Folder} (hf : f ∈ m.folders) :
    m.folder? f.id = some f := by
  obtain ⟨n, hn, rfl⟩ := List.getElem_of_mem hf
  refine List.find?_eq_some_iff_getElem.2 ⟨by simp, n, hn, rfl, ?_⟩
  intro j hj
  have hne := List.pairwise_iff_getElem.1 h.distinct j n (Nat.lt_trans hj hn) hn hj
  simpa using hne

theorem Rooted.folder?_system {m : Mailbox} (h : m.Rooted) {id : FolderId} {f : Folder}
    (hf : systemFolders.find? (·.id == id) = some f) : m.folder? id = some f := by
  obtain ⟨created, hcreated⟩ := h.system
  simp [folder?, ← hcreated, hf]

theorem Rooted.takes_inbox {m : Mailbox} (h : m.Rooted) : m.Takes .inbox :=
  ⟨_, h.folder?_system rfl, rfl⟩

theorem Rooted.takes_spam {m : Mailbox} (h : m.Rooted) : m.Takes .spam :=
  ⟨_, h.folder?_system rfl, rfl⟩

theorem deepest_mem {m : Mailbox} {segments rest : List Text} {least extra : ℕ} {f : Folder}
    (h : m.deepest segments least extra = some (f, rest)) : f ∈ m.folders := by
  induction extra with
  | zero =>
    unfold deepest at h
    split at h
    · rename_i g hg
      obtain rfl : g = f := by simpa using congrArg (Option.map (·.1)) h
      exact List.mem_of_find?_eq_some hg
    · cases h
  | succ extra ih =>
    unfold deepest at h
    split at h
    · rename_i g hg
      obtain rfl : g = f := by simpa using congrArg (Option.map (·.1)) h
      exact List.mem_of_find?_eq_some hg
    · exact ih h

/-- A path always leads to a folder of the mailbox. -/
theorem Rooted.resolve_root {m : Mailbox} (h : m.Rooted) (path : Text) :
    ∃ r, m.resolve .root path = .ok r ∧ r.folder ∈ m.folders := by
  have hroot : m.folder? .root = some (systemFolder .root "") := h.folder?_system rfl
  unfold resolve
  rw [hroot]
  simp only
  split
  · rename_i found rest hdeepest
    exact ⟨_, rfl, deepest_mem hdeepest⟩
  · exact ⟨_, rfl, List.mem_of_find?_eq_some hroot⟩

theorem deepest_congr {m m' : Mailbox} (h : m'.folders = m.folders) (segments : List Text)
    (least extra : ℕ) : m'.deepest segments least extra = m.deepest segments least extra := by
  induction extra with
  | zero => simp [deepest, folderAt?, h]
  | succ extra ih =>
    unfold deepest
    simp only [folderAt?, h, ih]

/-- Where a path leads to is decided by the folders. -/
theorem resolve_congr {m m' : Mailbox} (h : m'.folders = m.folders) (root : FolderId)
    (path : Text) : m'.resolve root path = m.resolve root path := by
  simp only [resolve, folder?, h, deepest_congr h]

theorem Takes.congr {m m' : Mailbox} (h : m'.folders = m.folders) {id : FolderId}
    (ht : m.Takes id) : m'.Takes id := by
  simpa only [Takes, folder?, h] using ht

/-! ## Filings -/

/-- A filing leaves the folders alone. -/
theorem folders_addMessage (m : Mailbox) (f : Filing) : (m.addMessage f).2.folders = m.folders := by
  by_cases ht : m.Takes f.folder
  · by_cases hk : m.Knows f
    · rw [addMessage_of_knows ht hk]
    · rw [addMessage_of_not_knows ht hk]
      rfl
  · obtain ⟨e, he⟩ := addMessage_of_not_takes ht
    rw [he]

/-- A folder that takes messages does not refuse one. -/
theorem addMessage_ok {m : Mailbox} {f : Filing} (ht : m.Takes f.folder) :
    ∃ copy, (m.addMessage f).1 = .ok copy := by
  by_cases hk : m.Knows f
  · exact ⟨_, by rw [addMessage_of_knows ht hk]⟩
  · exact ⟨_, by rw [addMessage_of_not_knows ht hk]⟩

/-- What is known stays known. -/
theorem Knows.run {m : Mailbox} {f : Filing} (h : m.Knows f) (ops : List Operation) :
    (m.run ops).Knows f := by
  obtain ⟨key, hmem, hkey⟩ := h
  exact ⟨key, by rw [delivered_run]; exact List.mem_append_left _ hmem, hkey⟩

theorem Knows.of_sameCopy {m : Mailbox} {f g : Filing} (h : m.Knows f) (hsame : SameCopy f g) :
    m.Knows g := by
  obtain ⟨key, hmem, hkey⟩ := h
  obtain ⟨key', hkey', hg⟩ := sameCopy_iff.1 hsame
  obtain rfl : key' = key := Option.some_inj.1 (hkey'.symm.trans hkey)
  exact ⟨key', hmem, hg⟩

/-- A filing of a context into a folder that takes it is known afterwards, whatever the answer. -/
theorem knows_addMessage {m : Mailbox} {f : Filing} (ht : m.Takes f.folder)
    (hcontext : f.context ≠ none) : (m.addMessage f).2.Knows f := by
  by_cases hk : m.Knows f
  · rw [addMessage_of_knows ht hk]
    exact hk
  · rw [addMessage_of_not_knows ht hk]
    obtain ⟨context, hcontext⟩ := Option.ne_none_iff_exists'.1 hcontext
    have hkey : key? f = some (context, Unicode.lowercase f.recipient, f.folder) := by
      simp [key?, hcontext]
    exact ⟨_, by simp [append, hkey], hkey⟩

end Postroom.Mailbox
