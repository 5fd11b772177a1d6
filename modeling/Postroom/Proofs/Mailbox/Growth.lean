import Postroom.Proofs.Mailbox.Agreement

/-!
# How the folders of a mailbox grow

A folder is created where there is room for it, and no other request touches the folders
(`Mailbox.apply_growth`).  So a history adds the folders that it creates, with numbers that follow
one another as long as the counter does not overrun.

* `Mailbox.HasRoom`, `Mailbox.newFolder` — when a folder is created at a path, and which one;
* `Mailbox.made` — the folders that a history creates.
-/

namespace Postroom.Mailbox

/-! ## One creation -/

/-- A folder can be created at a path: the path names more than the root, no folder has it yet, and
the folder above is there and is no mountpoint. -/
structure HasRoom (m : Mailbox) (path : Text) : Prop where
  named : Path.split path ≠ []
  free : m.folderAt? (Path.join (Path.split path)) = none
  parent : ∃ p, m.folderAt? (Path.join (Path.split path).dropLast) = some p ∧
    p.isMountpoint = false

/-- The folder that is created at a path. -/
def newFolder (m : Mailbox) (path : Text) (kind : FolderKind) : Folder :=
  ⟨m.nextFolder, (Path.split path).getLast?.getD [], Path.join (Path.split path), kind⟩

/-- The mailbox with one more folder. -/
def addFolder (m : Mailbox) (f : Folder) : Mailbox :=
  { m with folders := m.folders ++ [f], nextFolder := m.nextFolder + 1 }

theorem create_of_hasRoom {m : Mailbox} {path : Text} (h : m.HasRoom path) (kind : FolderKind) :
    m.create path kind = .ok (m.newFolder path kind, m.addFolder (m.newFolder path kind)) := by
  obtain ⟨hnamed, hfree, p, hp, hown⟩ := h
  obtain ⟨name, hname⟩ : ∃ name, (Path.split path).getLast? = some name :=
    ⟨_, List.getLast?_eq_some_getLast hnamed⟩
  simp [create, newFolder, addFolder, hname, hfree, hp, hown]

theorem create_of_not_hasRoom {m : Mailbox} {path : Text} (h : ¬ m.HasRoom path)
    (kind : FolderKind) : ∃ e, m.create path kind = .error e := by
  unfold create
  simp only
  split
  · exact ⟨_, rfl⟩
  · rename_i name hname
    split
    · exact ⟨_, rfl⟩
    · rename_i hfree
      split
      · exact ⟨_, rfl⟩
      · rename_i p hp
        split
        · exact ⟨_, rfl⟩
        · rename_i hown
          -- no check has failed, so there is room
          have hnamed : Path.split path ≠ [] := by
            intro hnil
            simp [hnil] at hname
          exact absurd ⟨hnamed, by simpa using hfree, p, hp, by simpa using hown⟩ h

/-- A creation fails exactly when there is no room. -/
theorem create_error_iff {m : Mailbox} {path : Text} (kind : FolderKind) :
    (∃ e, m.create path kind = .error e) ↔ ¬ m.HasRoom path := by
  constructor
  · rintro ⟨e, he⟩ hroom
    rw [create_of_hasRoom hroom] at he
    cases he
  · exact fun h => create_of_not_hasRoom h kind

/-! ## Histories -/

/-- The folder that an operation creates, if it creates one. -/
def made? (m : Mailbox) : Operation → Option Folder
  | .createFolder path => (m.createFolder path).toOption.map (·.1)
  | .createMountpoint path owner remoteId =>
    (m.createMountpoint path owner remoteId).toOption.map (·.1)
  | .createTag _ | .addMessage _ => none

/-- The folders that a history creates, in order. -/
def made (m : Mailbox) : List Operation → List Folder
  | [] => []
  | o :: ops => (m.made? o).toList ++ (m.apply o).made ops

/-- What a request does to the folders: nothing, or it adds one where there is room. -/
inductive Growth (m next : Mailbox) : Option Folder → Prop
  | nothing (hfolders : next.folders = m.folders) (hnext : next.nextFolder = m.nextFolder) :
      Growth m next none
  | folder (path : Text) (kind : FolderKind) (hroom : m.HasRoom path)
      (hfolders : next.folders = m.folders ++ [m.newFolder path kind])
      (hnext : next.nextFolder = m.nextFolder + 1) :
      Growth m next (some (m.newFolder path kind))

theorem growth_create (m : Mailbox) (path : Text) (kind : FolderKind) :
    Growth m (m.created (m.create path kind)) ((m.create path kind).toOption.map (·.1)) := by
  by_cases hroom : m.HasRoom path
  · rw [create_of_hasRoom hroom]
    exact .folder path kind hroom rfl rfl
  · obtain ⟨e, he⟩ := create_of_not_hasRoom hroom kind
    rw [he]
    exact .nothing rfl rfl

theorem apply_growth (m : Mailbox) (o : Operation) : Growth m (m.apply o) (m.made? o) := by
  cases o with
  | createFolder path => exact growth_create m path .own
  | createMountpoint path owner remoteId => exact growth_create m path (.mounted ⟨owner, remoteId⟩)
  | createTag name =>
    show Growth m (m.created (m.createTag name)) none
    unfold createTag
    split
    · exact .nothing rfl rfl
    · exact .nothing rfl rfl
  | addMessage f =>
    exact .nothing (folders_addMessage m f) (sameSetup_addMessage m f).nextFolder

/-- A request as growth of the folders, for case analysis. -/
theorem exists_growth (m : Mailbox) (o : Operation) :
    ∃ next f, m.apply o = next ∧ m.made? o = f ∧ Growth m next f :=
  ⟨_, _, rfl, rfl, apply_growth m o⟩

/-- The folders of a mailbox are those it had and those that were created since. -/
theorem folders_run (m : Mailbox) (ops : List Operation) :
    (m.run ops).folders = m.folders ++ m.made ops := by
  induction ops generalizing m with
  | nil => exact (List.append_nil _).symm
  | cons o ops ih =>
    rw [run_cons, ih, made]
    obtain ⟨next, f, hnext, hmade, hgrowth⟩ := exists_growth m o
    rw [hnext, hmade]
    cases hgrowth with
    | nothing hfolders => rw [hfolders, Option.toList_none, List.nil_append]
    | folder path kind hroom hfolders => rw [hfolders, Option.toList_some, List.append_assoc]

/-- The counter goes up with each folder, as long as it is not overrun. -/
theorem Growth.toNat_nextFolder {m next : Mailbox} {f : Option Folder} (h : Growth m next f)
    (hbound : m.nextFolder.toNat + f.toList.length < 2 ^ 32) :
    next.nextFolder.toNat = m.nextFolder.toNat + f.toList.length := by
  cases h with
  | nothing hfolders hnext => rw [hnext, Option.toList_none, List.length_nil, Nat.add_zero]
  | folder path kind hroom hfolders hnext =>
    rw [Option.toList_some, List.length_singleton] at hbound ⊢
    rw [hnext, UInt32.toNat_add, UInt32.toNat_one]
    omega

/-- The folders that a history creates get numbers that follow one another. -/
theorem ids_made {m : Mailbox} {ops : List Operation}
    (h : m.nextFolder.toNat + (m.made ops).length < 2 ^ 32) :
    (m.made ops).map (·.id.toNat) =
      List.range' m.nextFolder.toNat (m.made ops).length := by
  induction ops generalizing m with
  | nil => rfl
  | cons o ops ih =>
    rw [made] at h ⊢
    obtain ⟨next, f, hnext, hmade, hgrowth⟩ := exists_growth m o
    rw [hnext, hmade, List.length_append] at h ⊢
    have hcounter := hgrowth.toNat_nextFolder (by omega)
    have hids := ih (m := next) (by omega)
    rw [List.map_append, hids, hcounter, ← List.range'_append_1]
    cases hgrowth with
    | nothing => rfl
    | folder => rfl

/-- A history leads to a reachable mailbox when the folders that it creates do not overrun the
counter. -/
theorem Reachable.run {m : Mailbox} (hm : m.Reachable) {ops : List Operation}
    (h : m.nextFolder.toNat + (m.made ops).length < 2 ^ 32) : (m.run ops).Reachable := by
  induction ops generalizing m with
  | nil => exact hm
  | cons o ops ih =>
    rw [made, List.length_append] at h
    have hcounter := (apply_growth m o).toNat_nextFolder (by omega)
    have hnext : (m.apply o).Reachable := by
      refine hm.apply o (UInt32.le_iff_toNat_le.2 ?_)
      omega
    exact ih hnext (by omega)

end Postroom.Mailbox
