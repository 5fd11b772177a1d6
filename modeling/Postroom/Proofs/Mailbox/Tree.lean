import Postroom.Proofs.Mailbox.Resolution

/-!
# The tree of folders

Folders are only ever added below folders of the mailbox itself, so they form a tree: its edges are
the segments of paths up to case, and mountpoints are leaves.

* `Mailbox.InPlace` — a folder whose path is in the normal form and has a folder above it;
* `Mailbox.Reachable.hasOwnFolder_take` — every part of a folder's path is the path of a folder;
* `Mailbox.run_new_tree` — what holds of the folders after any history.
-/

namespace Postroom.Mailbox

/-- A folder of the mailbox itself has this path up to case. -/
def HasOwnFolder (m : Mailbox) (path : Text) : Prop :=
  ∃ p ∈ m.folders, Text.sameName p.path path = true ∧ p.isMountpoint = false

/-- The path of the folder is in the normal form, its last segment is the name of the folder, and
unless the folder is the root there is one above it that can hold it. -/
structure InPlace (m : Mailbox) (f : Folder) : Prop where
  normal : Path.join (Path.split f.path) = f.path
  named : f.name = (Path.split f.path).getLast?.getD []
  parent : f.id ≠ .root → m.HasOwnFolder (Path.join (Path.split f.path).dropLast)

variable {m : Mailbox}

theorem HasOwnFolder.mono {next : Mailbox} (h : m.folders ⊆ next.folders) {path : Text}
    (hown : m.HasOwnFolder path) : next.HasOwnFolder path := by
  obtain ⟨p, hp, hpath⟩ := hown
  exact ⟨p, h hp, hpath⟩

theorem HasOwnFolder.congr {path path' : Text} (h : Text.sameName path path' = true)
    (hown : m.HasOwnFolder path) : m.HasOwnFolder path' := by
  obtain ⟨p, hp, hpath, hmount⟩ := hown
  exact ⟨p, hp, Text.sameName_trans hpath h, hmount⟩

theorem InPlace.mono {next : Mailbox} (h : m.folders ⊆ next.folders) {f : Folder}
    (hf : m.InPlace f) : next.InPlace f :=
  ⟨hf.normal, hf.named, fun hroot => (hf.parent hroot).mono h⟩

/-! ## Every folder is in its place -/

theorem inPlace_system (account : Text) (token : Option AuthToken) {f : Folder}
    (hf : f ∈ systemFolders) : (new account token).InPlace f := by
  have hall : ∀ f ∈ systemFolders, Path.join (Path.split f.path) = f.path ∧
      f.name = (Path.split f.path).getLast?.getD [] ∧
      (f.id ≠ .root → ∃ p ∈ systemFolders,
        Text.sameName p.path (Path.join (Path.split f.path).dropLast) = true ∧
          p.isMountpoint = false) := by
    decide +kernel
  obtain ⟨hnormal, hnamed, hparent⟩ := hall f hf
  exact ⟨hnormal, hnamed, hparent⟩

/-- A folder that is created where there is room is in its place. -/
theorem HasRoom.inPlace {path : Text} (h : m.HasRoom path) (kind : FolderKind) :
    m.InPlace (m.newFolder path kind) := by
  have hsplit : Path.split (m.newFolder path kind).path = Path.split path :=
    Path.split_join_split path
  refine ⟨?_, ?_, fun _ => ?_⟩
  · rw [hsplit]
    rfl
  · rw [hsplit]
    rfl
  · obtain ⟨p, hp, hmount⟩ := h.parent
    obtain ⟨hmem, hpath⟩ := mem_of_folderAt? hp
    rw [hsplit]
    exact ⟨p, hmem, hpath, hmount⟩

theorem Reachable.inPlace (hm : m.Reachable) {f : Folder} (hf : f ∈ m.folders) : m.InPlace f := by
  induction hm with
  | new account token => exact inPlace_system account token hf
  | @apply m h o hnext ih =>
    obtain ⟨next, made, happly, -, hgrowth⟩ := exists_growth m o
    rw [happly] at hf ⊢
    cases hgrowth with
    | nothing hfolders =>
      have hkept : m.folders ⊆ next.folders := by
        rw [hfolders]
        exact List.Subset.refl _
      exact (ih (hfolders ▸ hf)).mono hkept
    | folder path kind hroom hfolders =>
      have hkept : m.folders ⊆ next.folders := by
        rw [hfolders]
        exact List.subset_append_left _ _
      rw [hfolders] at hf
      rcases List.mem_append.1 hf with hf | hf
      · exact (ih hf).mono hkept
      · obtain rfl := List.mem_singleton.1 hf
        exact (hroom.inPlace kind).mono hkept

/-! ## Parts of paths -/

/-- Only one folder has a path up to case. -/
theorem Reachable.eq_of_sameName (hm : m.Reachable) {f g : Folder} (hf : f ∈ m.folders)
    (hg : g ∈ m.folders) (h : Text.sameName f.path g.path = true) : f = g :=
  Option.some_inj.1 ((hm.folderAt?_of_mem hf h).symm.trans
    (hm.folderAt?_of_mem hg (Text.sameName_refl g.path)))

/-- The root is the folder without segments. -/
theorem Rooted.split_path_root (h : m.Rooted) {f : Folder} (hf : f ∈ m.folders)
    (hroot : f.id = .root) : Path.split f.path = [] := by
  have hfound : m.folder? .root = some f := hroot ▸ h.folder?_of_mem hf
  obtain rfl : systemFolder .root "" = f :=
    Option.some_inj.1 ((h.folder?_system rfl).symm.trans hfound)
  decide

/-- Two paths of folders are the same name when their segments are. -/
theorem Reachable.sameSegments (hm : m.Reachable) {f : Folder} (hf : f ∈ m.folders)
    {segments : List Text} (hsegments : ∀ s ∈ segments, Path.IsSegment s)
    (h : Text.sameName f.path (Path.join segments) = true) :
    Path.SameSegments (Path.split f.path) segments := by
  rw [← (hm.inPlace hf).normal] at h
  exact (Path.sameName_join_iff (fun _ hs => Path.isSegment_of_mem_split hs) hsegments).1 h

/-- **Every part of a folder's path is the path of a folder,** which is no mountpoint. -/
theorem Reachable.hasOwnFolder_take (hm : m.Reachable) {f : Folder} (hf : f ∈ m.folders) {n : ℕ}
    (hn : n < (Path.split f.path).length) :
    m.HasOwnFolder (Path.join ((Path.split f.path).take n)) := by
  -- from each folder to the one above it, which has one segment less
  induction hlength : (Path.split f.path).length generalizing f with
  | zero => omega
  | succ k ih =>
    have hroot : f.id ≠ .root := by
      intro hroot
      rw [hm.rooted.split_path_root hf hroot] at hn
      exact absurd hn (Nat.not_lt_zero n)
    obtain ⟨p, hp, hpath, hmount⟩ := (hm.inPlace hf).parent hroot
    have hlast : (Path.split f.path).dropLast = (Path.split f.path).take k := by
      rw [List.dropLast_eq_take, hlength, Nat.add_sub_cancel]
    rw [hlast] at hpath
    rcases Nat.lt_or_ge n k with hlt | hge
    · have hsame : Path.SameSegments (Path.split p.path) ((Path.split f.path).take k) :=
        hm.sameSegments hp
          (fun _ hs => Path.isSegment_of_mem_split (List.mem_of_mem_take hs)) hpath
      have hlengthp : (Path.split p.path).length = k := by
        rw [hsame.length_eq, List.length_take]
        omega
      have habove := ih hp (by omega) hlengthp
      have htake := Path.SameSegments.sameName_join (List.forall₂_take n hsame)
      rw [List.take_take, Nat.min_eq_left (Nat.le_of_lt hlt)] at htake
      exact habove.congr htake
    · obtain rfl : n = k := by omega
      exact ⟨p, hp, hpath, hmount⟩

/-- Mountpoints are leaves: no folder has a path that goes on behind that of a mountpoint. -/
theorem Reachable.not_below_mountpoint (hm : m.Reachable) {f g : Folder} (hf : f ∈ m.folders)
    (hmount : f.isMountpoint = true) (hg : g ∈ m.folders) {n : ℕ}
    (hn : n < (Path.split g.path).length) :
    Text.sameName f.path (Path.join ((Path.split g.path).take n)) = false := by
  obtain ⟨p, hp, hpath, hown⟩ := hm.hasOwnFolder_take hg hn
  by_contra hne
  have hsame : Text.sameName f.path p.path = true :=
    Text.sameName_trans (by simpa using hne) (Text.sameName_symm hpath)
  rw [hm.eq_of_sameName hf hp hsame, hown] at hmount
  cases hmount

/-- Room at a path, in terms of the folders there are. -/
theorem Reachable.hasRoom_iff (hm : m.Reachable) {path : Text} :
    m.HasRoom path ↔ Path.split path ≠ [] ∧
      (∀ f ∈ m.folders, Text.sameName f.path (Path.join (Path.split path)) = false) ∧
      m.HasOwnFolder (Path.join (Path.split path).dropLast) := by
  constructor
  · rintro ⟨hnamed, hfree, p, hp, hmount⟩
    obtain ⟨hmem, hpath⟩ := mem_of_folderAt? hp
    exact ⟨hnamed, folderAt?_eq_none_iff.1 hfree, p, hmem, hpath, hmount⟩
  · rintro ⟨hnamed, hfree, p, hp, hpath, hmount⟩
    exact ⟨hnamed, folderAt?_eq_none_iff.2 hfree, p, hm.folderAt?_of_mem hp hpath, hmount⟩

/-! ## Histories -/

/-- **The folders of a mailbox form a tree, whatever its history.**  They are the system folders and
those that were created, in order and with numbers from 256 on that follow one another, and a folder
that is there stays what it is.  Each is found by its number, no two have the same path up to case,
and each is in its place, with every part of its path the path of a folder that is no mountpoint.  A
creation fails exactly when its path names no more than the root, is the path of a folder, or has no
folder above it that can hold one, and then it leaves the mailbox alone. -/
theorem run_new_tree (account : Text) (token : Option AuthToken) (ops : List Operation)
    (hops : ((new account token).made ops).length < 2 ^ 32 - 256) :
    let m := (new account token).run ops
    let made := (new account token).made ops
    m.folders = systemFolders ++ made ∧
    made.map (·.id.toNat) = List.range' 256 made.length ∧
    (∀ before later, ops = before ++ later →
      ((new account token).run before).folders <+: m.folders) ∧
    (∀ f ∈ m.folders, m.folder? f.id = some f) ∧
    m.folders.Pairwise (fun f g => Text.sameName f.path g.path = false) ∧
    (∀ f ∈ m.folders, m.InPlace f) ∧
    (∀ f ∈ m.folders, ∀ n < (Path.split f.path).length,
      m.HasOwnFolder (Path.join ((Path.split f.path).take n))) ∧
    (∀ f ∈ m.folders, f.isMountpoint = true → ∀ g ∈ m.folders, ∀ n < (Path.split g.path).length,
      Text.sameName f.path (Path.join ((Path.split g.path).take n)) = false) ∧
    ∀ path kind,
      ((∃ e, m.create path kind = .error e) ↔
        Path.split path = [] ∨
        (∃ f ∈ m.folders, Text.sameName f.path (Path.join (Path.split path)) = true) ∨
        ¬ m.HasOwnFolder (Path.join (Path.split path).dropLast)) ∧
      ((∃ e, m.create path kind = .error e) → m.created (m.create path kind) = m) := by
  intro m made
  have hbound : (new account token).nextFolder.toNat + made.length < 2 ^ 32 := by
    show 256 + ((new account token).made ops).length < 2 ^ 32
    omega
  have hm : m.Reachable := (Reachable.new account token).run hbound
  refine ⟨folders_run _ ops, ids_made hbound, ?_, fun f hf => hm.rooted.folder?_of_mem hf,
    hm.distinct_paths, fun f hf => hm.inPlace hf, fun f hf n hn => hm.hasOwnFolder_take hf hn,
    fun f hf hmount g hg n hn => hm.not_below_mountpoint hf hmount hg hn, fun path kind => ⟨?_, ?_⟩⟩
  · rintro before later rfl
    rw [show m = _ from run_append _ before later, folders_run _ later]
    exact List.prefix_append _ _
  · rw [create_error_iff, hm.hasRoom_iff, not_and_or, not_and_or, not_ne_iff]
    simp
  · rintro ⟨e, he⟩
    rw [he]
    rfl

/-- Folders below folders in other spellings, a mountpoint, and requests that are refused: one below
the mountpoint, one for a folder that is there, one for the root and one without a parent. -/
theorem run_new_tree_respelled :
    let ops : List Operation := [.createFolder "/Work".toList,
      .createFolder " work // Projects/".toList,
      .createMountpoint "/WORK/Shared".toList "alice".toList 257,
      .createFolder "/Work/shared/News".toList, .createFolder "WORK/projects".toList,
      .createFolder " / ".toList, .createFolder "/Missing/Child".toList,
      .createFolder "/work/Projects/Old".toList]
    let m := (new "bob".toList none).run ops
    ((new "bob".toList none).made ops).length < 2 ^ 32 - 256 ∧
      (m.folders.drop 6).map (fun f => (f.id, String.ofList f.path)) =
        [(256, "/Work"), (257, "/work/Projects"), (258, "/WORK/Shared"),
          (259, "/work/Projects/Old")] ∧
      ∀ f ∈ m.folders, m.InPlace f := by
  intro ops m
  have hops : ((new "bob".toList none).made ops).length < 2 ^ 32 - 256 := by decide +kernel
  obtain ⟨-, -, -, -, -, hplaced, -⟩ := run_new_tree "bob".toList none ops hops
  exact ⟨hops, by decide +kernel, hplaced⟩

end Postroom.Mailbox
