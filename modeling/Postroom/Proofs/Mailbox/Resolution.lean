import Postroom.Proofs.Mailbox.Growth
import Postroom.Proofs.Mailbox.Paths

/-!
# Where paths lead

In every mailbox that can be reached, no two folders have the same path up to case.  A path leads to
the folder of the longest part of it that has one (`Mailbox.resolve_longest`), and what is left are
the segments behind that part.
-/

namespace Postroom.Mailbox

/-! ## Paths of folders -/

theorem folderAt?_eq_none_iff {m : Mailbox} {path : Text} :
    m.folderAt? path = none ↔ ∀ f ∈ m.folders, Text.sameName f.path path = false := by
  simp [folderAt?]

/-- Of things with different names, the one that has a name is found by it. -/
theorem find?_of_distinct {α : Type} {nameOf : α → Text} {items : List α}
    (h : items.Pairwise fun a b => Text.sameName (nameOf a) (nameOf b) = false) {a : α}
    {name : Text} (ha : a ∈ items) (hname : Text.sameName (nameOf a) name = true) :
    (items.find? fun b => Text.sameName (nameOf b) name) = some a := by
  obtain ⟨n, hn, rfl⟩ := List.getElem_of_mem ha
  refine List.find?_eq_some_iff_getElem.2 ⟨hname, n, hn, rfl, ?_⟩
  intro j hj
  have hother := List.pairwise_iff_getElem.1 h j n (Nat.lt_trans hj hn) hn hj
  -- an earlier one of this name would have the same name as the one at hand
  have hne : Text.sameName (nameOf items[j]) name ≠ true := by
    intro hsame
    rw [Text.sameName_trans hsame (Text.sameName_symm hname)] at hother
    cases hother
  simpa using hne

/-- No two folders of a reachable mailbox have the same path up to case. -/
theorem Reachable.distinct_paths {m : Mailbox} (h : m.Reachable) :
    m.folders.Pairwise fun f g => Text.sameName f.path g.path = false := by
  induction h with
  | new account token =>
    show systemFolders.Pairwise fun f g => Text.sameName f.path g.path = false
    decide +kernel
  | @apply m h o hnext ih =>
    obtain ⟨next, f, happly, -, hgrowth⟩ := exists_growth m o
    rw [happly]
    cases hgrowth with
    | nothing hfolders => rwa [hfolders]
    | folder path kind hroom hfolders =>
      rw [hfolders]
      refine List.pairwise_append.2 ⟨ih, List.pairwise_singleton _ _, ?_⟩
      intro g hg f hf
      obtain rfl := List.mem_singleton.1 hf
      exact folderAt?_eq_none_iff.1 hroom.free g hg

/-- A path up to case is the path of one folder at most, and that folder is found by it. -/
theorem Reachable.folderAt?_of_mem {m : Mailbox} (h : m.Reachable) {f : Folder} {path : Text}
    (hf : f ∈ m.folders) (hpath : Text.sameName f.path path = true) :
    m.folderAt? path = some f :=
  find?_of_distinct h.distinct_paths hf hpath

theorem mem_of_folderAt? {m : Mailbox} {path : Text} {f : Folder}
    (h : m.folderAt? path = some f) : f ∈ m.folders ∧ Text.sameName f.path path = true :=
  ⟨List.mem_of_find?_eq_some h, by simpa using List.find?_some h⟩

/-! ## The longest part of a path -/

/-- The search starts with the longest part of a path and stops at the first one that is the path of
a folder; there is one when the shortest part that it tries is. -/
theorem deepest_longest {m : Mailbox} {segments : List Text} {least : ℕ} {f : Folder}
    (h : m.folderAt? (Path.join (segments.take least)) = some f) (extra : ℕ) :
    ∃ n found, least ≤ n ∧ n ≤ least + extra ∧
      m.deepest segments least extra = some (found, segments.drop n) ∧
      m.folderAt? (Path.join (segments.take n)) = some found ∧
      ∀ k, n < k → k ≤ least + extra → m.folderAt? (Path.join (segments.take k)) = none := by
  induction extra with
  | zero =>
    refine ⟨least, f, le_rfl, le_rfl, ?_, h, fun k hlt hle => absurd hle (Nat.not_le.2 hlt)⟩
    simp [deepest, h]
  | succ extra ih =>
    rw [deepest]
    cases hwhole : m.folderAt? (Path.join (segments.take (least + (extra + 1)))) with
    | some g =>
      exact ⟨least + (extra + 1), g, Nat.le_add_right _ _, le_rfl, rfl, hwhole,
        fun k hlt hle => absurd hle (Nat.not_le.2 hlt)⟩
    | none =>
      obtain ⟨n, found, hleast, hmost, hdeepest, hfound, hlonger⟩ := ih
      refine ⟨n, found, hleast, by omega, hdeepest, hfound, ?_⟩
      intro k hlt hle
      rcases Nat.lt_or_ge k (least + (extra + 1)) with hk | hk
      · exact hlonger k hlt (by omega)
      · obtain rfl : k = least + (extra + 1) := by omega
        exact hwhole

/-- **A path below a folder leads to the folder of its longest part that has one.**  The path of the
folder goes in front of it.  The first segments of both are the path of what is found up to case, no
longer part of them is the path of a folder, and the segments behind are left. -/
theorem resolve_longest {m : Mailbox} {root : FolderId} {f : Folder}
    (hroot : m.folder? root = some f)
    (habove : m.folderAt? (Path.join (Path.split f.path)) = some f) (path : Text) :
    let above := Path.split f.path
    let segments := above ++ Path.split path
    ∃ n found, above.length ≤ n ∧ n ≤ segments.length ∧
      m.deepest segments above.length (Path.split path).length = some (found, segments.drop n) ∧
      m.folderAt? (Path.join (segments.take n)) = some found ∧
      (∀ k, n < k → k ≤ segments.length →
        m.folderAt? (Path.join (segments.take k)) = none) ∧
      m.resolve root path = .ok (.partway found (Path.relative (segments.drop n))) := by
  intro above segments
  have hleast : m.folderAt? (Path.join (segments.take above.length)) = some f := by
    rw [List.take_left]
    exact habove
  obtain ⟨n, found, hlow, hhigh, hdeepest, hfound, hlonger⟩ :=
    deepest_longest hleast (Path.split path).length
  rw [← List.length_append] at hhigh hlonger
  refine ⟨n, found, hlow, hhigh, hdeepest, hfound, hlonger, ?_⟩
  simp only [resolve, hroot]
  rw [hdeepest]

theorem Rooted.folderAt?_root {m : Mailbox} (h : m.Rooted) :
    m.folderAt? (Path.join []) = some (systemFolder .root "") := by
  obtain ⟨created, hcreated⟩ := h.system
  simp [folderAt?, ← hcreated, systemFolders, systemFolder, Text.sameName]

/-- What a path leads to from the root on. -/
theorem Rooted.resolve_root_longest {m : Mailbox} (h : m.Rooted) (path : Text) :
    ∃ n f, m.folderAt? (Path.join ((Path.split path).take n)) = some f ∧
      (∀ k, n < k → k ≤ (Path.split path).length →
        m.folderAt? (Path.join ((Path.split path).take k)) = none) ∧
      n ≤ (Path.split path).length ∧
      m.resolve .root path = .ok (.partway f (Path.relative ((Path.split path).drop n))) := by
  have hroot : m.folder? .root = some (systemFolder .root "") := h.folder?_system rfl
  have habove : Path.split (systemFolder .root "").path = [] := by decide
  obtain ⟨n, found, -, hn, -, hfound, hlonger, hresolve⟩ :=
    resolve_longest hroot (habove ▸ h.folderAt?_root) path
  rw [habove, List.nil_append] at hn hfound hlonger hresolve
  exact ⟨n, found, hfound, hlonger, hn, hresolve⟩

end Postroom.Mailbox
