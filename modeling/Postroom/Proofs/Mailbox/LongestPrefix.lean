import Postroom.Proofs.Mailbox.Tree

/-!
# The longest prefix of a path

Below any folder, a path leads to the folder of its longest prefix that is the path of one.  Since
folders form a tree and paths are compared segment by segment, that folder is the only one of its
path, it lies at or below the folder where the search began, and every shorter prefix down to that
folder is the path of a folder as well (`Mailbox.resolve_longest_prefix`).
-/

namespace Postroom.Mailbox

variable {m : Mailbox}

theorem folder?_eq_none_iff {id : FolderId} : m.folder? id = none ↔ ∀ f ∈ m.folders, f.id ≠ id := by
  simp [folder?]

/-- A folder that a search has found lies at or below the folder with the first segments. -/
theorem Reachable.sameSegments_take (hm : m.Reachable) {f : Folder} (hf : f ∈ m.folders)
    {segments : List Text} (hsegments : ∀ s ∈ segments, Path.IsSegment s) {j k : ℕ} (hjk : j ≤ k)
    (h : Text.sameName f.path (Path.join (segments.take k)) = true) :
    Path.SameSegments ((Path.split f.path).take j) (segments.take j) := by
  have hsame : Path.SameSegments (Path.split f.path) (segments.take k) :=
    hm.sameSegments hf (fun s hs => hsegments s (List.mem_of_mem_take hs)) h
  have htake := List.forall₂_take j hsame
  rwa [List.take_take, Nat.min_eq_left hjk] at htake

/-- Every prefix of a prefix that is the path of a folder is the path of a folder, too. -/
theorem Reachable.exists_prefix (hm : m.Reachable) {f : Folder} (hf : f ∈ m.folders)
    {segments : List Text} (hsegments : ∀ s ∈ segments, Path.IsSegment s) {j k : ℕ} (hjk : j ≤ k)
    (hk : k ≤ segments.length) (h : Text.sameName f.path (Path.join (segments.take k)) = true) :
    ∃ g ∈ m.folders, Text.sameName g.path (Path.join (segments.take j)) = true := by
  rcases Nat.eq_or_lt_of_le hjk with rfl | hlt
  · exact ⟨f, hf, h⟩
  · have hlength : (Path.split f.path).length = k := by
      rw [(hm.sameSegments hf (fun s hs => hsegments s (List.mem_of_mem_take hs)) h).length_eq,
        List.length_take, Nat.min_eq_left hk]
    obtain ⟨g, hg, hpath, -⟩ := hm.hasOwnFolder_take hf (n := j) (by omega)
    have hsame := (hm.sameSegments_take hf hsegments hjk h).sameName_join
    exact ⟨g, hg, Text.sameName_trans hpath hsame⟩

/-- **The search for a folder finds the longest prefix.**  From a number that no folder has, nothing
is found.  Otherwise the segments of the folder with that number and those of the path make one
list.  Its first `k` are the path of the folder that is found, no more of them are the path of a
folder, and the others are what is left, if there are any.  The folder that is found is the only one
of its path and lies at or below the one of that number, and every prefix between the two is the
path of a folder.  The search never ends without a folder. -/
theorem resolve_longest_prefix (hm : m.Reachable) (root : FolderId) (path : Text) :
    ((∀ f ∈ m.folders, f.id ≠ root) → m.resolve root path = .error (.folderUnknown root)) ∧
    ∀ f ∈ m.folders, f.id = root →
      let above := Path.split f.path
      let segments := above ++ Path.split path
      m.deepest segments above.length (Path.split path).length ≠ none ∧
      ∃ r k, m.resolve root path = .ok r ∧ r.folder ∈ m.folders ∧
        above.length ≤ k ∧ k ≤ segments.length ∧
        Text.sameName r.folder.path (Path.join (segments.take k)) = true ∧
        (∀ g ∈ m.folders, ∀ j, k < j → j ≤ segments.length →
          Text.sameName g.path (Path.join (segments.take j)) = false) ∧
        r.remaining = r.rest ∧ (r.rest = none ↔ k = segments.length) ∧
        (∀ rest, r.rest = some rest → Path.split rest = segments.drop k) ∧
        (∀ g ∈ m.folders, Text.sameName g.path r.folder.path = true → g = r.folder) ∧
        Path.SameSegments ((Path.split r.folder.path).take above.length) above ∧
        ∀ j, above.length ≤ j → j ≤ k →
          ∃ g ∈ m.folders, Text.sameName g.path (Path.join (segments.take j)) = true := by
  refine ⟨?_, ?_⟩
  · intro hnone
    rw [resolve, folder?_eq_none_iff.2 hnone]
  · rintro f hf rfl above segments
    have habove : m.folderAt? (Path.join (Path.split f.path)) = some f := by
      rw [(hm.inPlace hf).normal]
      exact hm.folderAt?_of_mem hf (Text.sameName_refl _)
    obtain ⟨k, found, hlow, (hhigh : k ≤ segments.length),
        (hdeepest : m.deepest segments above.length _ = some (found, segments.drop k)),
        hfound, hlonger, hresolve⟩ :=
      resolve_longest (hm.rooted.folder?_of_mem hf) habove path
    obtain ⟨hmem, hpath⟩ := mem_of_folderAt? hfound
    have hsegments : ∀ s ∈ segments, Path.IsSegment s := by
      intro s hs
      rcases List.mem_append.1 hs with hs | hs
      · exact Path.isSegment_of_mem_split hs
      · exact Path.isSegment_of_mem_split hs
    have hleft : ∀ s ∈ segments.drop k, Path.IsSegment s :=
      fun s hs => hsegments s (List.mem_of_mem_drop hs)
    refine ⟨?_, _, k, hresolve, hmem, hlow, hhigh, hpath, ?_, ?_, ?_, ?_, ?_, ?_, ?_⟩
    · rw [hdeepest]
      exact Option.some_ne_none _
    · exact fun g hg j hlt hle => folderAt?_eq_none_iff.1 (hlonger j hlt hle) g hg
    · exact Resolution.remaining_partway _ _
    · have hnil : segments.drop k = [] ↔ k = segments.length := by
        rw [List.drop_eq_nil_iff]
        omega
      rw [← hnil, ← Path.relative_eq_nil_iff hleft]
      show (if (Path.relative (segments.drop k)).isEmpty then none else some _) = none ↔ _
      simp
    · intro rest hrest
      obtain ⟨-, rfl⟩ : Path.relative (segments.drop k) ≠ [] ∧
          Path.relative (segments.drop k) = rest := by
        simpa [Resolution.partway] using hrest
      exact Path.split_relative hleft
    · exact fun g hg hsame => hm.eq_of_sameName hg hmem hsame
    · have hsame := hm.sameSegments_take hmem hsegments hlow hpath
      rwa [List.take_left] at hsame
    · exact fun j _ hjk => hm.exists_prefix hmem hsegments hjk hhigh hpath

/-- Below a folder that is not the root, a path in another spelling leads one folder further and
leaves two segments; from a number without a folder it leads nowhere. -/
theorem resolve_longest_prefix_respelled :
    let work := (new "bob".toList none).apply (.createFolder "/Work".toList)
    let m := work.apply (.createFolder "/work/Projects".toList)
    let path := " projects // Old/2022".toList
    m.Reachable ∧ m.resolve 300 path = .error (.folderUnknown 300) ∧
      ∃ r, m.resolve 256 path = .ok r ∧ r.folder ∈ m.folders ∧
        r.folder.path = "/work/Projects".toList ∧ r.rest = some "Old/2022".toList ∧
        ∀ g ∈ m.folders, Text.sameName g.path r.folder.path = true → g = r.folder := by
  intro work m path
  have hwork : work.Reachable := .apply (.new _ _) _ (by decide +kernel)
  have hm : m.Reachable := .apply hwork _ (by decide +kernel)
  have hf : ⟨256, "Work".toList, "/Work".toList, .own⟩ ∈ m.folders := by decide +kernel
  have hfound : m.resolve 256 path =
      .ok ⟨⟨257, "Projects".toList, "/work/Projects".toList, .own⟩, some "Old/2022".toList⟩ := by
    decide +kernel
  obtain ⟨hnone, -⟩ := resolve_longest_prefix hm 300 path
  obtain ⟨-, hsome⟩ := resolve_longest_prefix hm 256 path
  obtain ⟨-, r, k, hresolve, hmem, -, -, -, -, -, -, -, honly, -⟩ := hsome _ hf rfl
  obtain rfl := Except.ok.inj (hresolve.symm.trans hfound)
  exact ⟨hm, hnone (by decide +kernel), _, hfound, hmem, rfl, rfl, honly⟩

end Postroom.Mailbox
