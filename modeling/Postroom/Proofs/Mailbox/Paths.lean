import Mathlib.Data.List.DropRight
import Mathlib.Data.List.Forall2
import Mathlib.Data.List.TakeWhile
import Postroom.Mailbox.Path
import Postroom.Proofs.Text.Pieces

/-!
# Segments of paths

The segments of a path are texts without a delimiter that trimming leaves alone, which are those
without a blank at either end (`Text.trim_eq_self_iff`).  Segments that are written as a relative
path are read as the same list again, so a rest of a path can be handed on as text.  The same holds
of segments that are written in the normal form, and two such paths are the same name exactly when
their segments are (`Path.sameName_join_iff`).
-/

namespace Postroom

namespace Text

theorem trimStart_of_head {t : Text} (h : ∀ c, t.head? = some c → isBlank c = false) :
    trimStart t = t := by
  refine List.dropWhile_eq_self_iff.2 ?_
  intro hlen
  rw [h _ (List.head?_eq_getElem? .. ▸ List.getElem?_eq_getElem hlen)]
  exact Bool.false_ne_true

theorem trimEnd_of_last {t : Text} (h : ∀ c, t.getLast? = some c → isBlank c = false) :
    trimEnd t = t := by
  refine List.rdropWhile_eq_self_iff.2 ?_
  intro hne
  rw [h _ (List.getLast?_eq_some_getLast hne)]
  exact Bool.false_ne_true

theorem not_isBlank_of_head?_trim {t : Text} {c : Char} (h : (trim t).head? = some c) :
    isBlank c = false := by
  -- a trimmed text begins as it did before its trailing blanks were taken off
  obtain ⟨blanks, hblanks⟩ : trim t <+: trimStart t := List.rdropWhile_prefix isBlank _
  cases htrim : trim t with
  | nil => simp [htrim] at h
  | cons first rest =>
    rw [htrim] at h hblanks
    obtain rfl : first = c := by simpa using h
    exact trimStart_head hblanks.symm

theorem not_isBlank_of_getLast?_trim {t : Text} {c : Char} (h : (trim t).getLast? = some c) :
    isBlank c = false := by
  obtain ⟨hne, rfl⟩ := List.mem_getLast?_eq_getLast h
  exact Bool.eq_false_iff.2 (List.rdropWhile_last_not isBlank (trimStart t) hne)

/-- The texts that trimming leaves alone are those without a blank at either end. -/
theorem trim_eq_self_iff {t : Text} :
    trim t = t ↔ (∀ c, t.head? = some c → isBlank c = false) ∧
      ∀ c, t.getLast? = some c → isBlank c = false := by
  constructor
  · intro htrim
    rw [← htrim]
    exact ⟨fun c => not_isBlank_of_head?_trim, fun c => not_isBlank_of_getLast?_trim⟩
  · rintro ⟨hhead, hlast⟩
    rw [trim, trimStart_of_head hhead, trimEnd_of_last hlast]

/-- A trimmed text is left alone when it is trimmed again. -/
theorem trim_trim (t : Text) : trim (trim t) = trim t :=
  trim_eq_self_iff.2 ⟨fun _ => not_isBlank_of_head?_trim, fun _ => not_isBlank_of_getLast?_trim⟩

end Text

namespace Path

/-- A text that can be a segment of a path. -/
structure IsSegment (s : Text) : Prop where
  nonempty : s ≠ []
  trimmed : Text.trim s = s
  undelimited : ∀ c ∈ s, (c == delimiter) = false

theorem isSegment_iff_trim {s : Text} :
    IsSegment s ↔ s ≠ [] ∧ delimiter ∉ s ∧ Text.trim s = s := by
  constructor
  · intro h
    exact ⟨h.nonempty, fun hmem => by simpa using h.undelimited delimiter hmem, h.trimmed⟩
  · rintro ⟨hne, hmem, htrim⟩
    refine ⟨hne, htrim, fun c hc => beq_eq_false_iff_ne.2 ?_⟩
    rintro rfl
    exact hmem hc

instance (s : Text) : Decidable (IsSegment s) :=
  decidable_of_iff' _ isSegment_iff_trim

theorem isSegment_iff {s : Text} :
    IsSegment s ↔ s ≠ [] ∧ delimiter ∉ s ∧ (∀ c, s.head? = some c → isBlank c = false) ∧
      ∀ c, s.getLast? = some c → isBlank c = false := by
  rw [isSegment_iff_trim, Text.trim_eq_self_iff]

theorem mem_of_mem_trim {t : Text} {c : Char} (h : c ∈ Text.trim t) : c ∈ t :=
  (List.dropWhile_suffix isBlank).subset ((List.rdropWhile_prefix isBlank _).subset h)

theorem isSegment_of_mem_split {path s : Text} (h : s ∈ split path) : IsSegment s := by
  obtain ⟨hmem, hne⟩ := List.mem_filter.1 h
  obtain ⟨piece, hpiece, rfl⟩ := List.mem_map.1 hmem
  refine ⟨by simpa using hne, Text.trim_trim piece, ?_⟩
  intro c hc
  exact Text.not_cut_of_mem_pieces hpiece c (mem_of_mem_trim hc)

/-- Segments are neither trimmed nor dropped any more. -/
theorem filter_map_trim {segments : List Text} (h : ∀ s ∈ segments, IsSegment s) :
    (segments.map Text.trim).filter (fun s => !s.isEmpty) = segments := by
  have htrim : segments.map Text.trim = segments :=
    (List.map_congr_left fun s hs => (h s hs).trimmed).trans (List.map_id segments)
  rw [htrim]
  exact List.filter_eq_self.2 fun s hs => by simpa using (h s hs).nonempty

/-- Segments that are written as a relative path are read as the same segments. -/
theorem split_relative {segments : List Text} (h : ∀ s ∈ segments, IsSegment s) :
    split (relative segments) = segments := by
  by_cases hnil : segments = []
  · subst hnil
    rfl
  · have hpieces : Text.pieces (· == delimiter) (relative segments) = segments :=
      Text.pieces_join hnil fun s hs => (h s hs).undelimited
    rw [split, hpieces, filter_map_trim h]

theorem relative_eq_nil_iff {segments : List Text} (h : ∀ s ∈ segments, IsSegment s) :
    relative segments = [] ↔ segments = [] := by
  constructor
  · intro hnil
    rw [← split_relative h, hnil]
    rfl
  · rintro rfl
    rfl

/-! ## Normal forms -/

/-- A delimiter stands in front of each segment, so there is an empty piece in front of them all. -/
theorem pieces_prefixed {segments : List Text}
    (h : ∀ s ∈ segments, ∀ c ∈ s, (c == delimiter) = false) :
    Text.pieces (· == delimiter) (prefixed segments) = [] :: segments :=
  Text.pieces_behind h

/-- Segments that are written in the normal form are read as the same segments. -/
theorem split_join {segments : List Text} (h : ∀ s ∈ segments, IsSegment s) :
    split (join segments) = segments := by
  cases segments with
  | nil => rfl
  | cons s rest =>
    have hpieces : Text.pieces (· == delimiter) (join (s :: rest)) = [] :: s :: rest :=
      pieces_prefixed fun t ht => (h t ht).undelimited
    -- the empty piece is dropped
    rw [split, hpieces, List.map_cons, List.filter_cons_of_neg (by decide), filter_map_trim h]

theorem split_join_split (path : Text) : split (join (split path)) = split path :=
  split_join fun _ hs => isSegment_of_mem_split hs

/-! ## Names up to case -/

/-- The lists have as many segments, and each is the same name as its counterpart. -/
abbrev SameSegments : List Text → List Text → Prop :=
  List.Forall₂ fun s s' => Text.sameName s s' = true

theorem sameSegments_iff {segments segments' : List Text} :
    SameSegments segments segments' ↔
      segments.map (List.map Char.toLower) = segments'.map (List.map Char.toLower) := by
  rw [← List.forall₂_eq_eq_eq, List.forall₂_map_left_iff, List.forall₂_map_right_iff]
  simp only [SameSegments, Text.sameName_iff]

theorem toLower_eq_delimiter_iff {c : Char} : c.toLower = delimiter ↔ c = delimiter := by
  unfold Char.toLower
  split
  · rename_i hupper
    -- a capital letter is no delimiter, and neither is its small form
    have hlow : 65 ≤ c.val.toNat := UInt32.le_iff_toNat_le.1 hupper.1
    have hhigh : c.val.toNat ≤ 90 := UInt32.le_iff_toNat_le.1 hupper.2
    constructor
    · intro heq
      have hval : (c.val + 32).toNat = 47 := congrArg (fun d : Char => d.val.toNat) heq
      rw [UInt32.toNat_add] at hval
      simp only [UInt32.reduceToNat] at hval
      omega
    · rintro rfl
      exact absurd hlow (by decide)
  · rfl

theorem map_toLower_join (segments : List Text) :
    (join segments).map Char.toLower = join (segments.map (List.map Char.toLower)) := by
  have hprefixed : (prefixed segments).map Char.toLower =
      prefixed (segments.map (List.map Char.toLower)) := by
    induction segments with
    | nil => rfl
    | cons s segments ih =>
      show _ :: (s ++ prefixed segments).map Char.toLower = delimiter :: (_ ++ prefixed _)
      rw [List.map_append, ih, toLower_eq_delimiter_iff.2 rfl]
  unfold join
  rw [List.isEmpty_map]
  split
  · rfl
  · exact hprefixed

theorem SameSegments.sameName_join {segments segments' : List Text}
    (h : SameSegments segments segments') :
    Text.sameName (join segments) (join segments') = true := by
  rw [Text.sameName_iff, map_toLower_join, map_toLower_join, sameSegments_iff.1 h]

/-- A text that can stand between delimiters, blanks at its ends or not. -/
def IsPlain (s : Text) : Prop :=
  s ≠ [] ∧ ∀ c ∈ s, (c == delimiter) = false

theorem IsSegment.isPlain_toLower {s : Text} (h : IsSegment s) : IsPlain (s.map Char.toLower) := by
  refine ⟨by simpa using h.nonempty, ?_⟩
  intro _ hmem
  obtain ⟨c, hc, rfl⟩ := List.mem_map.1 hmem
  have hne : c ≠ delimiter := by simpa using h.undelimited c hc
  simpa using mt toLower_eq_delimiter_iff.1 hne

/-- Plain texts are found again in their path, so different ones have different paths. -/
theorem join_injective {segments segments' : List Text} (h : ∀ s ∈ segments, IsPlain s)
    (h' : ∀ s ∈ segments', IsPlain s) (hjoin : join segments = join segments') :
    segments = segments' := by
  have hpieces : ∀ {ss : List Text}, (∀ s ∈ ss, IsPlain s) →
      Text.pieces (· == delimiter) (join ss) = [] :: if ss.isEmpty then [[]] else ss := by
    intro ss hss
    unfold join
    split
    · rfl
    · exact pieces_prefixed fun s hs => (hss s hs).2
  have heq : (if segments.isEmpty then [[]] else segments) =
      if segments'.isEmpty then [[]] else segments' := by
    simpa only [hpieces h, hpieces h', List.cons.injEq, true_and] using
      congrArg (Text.pieces (· == delimiter)) hjoin
  -- the root has one piece more than segments, and that piece is empty
  cases segments with
  | nil =>
    cases segments' with
    | nil => rfl
    | cons s rest =>
      obtain ⟨hs, -⟩ : [] = s ∧ [] = rest := by simpa using heq
      exact absurd hs.symm (h' s List.mem_cons_self).1
  | cons s rest =>
    cases segments' with
    | nil =>
      obtain ⟨hs, -⟩ : s = [] ∧ rest = [] := by simpa using heq
      exact absurd hs (h s List.mem_cons_self).1
    | cons s' rest' => simpa using heq

/-- **Paths are compared segment by segment.**  Two paths are the same name exactly when they have
as many segments and each is the same name as its counterpart. -/
theorem sameName_join_iff {segments segments' : List Text} (h : ∀ s ∈ segments, IsSegment s)
    (h' : ∀ s ∈ segments', IsSegment s) :
    Text.sameName (join segments) (join segments') = true ↔ SameSegments segments segments' := by
  constructor
  · intro hsame
    rw [Text.sameName_iff, map_toLower_join, map_toLower_join] at hsame
    refine sameSegments_iff.2 (join_injective ?_ ?_ hsame)
    · exact List.forall_mem_map.2 fun s hs => (h s hs).isPlain_toLower
    · exact List.forall_mem_map.2 fun s hs => (h' s hs).isPlain_toLower
  · exact SameSegments.sameName_join

/-- **Splitting and joining are inverse on normal forms.**  A segment is a text that is not empty,
holds no delimiter and has no blank at either end.  Every path is split into segments, and the
normal form of a path is split as the path is.  Every list of segments is the one that its path is
split into, and two such lists have paths of the same name exactly when they have as many segments
and each is the same name as its counterpart. -/
theorem split_inverts_join :
    (∀ s : Text, IsSegment s ↔ s ≠ [] ∧ '/' ∉ s ∧
        (∀ c, s.head? = some c → isBlank c = false) ∧
        ∀ c, s.getLast? = some c → isBlank c = false) ∧
      (∀ path, (∀ s ∈ split path, IsSegment s) ∧ split (join (split path)) = split path) ∧
      (∀ segments : List Text, (∀ s ∈ segments, IsSegment s) →
        split (join segments) = segments) ∧
      ∀ segments segments' : List Text, (∀ s ∈ segments, IsSegment s) →
        (∀ s ∈ segments', IsSegment s) →
        (List.Forall₂ (fun s s' => Text.sameName s s' = true) segments segments' ↔
          Text.sameName (join segments) (join segments') = true) :=
  ⟨fun _ => isSegment_iff,
    fun path => ⟨fun _ hs => isSegment_of_mem_split hs, split_join_split path⟩,
    fun _ h => split_join h,
    fun _ _ h h' => (sameName_join_iff h h').symm⟩

/-- Capital letters make no difference to a path but for those beyond the ASCII ones. -/
theorem split_inverts_join_respelled :
    let segments : List Text := ["Work".toList, "Äpfel 2022".toList]
    let respelled : List Text := ["WORK".toList, "ÄPFEL 2022".toList]
    let other : List Text := ["Work".toList, "äpfel 2022".toList]
    (∀ s ∈ segments, IsSegment s) ∧ (∀ s ∈ respelled, IsSegment s) ∧ (∀ s ∈ other, IsSegment s) ∧
      split (join segments) = segments ∧
      Text.sameName (join segments) (join respelled) = true ∧
      Text.sameName (join segments) (join other) = false := by
  intro segments respelled other
  have h₁ : ∀ s ∈ segments, IsSegment s := by decide
  have h₂ : ∀ s ∈ respelled, IsSegment s := by decide
  have h₃ : ∀ s ∈ other, IsSegment s := by decide
  obtain ⟨-, -, hsplit, hnames⟩ := split_inverts_join
  exact ⟨h₁, h₂, h₃, hsplit segments h₁, (hnames segments respelled h₁ h₂).1 (by decide),
    Bool.eq_false_iff.2 (mt (hnames segments other h₁ h₃).2 (by decide))⟩

end Path

end Postroom
