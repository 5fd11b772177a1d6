import Postroom.Text.Basic
import Mathlib.Data.List.Basic

/-!
# Pieces of texts

A text that is cut at its separators can be put together again from its pieces where there is one
separator (`Text.join_pieces`).  Two texts with a separator between them are cut each for itself
(`Text.pieces_append_cut`), so what holds of a piece, and of a piece with a separator and more
behind it, holds of every text (`Text.pieces_induction`).  A text that is cut at its last separator
only is cut where no other one follows (`Text.splitLast_append_cons`).
-/

namespace Postroom.Text

variable {cut : Char → Bool}

theorem pieces_of_not_cut {t : Text} (h : ∀ c ∈ t, cut c = false) : pieces cut t = [t] := by
  induction t with
  | nil => rfl
  | cons c t ih =>
    obtain ⟨hc, ht⟩ := List.forall_mem_cons.1 h
    simp only [pieces, hc, ih ht]

/-- A text is cut at a separator, and what stands on either side of it for itself. -/
theorem pieces_append_cut (t : Text) {d : Char} (hd : cut d = true) (rest : Text) :
    pieces cut (t ++ d :: rest) = pieces cut t ++ pieces cut rest := by
  induction t with
  | nil => simp only [List.nil_append, pieces, hd, List.cons_append]
  | cons c t ih =>
    cases hc : cut c with
    | true => simp only [List.cons_append, pieces, hc, ih]
    | false =>
      cases hpieces : pieces cut t with
      | nil => exact absurd hpieces (pieces_ne_nil cut t)
      | cons first others =>
        simp only [List.cons_append, pieces, hc, ih, hpieces]

/-- The first piece ends at the first separator. -/
theorem pieces_append_cons {s : Text} (h : ∀ c ∈ s, cut c = false) {d : Char} (hd : cut d = true)
    (rest : Text) : pieces cut (s ++ d :: rest) = s :: pieces cut rest := by
  rw [pieces_append_cut s hd, pieces_of_not_cut h, List.singleton_append]

/-- A text without a separator lengthens the first piece of what follows it. -/
theorem pieces_append {s t first : Text} {rest : List Text} (h : ∀ c ∈ s, cut c = false)
    (ht : pieces cut t = first :: rest) : pieces cut (s ++ t) = (s ++ first) :: rest := by
  induction s with
  | nil => exact ht
  | cons c s ih =>
    obtain ⟨hc, hs⟩ := List.forall_mem_cons.1 h
    simp only [List.cons_append, pieces, hc, ih hs]

/-- A text is a piece, or it is a piece with a separator and another text behind it. -/
theorem pieces_induction (cut : Char → Bool) {motive : Text → Prop}
    (piece : ∀ p, (∀ c ∈ p, cut c = false) → motive p)
    (behind : ∀ p d rest, (∀ c ∈ p, cut c = false) → cut d = true → motive rest →
      motive (p ++ d :: rest)) (t : Text) : motive t := by
  -- the piece that has been read so far stands in front of what is left of the text
  have hfrom : ∀ p, (∀ c ∈ p, cut c = false) → motive (p ++ t) := by
    induction t with
    | nil =>
      intro p hp
      rw [List.append_nil]
      exact piece p hp
    | cons c t ih =>
      intro p hp
      cases hc : cut c with
      | true => exact behind p c t hp hc (ih [] (List.forall_mem_nil _))
      | false =>
        rw [List.append_cons]
        refine ih (p ++ [c]) ?_
        intro d hd
        rcases List.mem_append.1 hd with hd | hd
        · exact hp d hd
        · rwa [List.mem_singleton.1 hd]
  exact hfrom [] (List.forall_mem_nil _)

theorem not_cut_of_mem_pieces {t p : Text} (h : p ∈ pieces cut t) : ∀ c ∈ p, cut c = false := by
  induction t using pieces_induction cut with
  | piece t ht =>
    rw [pieces_of_not_cut ht] at h
    obtain rfl := List.mem_singleton.1 h
    exact ht
  | behind first d rest hfirst hd ih =>
    rw [pieces_append_cons hfirst hd] at h
    rcases List.mem_cons.1 h with rfl | h
    · exact hfirst
    · exact ih h

theorem isInfix_of_mem_pieces {t p : Text} (h : p ∈ pieces cut t) : p <:+: t := by
  induction t using pieces_induction cut with
  | piece t ht =>
    rw [pieces_of_not_cut ht] at h
    obtain rfl := List.mem_singleton.1 h
    exact List.infix_rfl
  | behind first d rest hfirst hd ih =>
    rw [pieces_append_cons hfirst hd] at h
    rcases List.mem_cons.1 h with rfl | h
    · exact (List.prefix_append _ _).isInfix
    · have hrest : rest <:+ first ++ d :: rest :=
        (List.suffix_cons d rest).trans (List.suffix_append first _)
      exact (ih h).trans hrest.isInfix

/-- Texts and the characters between them, by turns. -/
def weave : List Text → List Char → Text
  | t :: ts, d :: ds => t ++ d :: weave ts ds
  | ts, _ => ts.flatten

theorem weave_singleton (t : Text) : weave [t] [] = t :=
  List.flatten_singleton

theorem filter_of_not_cut {t : Text} (h : ∀ c ∈ t, cut c = false) : t.filter cut = [] :=
  List.filter_eq_nil_iff.2 fun c hc => by simp [h c hc]

theorem filter_append_cons {s : Text} (h : ∀ c ∈ s, cut c = false) {d : Char} (hd : cut d = true)
    (rest : Text) : (s ++ d :: rest).filter cut = d :: rest.filter cut := by
  rw [List.filter_append, filter_of_not_cut h, List.nil_append, List.filter_cons_of_pos hd]

/-- The pieces of a text, each behind a separator but the first, make up the text. -/
theorem eq_of_pieces {d : Char} {t first : Text} {others : List Text}
    (h : pieces (· == d) t = first :: others) : t = first ++ others.flatMap (d :: ·) := by
  induction t using pieces_induction (· == d) generalizing first others with
  | piece t ht =>
    rw [pieces_of_not_cut ht] at h
    obtain ⟨rfl, rfl⟩ := List.cons.inj h
    exact (List.append_nil t).symm
  | behind s c rest hs hc ih =>
    rw [pieces_append_cons hs hc] at h
    obtain ⟨rfl, rfl⟩ := List.cons.inj h
    cases hpieces : pieces (· == d) rest with
    | nil => exact absurd hpieces (pieces_ne_nil _ rest)
    | cons second others =>
      rw [List.flatMap_cons, List.cons_append, ← ih hpieces, beq_iff_eq.1 hc]

/-- A text is determined by its pieces. -/
theorem eq_of_pieces_eq {d : Char} {t t' : Text}
    (h : pieces (· == d) t = pieces (· == d) t') : t = t' := by
  cases hpieces : pieces (· == d) t with
  | nil => exact absurd hpieces (pieces_ne_nil _ t)
  | cons first others =>
    have hpieces' : pieces (· == d) t' = first :: others := by rw [← h, hpieces]
    rw [eq_of_pieces hpieces, eq_of_pieces hpieces']

/-- Of texts behind a separator each, the pieces are those of the texts, behind an empty one. -/
theorem pieces_flatMap (d : Char) (ts : List Text) :
    pieces (· == d) (ts.flatMap ([d] ++ ·)) = [] :: ts.flatMap (pieces (· == d)) := by
  suffices h : ∀ t : Text, pieces (· == d) (t ++ ts.flatMap ([d] ++ ·)) =
      pieces (· == d) t ++ ts.flatMap (pieces (· == d)) from h []
  induction ts with
  | nil => simp
  | cons t ts ih =>
    intro front
    rw [List.flatMap_cons, List.flatMap_cons, ← ih t]
    exact pieces_append_cut front (by simp) _

/-- Texts without a separator, behind a separator each, are the pieces that follow the first. -/
theorem pieces_behind {d : Char} {ts : List Text} (h : ∀ t ∈ ts, ∀ c ∈ t, (c == d) = false) :
    pieces (· == d) (ts.flatMap (d :: ·)) = [] :: ts := by
  have hpieces : ts.flatMap (pieces (· == d)) = ts.flatMap ([·]) :=
    List.flatMap_congr fun t ht => pieces_of_not_cut (h t ht)
  have hts : ts.flatMap ([·]) = ts := List.flatMap_singleton' ts
  have hcut := pieces_flatMap d ts
  rwa [hpieces, hts] at hcut

/-! ## Texts with a separator between neighbours -/

theorem join_cons (d : Char) (t : Text) (ts : List Text) :
    join [d] (t :: ts) = t ++ ts.flatMap (d :: ·) := by
  induction ts generalizing t with
  | nil => exact (List.append_nil t).symm
  | cons s ts ih =>
    have hstep : join [d] (t :: s :: ts) = t ++ [d] ++ join [d] (s :: ts) := rfl
    rw [hstep, ih s, List.append_assoc]
    rfl

theorem join_pieces (d : Char) (t : Text) : join [d] (pieces (· == d) t) = t := by
  cases hpieces : pieces (· == d) t with
  | nil => exact absurd hpieces (pieces_ne_nil _ t)
  | cons first others => rw [join_cons, ← eq_of_pieces hpieces]

theorem pieces_join {d : Char} {ts : List Text} (hne : ts ≠ [])
    (h : ∀ t ∈ ts, ∀ c ∈ t, (c == d) = false) : pieces (· == d) (join [d] ts) = ts := by
  cases ts with
  | nil => exact absurd rfl hne
  | cons t ts =>
    obtain ⟨ht, hts⟩ := List.forall_mem_cons.1 h
    rw [join_cons, pieces_append ht (pieces_behind hts), List.append_nil]

/-! ## The last separator -/

theorem splitLast_eq_none_iff {d : Char} {t : Text} : splitLast d t = none ↔ d ∉ t := by
  induction t with
  | nil => simp [splitLast]
  | cons c t ih =>
    unfold splitLast
    cases hrest : splitLast d t with
    | some parts =>
      have hmem : d ∈ t := by
        by_contra hno
        rw [ih.2 hno] at hrest
        cases hrest
      simp [hmem]
    | none =>
      have hno := ih.1 hrest
      by_cases hc : c = d
      · simp [hc]
      · simp [hc, hno, Ne.symm hc]

/-- A text is cut at the separator that no other one follows. -/
theorem splitLast_append_cons {d : Char} {after : Text} (h : d ∉ after) (before : Text) :
    splitLast d (before ++ d :: after) = some (before, after) := by
  induction before with
  | nil => rw [List.nil_append, splitLast, splitLast_eq_none_iff.2 h, if_pos rfl]
  | cons c before ih => rw [List.cons_append, splitLast, ih]

/-- Texts that are cut at the same character behind which it does not stand are cut alike. -/
theorem eq_of_append_cons_last {a b s t : Text} {d : Char} (hs : d ∉ s) (ht : d ∉ t)
    (h : a ++ d :: s = b ++ d :: t) : a = b ∧ s = t := by
  have hcut := splitLast_append_cons hs a
  rw [h, splitLast_append_cons ht b] at hcut
  obtain ⟨rfl, rfl⟩ := Prod.mk.inj (Option.some.inj hcut)
  exact ⟨rfl, rfl⟩

end Postroom.Text
