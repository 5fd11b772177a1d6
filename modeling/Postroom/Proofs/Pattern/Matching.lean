import Mathlib.Data.List.Basic
import Mathlib.Data.List.TakeDrop
import Mathlib.Data.List.TakeWhile
import Mathlib.Order.Basic
import Mathlib.Tactic.Common
import Postroom.Pattern.Basic

/-!
# What a pattern describes

`Pattern.Spans` says which stretches of a text a pattern describes, by the form of the pattern.
Matching works on sets of places instead; `mem_advance_iff` says that it finds exactly the ends of
these stretches.

A repetition is a chain of stretches (`Chain`).  Its set of places is the closure of a step that
never leads back, and `Places.mem_closure_iff` is the invariant of that loop: what has been reached
is closed under the step, but for the places from which no step has been taken.
-/

namespace Postroom.Pattern

/-- The set of places is in ascending order. -/
abbrev Ascending (ps : Places) : Prop :=
  ps.Pairwise (· < ·)

/-- So many steps lead from one place to another. -/
inductive Chain (R : ℕ → ℕ → Prop) : ℕ → ℕ → ℕ → Prop
  | none (i : ℕ) : Chain R 0 i i
  | step {n i j k : ℕ} (h : R i j) (hrest : Chain R n j k) : Chain R (n + 1) i k

namespace Chain

variable {R : ℕ → ℕ → Prop} {m n i j k : ℕ}

theorem zero_iff : Chain R 0 i j ↔ i = j := by
  constructor
  · rintro ⟨⟩
    rfl
  · rintro rfl
    exact .none i

theorem succ_iff : Chain R (n + 1) i k ↔ ∃ j, R i j ∧ Chain R n j k := by
  constructor
  · rintro (_ | ⟨h, hrest⟩)
    exact ⟨_, h, hrest⟩
  · rintro ⟨j, h, hrest⟩
    exact .step h hrest

theorem add_iff : Chain R (m + n) i k ↔ ∃ j, Chain R m i j ∧ Chain R n j k := by
  induction m generalizing i with
  | zero =>
    rw [Nat.zero_add]
    constructor
    · exact fun h => ⟨i, .none i, h⟩
    · rintro ⟨j, hfirst, h⟩
      rwa [zero_iff.1 hfirst]
  | succ m ih =>
    rw [Nat.succ_add, succ_iff]
    constructor
    · rintro ⟨j, h, hrest⟩
      obtain ⟨j', hfirst, hlast⟩ := ih.1 hrest
      exact ⟨j', .step h hfirst, hlast⟩
    · rintro ⟨j', hfirst, hlast⟩
      obtain ⟨j, h, hrest⟩ := succ_iff.1 hfirst
      exact ⟨j, h, ih.2 ⟨j', hrest, hlast⟩⟩

theorem le (hR : ∀ i j, R i j → i ≤ j) (h : Chain R n i j) : i ≤ j := by
  induction h with
  | none => exact Nat.le_refl _
  | step h _ ih => exact Nat.le_trans (hR _ _ h) ih

/-- Steps that stay where they are can be left out. -/
theorem shorten (hR : ∀ i j, R i j → i ≤ j) (h : Chain R n i k) :
    ∃ m ≤ k - i, m ≤ n ∧ Chain R m i k := by
  induction h with
  | none i => exact ⟨0, Nat.zero_le _, Nat.le_refl _, .none i⟩
  | @step n i j k h hrest ih =>
    obtain ⟨m, hm, hmn, hchain⟩ := ih
    have hij := hR _ _ h
    have hjk := hrest.le hR
    by_cases heq : i = j
    · subst heq
      exact ⟨m, hm, Nat.le_succ_of_le hmn, hchain⟩
    · exact ⟨m + 1, by omega, Nat.succ_le_succ hmn, .step h hchain⟩

end Chain

/-- The pattern describes the stretch of the text between two places.  A repetition whose greatest
number is below the least one takes its least number. -/
def Spans (t : Array Char) : Pattern → ℕ → ℕ → Prop
  | empty, i, j => i = j
  | chars set, i, j => fitsAt t set i ∧ i + 1 = j
  | look l, i, j => holdsAt t l i ∧ i = j
  | seq p q, i, j => ∃ k, Spans t p i k ∧ Spans t q k j
  | alt p q, i, j => Spans t p i j ∨ Spans t q i j
  | times least most p, i, j =>
    ∃ n, least ≤ n ∧ (∀ m ∈ most, n ≤ max least m) ∧ Chain (Spans t p) n i j
  | group _ p, i, j => Spans t p i j

theorem le_and_le_of_spans {t : Array Char} {p : Pattern} {i j : ℕ} (h : Spans t p i j) :
    i ≤ j ∧ j ≤ max i t.size := by
  induction p generalizing i j with
  | empty =>
    cases h
    exact ⟨Nat.le_refl _, Nat.le_max_left _ _⟩
  | chars set =>
    obtain ⟨hfits, rfl⟩ := h
    unfold fitsAt at hfits
    have hlt : i < t.size := by
      by_contra hno
      rw [Array.getElem?_eq_none (Nat.le_of_not_lt hno)] at hfits
      cases hfits
    exact ⟨Nat.le_succ i, Nat.le_trans hlt (Nat.le_max_right _ _)⟩
  | look l =>
    obtain ⟨-, rfl⟩ := h
    exact ⟨Nat.le_refl _, Nat.le_max_left _ _⟩
  | seq p q ihp ihq =>
    obtain ⟨k, hp, hq⟩ := h
    have hfirst := ihp hp
    have hlast := ihq hq
    omega
  | alt p q ihp ihq => exact h.elim ihp ihq
  | times least most p ih =>
    obtain ⟨n, -, -, hchain⟩ := h
    induction hchain with
    | none => exact ⟨Nat.le_refl _, Nat.le_max_left _ _⟩
    | step hspan _ ihrest =>
      have hfirst := ih hspan
      omega
  | group _ p ih => exact ih h

/-! ## The algebra of sets of places -/

namespace Places

theorem insertThen_spec {place : ℕ} {ps : Places} {further : Places → Places}
    (hps : ∀ p ∈ ps, place < p)
    (hfurther : ∀ qs, Ascending qs → Ascending (further qs) ∧ ∀ x, x ∈ further qs ↔ x ∈ ps ∨ x ∈ qs)
    {qs : Places} (hqs : Ascending qs) :
    Ascending (insertThen place further qs) ∧
      ∀ x, x ∈ insertThen place further qs ↔ x = place ∨ x ∈ ps ∨ x ∈ qs := by
  have hplace : ∀ {qs}, Ascending qs → (∀ q ∈ qs, place < q) →
      Ascending (place :: further qs) ∧
        ∀ x, x ∈ place :: further qs ↔ x = place ∨ x ∈ ps ∨ x ∈ qs := by
    intro qs hqs hlt
    obtain ⟨hasc, hmem⟩ := hfurther qs hqs
    refine ⟨List.pairwise_cons.2 ⟨fun x hx => ?_, hasc⟩, fun x => by rw [List.mem_cons, hmem]⟩
    exact ((hmem x).1 hx).elim (hps x) (hlt x)
  induction qs with
  | nil => exact hplace List.Pairwise.nil (List.forall_mem_nil _)
  | cons q qs ih =>
    obtain ⟨hq, htail⟩ := List.pairwise_cons.1 hqs
    unfold insertThen
    split_ifs with hlt heq
    · exact hplace hqs (List.forall_mem_cons.2 ⟨hlt, fun x hx => Nat.lt_trans hlt (hq x hx)⟩)
    · subst heq
      obtain ⟨hasc, hmem⟩ := hplace htail hq
      refine ⟨hasc, fun x => ?_⟩
      rw [hmem, List.mem_cons]
      tauto
    · obtain ⟨hasc, hmem⟩ := ih htail
      refine ⟨List.pairwise_cons.2 ⟨fun x hx => ?_, hasc⟩, fun x => ?_⟩
      · rcases (hmem x).1 hx with rfl | hps' | hqs'
        · omega
        · have := hps x hps'
          omega
        · exact hq x hqs'
      · rw [List.mem_cons, hmem, List.mem_cons]
        tauto

theorem union_spec {ps qs : Places} (hps : Ascending ps) (hqs : Ascending qs) :
    Ascending (union ps qs) ∧ ∀ x, x ∈ union ps qs ↔ x ∈ ps ∨ x ∈ qs := by
  induction ps generalizing qs with
  | nil => exact ⟨hqs, fun x => by simp [union]⟩
  | cons p ps ih =>
    obtain ⟨hp, htail⟩ := List.pairwise_cons.1 hps
    obtain ⟨hasc, hmem⟩ := insertThen_spec hp (fun qs hqs => ih htail hqs) hqs
    refine ⟨hasc, fun x => ?_⟩
    rw [union, hmem, List.mem_cons, or_assoc]

theorem keepThen_spec {place : ℕ} {ps : Places} {further : Places → Places}
    (hps : ∀ p ∈ ps, place < p)
    (hfurther : ∀ qs, Ascending qs → Ascending (further qs) ∧ ∀ x, x ∈ further qs ↔ x ∈ ps ∧ x ∉ qs)
    {qs : Places} (hqs : Ascending qs) :
    Ascending (keepThen place further qs) ∧
      ∀ x, x ∈ keepThen place further qs ↔ (x = place ∨ x ∈ ps) ∧ x ∉ qs := by
  have hplace : ∀ {qs}, Ascending qs → place ∉ qs →
      Ascending (place :: further qs) ∧
        ∀ x, x ∈ place :: further qs ↔ (x = place ∨ x ∈ ps) ∧ x ∉ qs := by
    intro qs hqs hno
    obtain ⟨hasc, hmem⟩ := hfurther qs hqs
    refine ⟨List.pairwise_cons.2 ⟨fun x hx => hps x ((hmem x).1 hx).1, hasc⟩, fun x => ?_⟩
    rw [List.mem_cons, hmem]
    constructor
    · rintro (rfl | hx)
      · exact ⟨.inl rfl, hno⟩
      · exact ⟨.inr hx.1, hx.2⟩
    · rintro ⟨rfl | hx, hout⟩
      · exact .inl rfl
      · exact .inr ⟨hx, hout⟩
  induction qs with
  | nil => exact hplace List.Pairwise.nil List.not_mem_nil
  | cons q qs ih =>
    obtain ⟨hq, htail⟩ := List.pairwise_cons.1 hqs
    unfold keepThen
    split_ifs with hlt heq
    · obtain ⟨hasc, hmem⟩ := ih htail
      refine ⟨hasc, fun x => ?_⟩
      rw [hmem, List.mem_cons, not_or, and_congr_right_iff]
      rintro (rfl | hx)
      · exact ⟨fun h => ⟨by omega, h⟩, fun h => h.2⟩
      · have := hps x hx
        exact ⟨fun h => ⟨by omega, h⟩, fun h => h.2⟩
    · subst heq
      obtain ⟨hasc, hmem⟩ := hfurther qs htail
      refine ⟨hasc, fun x => ?_⟩
      rw [hmem, List.mem_cons, not_or]
      constructor
      · exact fun h => ⟨.inr h.1, Nat.ne_of_gt (hps x h.1), h.2⟩
      · exact fun h => ⟨h.1.resolve_left h.2.1, h.2.2⟩
    · refine hplace hqs ?_
      rw [List.mem_cons, not_or]
      refine ⟨heq, fun hmem => ?_⟩
      have := hq place hmem
      omega

theorem without_spec {ps qs : Places} (hps : Ascending ps) (hqs : Ascending qs) :
    Ascending (without ps qs) ∧ ∀ x, x ∈ without ps qs ↔ x ∈ ps ∧ x ∉ qs := by
  induction ps generalizing qs with
  | nil => exact ⟨List.Pairwise.nil, fun x => by simp [without]⟩
  | cons p ps ih =>
    obtain ⟨hp, htail⟩ := List.pairwise_cons.1 hps
    obtain ⟨hasc, hmem⟩ := keepThen_spec hp (fun qs hqs => ih htail hqs) hqs
    refine ⟨hasc, fun x => ?_⟩
    rw [without, hmem, List.mem_cons]

end Places

/-- The step takes a set of places to the places that the relation leads to from there, and the
relation never leads back. -/
structure Follows (step : Places → Places) (R : ℕ → ℕ → Prop) : Prop where
  ascending : ∀ ps, Ascending ps → Ascending (step ps)
  mem_iff : ∀ ps, Ascending ps → ∀ j, j ∈ step ps ↔ ∃ i ∈ ps, R i j
  le : ∀ i j, R i j → i ≤ j

namespace Places

variable {step : Places → Places} {R : ℕ → ℕ → Prop}

/-- What has been reached so far.  It is closed under the relation but for the places from which no
step has been taken, and those are among the places at hand. -/
structure Reached (R : ℕ → ℕ → Prop) (settled near fresh : Places) : Prop where
  ascending : Ascending (settled.reverse ++ near)
  ascending_fresh : Ascending fresh
  fresh_subset : ∀ i ∈ fresh, i ∈ near
  closed : ∀ i ∈ settled.reverse ++ near, i ∉ fresh → ∀ j, R i j → j ∈ settled.reverse ++ near

theorem le_of_mem_dropWhile {first x : ℕ} {ps : Places} (hps : Ascending ps)
    (hx : x ∈ ps.dropWhile (· < first)) : first ≤ x := by
  induction ps with
  | nil => cases hx
  | cons p ps ih =>
    obtain ⟨hp, htail⟩ := List.pairwise_cons.1 hps
    rw [List.dropWhile_cons] at hx
    split_ifs at hx with hlt
    · exact ih htail hx
    · have hle : first ≤ p := by simpa using hlt
      rcases List.mem_cons.1 hx with rfl | hmem
      · exact hle
      · exact Nat.le_of_lt (Nat.lt_of_le_of_lt hle (hp x hmem))

/-- One step from the fresh places.  What lies before them is settled, and the places that were not
there before are the fresh ones now. -/
theorem Reached.next {settled near : Places} {first : ℕ} {others : Places}
    (h : Reached R settled near (first :: others)) (hstep : Follows step R) :
    let fresh := first :: others
    let behind := near.takeWhile (· < first)
    let ahead := near.dropWhile (· < first)
    let reached := without (step fresh) ahead
    let seen := (behind.reverse ++ settled).reverse ++ union ahead reached
    Reached R (behind.reverse ++ settled) (union ahead reached) reached ∧
      (∀ x, x ∈ seen ↔ x ∈ settled.reverse ++ near ∨ x ∈ step fresh) ∧
      ∀ x ∈ reached, x ∈ step fresh := by
  intro fresh behind ahead reached seen
  have hnear : near = behind ++ ahead := List.takeWhile_append_dropWhile.symm
  obtain ⟨hsettled, hascNear, hbetween⟩ := List.pairwise_append.1 h.ascending
  have hascStep := hstep.ascending fresh h.ascending_fresh
  have hascAhead : Ascending ahead := hascNear.sublist (List.dropWhile_sublist _)
  obtain ⟨hascReached, hmemReached⟩ := without_spec hascStep hascAhead
  obtain ⟨hascUnion, hmemUnion⟩ := union_spec hascAhead hascReached
  have hfirst : ∀ x ∈ step fresh, first ≤ x := by
    intro x hx
    obtain ⟨i, hi, hR⟩ := (hstep.mem_iff fresh h.ascending_fresh x).1 hx
    have hle : first ≤ i := by
      rcases List.mem_cons.1 hi with rfl | hmem
      · exact Nat.le_refl _
      · exact Nat.le_of_lt ((List.pairwise_cons.1 h.ascending_fresh).1 i hmem)
    exact Nat.le_trans hle (hstep.le i x hR)
  have hseen : seen = settled.reverse ++ (behind ++ union ahead reached) := by
    simp [seen]
  have hmem : ∀ x, x ∈ seen ↔ x ∈ settled.reverse ++ near ∨ x ∈ step fresh := by
    intro x
    rw [hseen, hnear]
    simp only [List.mem_append, hmemUnion, reached, hmemReached]
    tauto
  have hold : ∀ x ∈ seen, x ∉ reached → x ∈ settled.reverse ++ near := by
    intro x hx hno
    refine ((hmem x).1 hx).elim id fun hnew => ?_
    by_contra hout
    refine hno ((hmemReached x).2 ⟨hnew, fun hahead => hout ?_⟩)
    rw [hnear]
    exact List.mem_append_right _ (List.mem_append_right _ hahead)
  refine ⟨⟨?_, hascReached, fun i hi => (hmemUnion i).2 (.inr hi), ?_⟩, hmem,
    fun x hx => ((hmemReached x).1 hx).1⟩
  · -- what is settled now stands before the fresh places, from which no step leads back
    have hsettledFirst : ∀ x ∈ settled.reverse, x < first :=
      fun x hx => hbetween x hx first (h.fresh_subset first List.mem_cons_self)
    have hbehindFirst : ∀ x ∈ behind, x < first :=
      fun x hx => by simpa using List.mem_takeWhile_imp hx
    have hunionFirst : ∀ x ∈ union ahead reached, first ≤ x := by
      intro x hx
      refine ((hmemUnion x).1 hx).elim (le_of_mem_dropWhile hascNear) fun hx => ?_
      exact hfirst x ((hmemReached x).1 hx).1
    have hascBehind : Ascending behind := hascNear.sublist (List.takeWhile_sublist _)
    change Ascending seen
    rw [hseen]
    refine List.pairwise_append.2 ⟨hsettled, List.pairwise_append.2 ⟨hascBehind, hascUnion, ?_⟩, ?_⟩
    · exact fun x hx y hy => Nat.lt_of_lt_of_le (hbehindFirst x hx) (hunionFirst y hy)
    · intro x hx y hy
      rcases List.mem_append.1 hy with hy | hy
      · exact hbetween x hx y (hnear ▸ List.mem_append_left _ hy)
      · exact Nat.lt_of_lt_of_le (hsettledFirst x hx) (hunionFirst y hy)
  · intro i hi hno j hR
    refine (hmem j).2 ?_
    by_cases hfresh : i ∈ fresh
    · exact .inr ((hstep.mem_iff fresh h.ascending_fresh j).2 ⟨i, hfresh, hR⟩)
    · exact .inl (h.closed i (hold i hi hno) hfresh j hR)

/-- A chain that leaves what has been reached goes by a fresh place. -/
theorem Reached.chain {settled near fresh : Places} (h : Reached R settled near fresh) {n i j : ℕ}
    (hchain : Chain R n i j) (hi : i ∈ settled.reverse ++ near) :
    j ∈ settled.reverse ++ near ∨ ∃ m ≤ n, ∃ k ∈ fresh, Chain R m k j := by
  induction hchain with
  | none => exact .inl hi
  | @step n i j k hR hrest ih =>
    by_cases hfresh : i ∈ fresh
    · exact .inr ⟨n + 1, Nat.le_refl _, i, hfresh, .step hR hrest⟩
    · refine (ih (h.closed i hi hfresh j hR)).imp id ?_
      rintro ⟨m, hm, hlast⟩
      exact ⟨m, Nat.le_succ_of_le hm, hlast⟩

theorem mem_closure_iff (hstep : Follows step R) (count : ℕ) {settled near fresh : Places}
    (h : Reached R settled near fresh) :
    Ascending (closure step count settled near fresh) ∧
      ∀ j, j ∈ closure step count settled near fresh ↔
        j ∈ settled.reverse ++ near ∨ ∃ n ≤ count, ∃ i ∈ fresh, Chain R n i j := by
  have hnear : ∀ {settled near : Places} {i : ℕ}, i ∈ near → i ∈ settled.reverse ++ near :=
    fun hi => List.mem_append_right _ hi
  induction count generalizing settled near fresh with
  | zero =>
    refine ⟨h.ascending, fun j => ⟨.inl, ?_⟩⟩
    rintro (hj | ⟨n, hn, i, hi, hchain⟩)
    · exact hj
    · obtain rfl := Nat.le_zero.1 hn
      obtain rfl := Chain.zero_iff.1 hchain
      exact hnear (h.fresh_subset _ hi)
  | succ count ih =>
    cases fresh with
    | nil =>
      refine ⟨h.ascending, fun j => ⟨.inl, ?_⟩⟩
      rintro (hj | ⟨n, -, i, hi, -⟩)
      · exact hj
      · cases hi
    | cons first others =>
      obtain ⟨hnext, hseen, hreached⟩ := h.next hstep
      obtain ⟨hasc, hmem⟩ := ih hnext
      have hfresh : ∀ x, x ∈ step (first :: others) ↔ ∃ i ∈ first :: others, R i x :=
        hstep.mem_iff _ h.ascending_fresh
      rw [closure, List.span_eq_takeWhile_dropWhile]
      refine ⟨hasc, fun j => (hmem j).trans ⟨?_, ?_⟩⟩
      · rintro (hj | ⟨n, hn, i, hi, hchain⟩)
        · refine ((hseen j).1 hj).imp id fun hnew => ?_
          obtain ⟨i, hi, hR⟩ := (hfresh j).1 hnew
          exact ⟨1, Nat.succ_le_succ (Nat.zero_le _), i, hi, .step hR (.none j)⟩
        · obtain ⟨k, hk, hR⟩ := (hfresh i).1 (hreached i hi)
          exact .inr ⟨n + 1, Nat.succ_le_succ hn, k, hk, .step hR hchain⟩
      · rintro (hj | ⟨n, hn, i, hi, hchain⟩)
        · exact .inl ((hseen j).2 (.inl hj))
        · cases hchain with
          | none => exact .inl ((hseen _).2 (.inl (hnear (h.fresh_subset _ hi))))
          | step hR hrest =>
            have hk := (hseen _).2 (.inr ((hfresh _).2 ⟨i, hi, hR⟩))
            refine (hnext.chain hrest hk).imp id ?_
            rintro ⟨m, hm, hlast⟩
            exact ⟨m, Nat.le_trans hm (Nat.le_of_succ_le_succ hn), hlast⟩

end Places

variable {step : Places → Places} {R : ℕ → ℕ → Prop}

/-- Where a step changes nothing, any number of steps changes nothing. -/
theorem mem_iff_of_stable (hstep : Follows step R) {ps : Places} (hps : Ascending ps)
    (hsame : step ps = ps) (n j : ℕ) : j ∈ ps ↔ ∃ i ∈ ps, Chain R n i j := by
  induction n generalizing j with
  | zero => simp only [Chain.zero_iff, exists_eq_right]
  | succ n ih =>
    have honce : ∀ k, k ∈ ps ↔ ∃ i ∈ ps, R i k := by
      intro k
      have hmem := hstep.mem_iff ps hps k
      rwa [hsame] at hmem
    rw [ih]
    simp only [Chain.succ_iff]
    constructor
    · rintro ⟨k, hk, hchain⟩
      obtain ⟨i, hi, hR⟩ := (honce k).1 hk
      exact ⟨i, hi, k, hR, hchain⟩
    · rintro ⟨i, hi, k, hR, hchain⟩
      exact ⟨k, (honce k).2 ⟨i, hi, hR⟩, hchain⟩

/-- Steps that change nothing need not be taken again. -/
theorem mem_iterate_iff (hstep : Follows step R) (n : ℕ) {ps : Places} (hps : Ascending ps) :
    Ascending (iterate step n ps) ∧ ∀ j, j ∈ iterate step n ps ↔ ∃ i ∈ ps, Chain R n i j := by
  induction n generalizing ps with
  | zero =>
    refine ⟨hps, fun j => ?_⟩
    simp only [iterate, Chain.zero_iff, exists_eq_right]
  | succ n ih =>
    unfold iterate
    simp only
    split_ifs with hsame
    · exact ⟨hps, mem_iff_of_stable hstep hps hsame (n + 1)⟩
    · obtain ⟨hasc, hmem⟩ := ih (hstep.ascending ps hps)
      refine ⟨hasc, fun j => ?_⟩
      simp only [hmem, hstep.mem_iff ps hps, Chain.succ_iff]
      constructor
      · rintro ⟨k, ⟨i, hi, hR⟩, hchain⟩
        exact ⟨i, hi, k, hR, hchain⟩
      · rintro ⟨i, hi, k, hR, hchain⟩
        exact ⟨k, ⟨i, hi, hR⟩, hchain⟩

/-! ## Matching -/

variable {t : Array Char} {p : Pattern}

/-- A repetition finds the ends of the chains of its stretches. -/
theorem mem_advance_times_iff (hp : Follows (advance t p) (Spans t p)) (least : ℕ)
    (most : Option ℕ) {ps : Places} (hps : Ascending ps) :
    Ascending (advance t (.times least most p) ps) ∧
      ∀ j, j ∈ advance t (.times least most p) ps ↔
        ∃ i ∈ ps, Spans t (.times least most p) i j := by
  obtain ⟨hascStart, hstart⟩ := mem_iterate_iff hp least hps
  have hreached : Places.Reached (Spans t p) [] (iterate (advance t p) least ps)
      (iterate (advance t p) least ps) :=
    ⟨hascStart, hascStart, fun _ hi => hi, fun _ hi hno => absurd hi hno⟩
  obtain ⟨hasc, hmem⟩ :=
    Places.mem_closure_iff hp ((most.map (· - least)).getD (t.size + 1)) hreached
  refine ⟨hasc, fun j => ?_⟩
  unfold advance
  rw [hmem]
  simp only [List.reverse_nil, List.nil_append, hstart]
  constructor
  · rintro (⟨i, hi, hchain⟩ | ⟨n, hn, k, ⟨i, hi, hchain⟩, hfurther⟩)
    · exact ⟨i, hi, least, Nat.le_refl _, fun m _ => Nat.le_max_left _ _, hchain⟩
    · refine ⟨i, hi, least + n, Nat.le_add_right _ _, fun m hm => ?_, ?_⟩
      · cases hm
        simp only [Option.map_some, Option.getD_some] at hn
        omega
      · exact Chain.add_iff.2 ⟨k, hchain, hfurther⟩
  · rintro ⟨i, hi, n, hleast, hmost, hchain⟩
    obtain ⟨d, rfl⟩ := Nat.exists_eq_add_of_le hleast
    obtain ⟨k, hfirst, hfurther⟩ := Chain.add_iff.1 hchain
    -- without a bound, a chain need not be longer than the text
    obtain ⟨m, hm, hmd, hshort⟩ := hfurther.shorten hp.le
    refine .inr ⟨m, ?_, k, ⟨i, hi, hfirst⟩, hshort⟩
    cases most with
    | none =>
      have hbound : j - k ≤ t.size := by
        have hspan : Spans t (.times 0 none p) k j :=
          ⟨m, Nat.zero_le _, fun _ h => absurd h (Option.not_mem_none _), hshort⟩
        have hle := le_and_le_of_spans hspan
        omega
      exact Nat.le_succ_of_le (Nat.le_trans hm hbound)
    | some most =>
      have hle := hmost most rfl
      simp only [Option.map_some, Option.getD_some]
      omega

theorem follows_advance (t : Array Char) (p : Pattern) : Follows (advance t p) (Spans t p) := by
  have hle : ∀ p i j, Spans t p i j → i ≤ j := fun p i j h => (le_and_le_of_spans h).1
  -- both facts about the places come from one induction on the pattern
  suffices h : ∀ ps, Ascending ps →
      Ascending (advance t p ps) ∧ ∀ j, j ∈ advance t p ps ↔ ∃ i ∈ ps, Spans t p i j from
    ⟨fun ps hps => (h ps hps).1, fun ps hps => (h ps hps).2, hle p⟩
  induction p with
  | empty =>
    intro ps hps
    refine ⟨hps, fun j => ?_⟩
    simp only [advance, Spans, exists_eq_right]
  | chars set =>
    intro ps hps
    refine ⟨?_, fun j => ?_⟩
    · exact (hps.filter _).map _ fun i j hij => Nat.succ_lt_succ hij
    · simp only [advance, Spans, List.mem_map, List.mem_filter]
      tauto
  | look l =>
    intro ps hps
    refine ⟨hps.filter _, fun j => ?_⟩
    simp only [advance, Spans, List.mem_filter]
    constructor
    · exact fun h => ⟨j, h.1, h.2, rfl⟩
    · rintro ⟨i, hi, hlook, rfl⟩
      exact ⟨hi, hlook⟩
  | seq p q ihp ihq =>
    intro ps hps
    obtain ⟨hascp, hmemp⟩ := ihp ps hps
    obtain ⟨hascq, hmemq⟩ := ihq _ hascp
    refine ⟨hascq, fun j => ?_⟩
    simp only [advance, Spans, hmemq, hmemp]
    constructor
    · rintro ⟨k, ⟨i, hi, hp⟩, hq⟩
      exact ⟨i, hi, k, hp, hq⟩
    · rintro ⟨i, hi, k, hp, hq⟩
      exact ⟨k, ⟨i, hi, hp⟩, hq⟩
  | alt p q ihp ihq =>
    intro ps hps
    obtain ⟨hascp, hmemp⟩ := ihp ps hps
    obtain ⟨hascq, hmemq⟩ := ihq ps hps
    obtain ⟨hasc, hmem⟩ := Places.union_spec hascp hascq
    refine ⟨hasc, fun j => ?_⟩
    simp only [advance, Spans, hmem, hmemp, hmemq, and_or_left, exists_or]
  | times least most p ih =>
    exact fun ps hps => mem_advance_times_iff
      ⟨fun ps hps => (ih ps hps).1, fun ps hps => (ih ps hps).2, hle p⟩ least most hps
  | group _ p ih => exact ih

/-- **Matching finds the ends of the stretches that the pattern describes.** -/
theorem mem_advance_iff {ps : Places} (hps : Ascending ps) (j : ℕ) :
    j ∈ advance t p ps ↔ ∃ i ∈ ps, Spans t p i j :=
  (follows_advance t p).mem_iff ps hps j

/-- A pattern is found in a text that has a stretch it describes. -/
theorem isFound_iff {text : Text} :
    p.isFound text ↔ ∃ i j, i ≤ text.length ∧ Spans text.toArray p i j := by
  have hmem := mem_advance_iff (t := text.toArray) (p := p)
    (List.pairwise_lt_range (n := text.length + 1))
  unfold isFound
  rw [Bool.not_eq_true', List.isEmpty_eq_false_iff_exists_mem]
  simp only [hmem, List.mem_range, Nat.lt_succ_iff]
  constructor
  · rintro ⟨j, i, hi, hspan⟩
    exact ⟨i, j, hi, hspan⟩
  · rintro ⟨i, j, hi, hspan⟩
    exact ⟨j, i, hi, hspan⟩

end Postroom.Pattern
