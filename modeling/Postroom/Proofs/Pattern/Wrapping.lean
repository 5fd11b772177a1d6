import Postroom.Filter.Spam
import Postroom.Proofs.Pattern.Moves

/-!
# Patterns within brackets

A pattern for the whole of a text is read between `^(?:` and `)$`: with one more group around it,
and with brackets behind it.  Step by step it is read as on its own, and then the brackets close
that group (`Reading.enclosed_run`).  Two kinds of patterns are an exception: one that closes the
group itself (`Reading.Escapes`), and one that ends in a comment, which takes the brackets in
(`EndsInRemark`).

* `Reading.run_invariant` — what every step preserves holds of what has been read;
* `Reading.below` — the group around the pattern is left alone by all steps but the one that closes
  it;
* `Reading.Enclosed`, `Reading.enclosed_run` — the pattern on its own and in the group, side by
  side;
* `read?_anchored` — what the pattern for the whole of a text is read as.
-/

namespace Postroom.Pattern

namespace Reading

variable {r next last : Reading} {t rest : Text} {c : Char}

/-! ## Runs -/

theorem step_suffix (h : r.step (c :: t) = some (next, rest)) : rest <:+ t := by
  by_cases hc : c = ')'
  · subst hc
    obtain ⟨around, -, heq⟩ := Option.map_eq_some_iff.1 h
    cases heq
    exact List.suffix_refl _
  · rw [r.step_eq hc] at h
    obtain ⟨⟨m, after⟩, hmove, hread⟩ := Option.bind_eq_some_iff.1 h
    obtain ⟨made, -, heq⟩ := Option.map_eq_some_iff.1 hread
    cases heq
    exact move?_suffix _ hmove

theorem run_of_end (h : r.flags.skip t = []) : r.run t = some r := by
  rw [run]
  split
  · rfl
  · rename_i heq
    rw [h] at heq
    cases heq

/-- The guard of the recursion always holds. -/
theorem run_of_cons (h : r.flags.skip t = c :: rest) :
    r.run t = (r.step (c :: rest)).bind fun read => read.1.run read.2 := by
  rw [run]
  split
  · rename_i heq
    rw [h] at heq
    cases heq
  · rename_i c' rest' heq
    obtain ⟨rfl, rfl⟩ : c = c' ∧ rest = rest' := List.cons.inj (h.symm.trans heq)
    rcases hstep : r.step (c :: rest) with _ | ⟨next, after⟩
    · rfl
    · have hshort := (step_suffix hstep).length_le
      have hskip := (skip_suffix r.flags t).length_le
      rw [h, List.length_cons] at hskip
      simp only [Option.bind_some]
      rw [if_pos (by omega)]

theorem run_of_item (h : r.flags.skip t = c :: rest) (hc : c ≠ ')') :
    r.run t = (move? r.flags c rest).bind fun read =>
      (r.make read.1).bind fun next => next.run read.2 := by
  rw [run_of_cons h, r.step_eq hc, Option.bind_assoc]
  congr 1
  funext read
  exact Option.bind_map

theorem run_of_close (h : r.flags.skip t = ')' :: rest) :
    r.run t = r.leave.bind fun next => next.run rest := by
  rw [run_of_cons h]
  exact Option.bind_map

theorem run_nil : r.run [] = some r :=
  run_of_end (List.suffix_nil.1 (skip_suffix _ []))

/-- Blanks and comments in front of the text do not count. -/
theorem run_congr {t' : Text} (h : r.flags.skip t = r.flags.skip t') : r.run t = r.run t' := by
  cases hskip : r.flags.skip t with
  | nil => rw [run_of_end hskip, run_of_end (h.symm.trans hskip)]
  | cons c rest => rw [run_of_cons hskip, run_of_cons (h.symm.trans hskip)]

theorem run_closing_eq :
    r.run closing = r.leave.bind fun next => next.run ['$'] :=
  run_of_close (skip_of_plain _ rfl (by decide))

theorem run_dollar (h : r.flags = {}) :
    r.run ['$'] = some (r.push (.leaf (.look .textEnd))) := by
  have hmove : move? {} '$' [] = some (.push (.leaf (.look .textEnd)), []) := rfl
  rw [run_of_item (skip_of_plain _ rfl (by decide)) (by decide), h, hmove]
  exact run_nil

theorem finish_of_closed (h : r.outer = []) : r.finish = some r.frame.content := by
  unfold finish
  rw [h]
  rfl

theorem finish_of_open (h : r.outer ≠ []) : r.finish = none := by
  unfold finish
  rw [if_neg fun hempty => h (List.isEmpty_iff.1 hempty)]

/-- **What every step preserves holds of what has been read.** -/
theorem run_invariant {P : Reading → Prop}
    (hmake : ∀ {r next : Reading} m, P r → r.make m = some next → P next)
    (hleave : ∀ {r next : Reading}, P r → r.leave = some next → P next) (h : P r)
    (hrun : r.run t = some last) : P last := by
  induction hlength : t.length using Nat.strong_induction_on generalizing r t with
  | _ n ih =>
    have hskip := (skip_suffix r.flags t).length_le
    cases hrest : r.flags.skip t with
    | nil =>
      rw [run_of_end hrest] at hrun
      cases hrun
      exact h
    | cons c rest =>
      rw [hrest, List.length_cons] at hskip
      by_cases hc : c = ')'
      · subst hc
        rw [run_of_close hrest] at hrun
        obtain ⟨next, hnext, hrun⟩ := Option.bind_eq_some_iff.1 hrun
        exact ih _ (by omega) (hleave h hnext) hrun rfl
      · rw [run_of_item hrest hc] at hrun
        obtain ⟨⟨m, after⟩, hmove, hrun⟩ := Option.bind_eq_some_iff.1 hrun
        obtain ⟨next, hnext, hrun⟩ := Option.bind_eq_some_iff.1 hrun
        have hafter := (move?_suffix _ hmove).length_le
        exact ih after.length (by omega) (hmake m h hnext) hrun rfl

/-! ## The group at the bottom -/

/-- The group around all others. -/
def ground (r : Reading) : Frame :=
  (r.outer.getLast?.map (·.2)).getD r.frame

theorem ground_of_outer (h : next.outer = r.outer) (hnumber : next.frame.number = r.frame.number) :
    next.ground.number = r.ground.number := by
  unfold ground
  rw [h]
  cases r.outer.getLast? with
  | none => exact hnumber
  | some entry => rfl

theorem ground_enter (f : Flags) (number : Option ℕ) : (r.enter f number).ground = r.ground := by
  unfold ground enter
  rw [List.getLast?_cons]
  cases r.outer.getLast? <;> rfl

theorem ground_make {m : Move} (h : r.make m = some next) :
    next.ground.number = r.ground.number := by
  cases m with
  | push n =>
    cases h
    exact ground_of_outer rfl rfl
  | switch f =>
    cases h
    exact ground_of_outer rfl rfl
  | again least most =>
    obtain ⟨frame, hframe, heq⟩ := Option.map_eq_some_iff.1 h
    cases heq
    refine ground_of_outer rfl ?_
    unfold Frame.repeatLast at hframe
    split at hframe
    · cases hframe
    · obtain ⟨n, -, heq⟩ := Option.map_eq_some_iff.1 hframe
      cases heq
      rfl
  | alternative =>
    cases h
    exact ground_of_outer rfl rfl
  | enter f =>
    cases h
    rw [ground_enter]
  | capture =>
    cases h
    exact congrArg Frame.number (ground_enter (r := { r with groups := r.groups + 1 }) _ _)
  | named name =>
    simp only [make] at h
    split_ifs at h
    cases h
    exact congrArg Frame.number
      (ground_enter (r := { r with names := name :: r.names, groups := r.groups + 1 }) _ _)

theorem ground_leave (h : r.leave = some next) : next.ground.number = r.ground.number := by
  unfold leave at h
  unfold ground
  split at h
  · cases h
  · rename_i f around outer houter
    cases h
    rw [houter, List.getLast?_cons]
    cases outer.getLast? <;> rfl

/-- The group around all others does not capture. -/
theorem ground_run (h : initial.run t = some last) : last.ground.number = none := by
  refine run_invariant (P := fun r => r.ground.number = none) ?_ ?_ rfl h
  · exact fun m hr hnext => (ground_make hnext).trans hr
  · exact fun hr hnext => (ground_leave hnext).trans hr

/-! ## One more group around it all -/

variable {base : Flags × Frame}

/-- The reading with one more group around it all. -/
def below (base : Flags × Frame) (r : Reading) : Reading :=
  { r with outer := r.outer ++ [base] }

@[simp] theorem below_flags : (r.below base).flags = r.flags := rfl

theorem below_outer_ne_nil : (r.below base).outer ≠ [] :=
  List.append_ne_nil_of_right_ne_nil _ (List.cons_ne_nil _ _)

theorem make_below (m : Move) : (r.below base).make m = (r.make m).map (below base) := by
  cases m with
  | again least most =>
    change (r.frame.repeatLast least most).map _ = ((r.frame.repeatLast least most).map _).map _
    cases r.frame.repeatLast least most <;> rfl
  | named name =>
    simp only [make]
    change (if r.names.contains name then none else _) = _
    split_ifs <;> rfl
  | _ => rfl

theorem leave_below (h : r.leave = some next) :
    (r.below base).leave = some (next.below base) := by
  unfold leave at h
  split at h
  · cases h
  · rename_i f around outer houter
    cases h
    unfold leave below
    rw [houter]
    rfl

theorem leave_of_closed (h : r.outer = []) : r.leave = none := by
  unfold leave
  rw [h]

theorem leave_of_open (h : r.outer ≠ []) : ∃ next, r.leave = some next := by
  unfold leave
  cases houter : r.outer with
  | nil => exact absurd houter h
  | cons entry outer => exact ⟨_, rfl⟩

/-- The reading comes to a bracket that closes more groups than the text has opened. -/
inductive Escapes : Reading → Text → Prop
  | here {r : Reading} {t rest : Text} (hclose : r.flags.skip t = ')' :: rest)
    (houter : r.outer = []) : Escapes r t
  | later {r next : Reading} {t after : Text}
    (hstep : r.step (r.flags.skip t) = some (next, after)) (h : Escapes next after) : Escapes r t

/-- A text that can be read opens every group that it closes. -/
theorem not_escapes_of_run (h : r.run t = some last) : ¬r.Escapes t := by
  intro hescapes
  induction hescapes with
  | here hclose houter =>
    rw [run_of_close hclose, leave_of_closed houter] at h
    cases h
  | @later r next t after hstep _ ih =>
    cases hskip : r.flags.skip t with
    | nil =>
      rw [hskip] at hstep
      cases hstep
    | cons c rest =>
      rw [hskip] at hstep
      rw [run_of_cons hskip, hstep] at h
      exact ih h

/-- A text is read on its own, on its own with closing brackets behind it, and with these within one
more group. -/
inductive Enclosed (base : Flags × Frame) (r : Reading) (t : Text) : Prop
  /-- The text is read, and then the brackets are. -/
  | ends (last : Reading) (halone : r.run t = some last)
    (hbehind : r.run (t ++ closing) = last.run closing)
    (hclosed : (r.below base).run (t ++ closing) = (last.below base).run closing)
  /-- The text is read, and the brackets are part of its last comment. -/
  | remark (last : Reading) (halone : r.run t = some last)
    (hbehind : r.run (t ++ closing) = some last)
    (hclosed : (r.below base).run (t ++ closing) = some (last.below base))
  /-- The text is refused, and with brackets behind it a group stays open if it is not. -/
  | refused (halone : r.run t = none)
    (hclosed : ∀ last, (r.below base).run (t ++ closing) = some last → last.outer ≠ [])

theorem Enclosed.step {after : Text} (h : Enclosed base next after)
    (halone : r.run t = next.run after)
    (hbehind : r.run (t ++ closing) = next.run (after ++ closing))
    (hclosed : (r.below base).run (t ++ closing) = (next.below base).run (after ++ closing)) :
    Enclosed base r t := by
  cases h with
  | ends last halone' hbehind' hclosed' =>
    exact .ends last (halone.trans halone') (hbehind.trans hbehind') (hclosed.trans hclosed')
  | remark last halone' hbehind' hclosed' =>
    exact .remark last (halone.trans halone') (hbehind.trans hbehind') (hclosed.trans hclosed')
  | refused halone' hclosed' =>
    exact .refused (halone.trans halone') fun last h => hclosed' last (hclosed.symm.trans h)

theorem Enclosed.of_none (halone : r.run t = none)
    (hclosed : (r.below base).run (t ++ closing) = none) : Enclosed base r t := by
  refine .refused halone fun last h => ?_
  rw [hclosed] at h
  cases h

/-- What is left of the brackets when one has been taken closes no group. -/
theorem outer_of_broken (hrest : rest <:+ ['$']) (hrun : r.run rest = some last) :
    last.outer = r.outer := by
  have hnil : ∀ r : Reading, r.flags.skip [] = [] := fun r => List.suffix_nil.1 (skip_suffix _ [])
  rcases List.suffix_cons_iff.1 hrest with rfl | hrest
  · obtain ⟨n, hmove⟩ : ∃ n, move? r.flags '$' [] = some (.push n, []) := ⟨_, rfl⟩
    rw [run_of_item (skip_of_plain _ rfl (by decide)) (by decide), hmove] at hrun
    change (r.push n).run [] = _ at hrun
    rw [run_of_end (hnil _)] at hrun
    cases hrun
    rfl
  · obtain rfl := List.suffix_nil.1 hrest
    rw [run_of_end (hnil r)] at hrun
    cases hrun
    rfl

/-- A brace in front of closing brackets is no repetition. -/
theorem run_of_stuck (h : r.flags.skip rest = closing) : r.run ('{' :: rest) = none := by
  have hnumber : decimal? r.flags closing = some (none, closing) := rfl
  have hbounds : bounds? r.flags rest = none := by
    rw [bounds?, h, hnumber]
  rw [run_of_item (skip_of_plain _ rfl (by decide)) (by decide)]
  change ((bounds? r.flags rest).bind _).bind _ = _
  rw [hbounds]
  rfl

/-- An item is read within a group as on its own, if what stands behind it is. -/
theorem enclosed_of_item (hc : c ≠ ')') (hskip : r.flags.skip t = c :: rest)
    (hbehind : r.flags.skip (t ++ closing) = c :: (rest ++ closing))
    (hnext : ∀ {m next after}, move? r.flags c rest = some (m, after) → r.make m = some next →
      Enclosed base next after) :
    Enclosed base r t := by
  have halone := run_of_item hskip hc
  have hwith := run_of_item hbehind hc
  have hclosed := run_of_item (r := r.below base) hbehind hc
  simp only [make_below, below_flags] at hclosed
  have hbeside := beside_move? r.flags c rest
  generalize hmove : move? r.flags c rest = alone at halone hbeside
  generalize move? r.flags c (rest ++ closing) = enclosed at hwith hclosed hbeside
  rcases hbeside with hbeside | ⟨rfl, n, after, rfl, hstuck⟩
  · cases hbeside with
    | failed => exact .of_none halone hclosed
    | same m after =>
      simp only [Option.bind_some] at halone hwith hclosed
      cases hmake : r.make m with
      | none =>
        rw [hmake] at halone hclosed
        exact .of_none halone hclosed
      | some next =>
        rw [hmake] at halone hwith hclosed
        exact (hnext hmove hmake).step halone hwith hclosed
    | remark m =>
      simp only [Option.bind_some] at halone hwith hclosed
      cases hmake : r.make m with
      | none =>
        rw [hmake] at halone hclosed
        exact .of_none halone hclosed
      | some next =>
        rw [hmake] at halone hwith hclosed
        exact .remark next (halone.trans run_nil) (hwith.trans run_nil) (hclosed.trans run_nil)
    | @broken m after hafter =>
      refine .refused halone fun last hlast => ?_
      rw [hclosed, Option.bind_some] at hlast
      obtain ⟨below', hbelow, hrun⟩ := Option.bind_eq_some_iff.1 hlast
      obtain ⟨next, -, rfl⟩ := Option.map_eq_some_iff.1 hbelow
      rw [outer_of_broken hafter hrun]
      exact below_outer_ne_nil
  · refine .of_none halone (hclosed.trans ?_)
    exact run_of_stuck (r := (r.push n).below base) hstuck

/-- **A text that closes no group but its own is read within a group as on its own.** -/
theorem enclosed_run (base : Flags × Frame) (hescapes : ¬r.Escapes t) : Enclosed base r t := by
  induction hlength : t.length using Nat.strong_induction_on generalizing r t with
  | _ n ih =>
    have hshort := (skip_suffix r.flags t).length_le
    cases hskip : r.flags.skip t with
    | nil =>
      rcases skip_closing r.flags t with hbehind | ⟨-, hbehind⟩
      · have hsame : r.flags.skip (t ++ closing) = r.flags.skip closing := by
          rw [hbehind, hskip]
          exact (skip_of_plain _ rfl (by decide)).symm
        exact .ends r (run_of_end hskip) (run_congr hsame) (run_congr (r := r.below base) hsame)
      · exact .remark r (run_of_end hskip) (run_of_end hbehind) (run_of_end hbehind)
    | cons c rest =>
      have hbehind : r.flags.skip (t ++ closing) = c :: (rest ++ closing) := by
        rcases skip_closing r.flags t with h | ⟨h, -⟩
        · rw [h, hskip, List.cons_append]
        · rw [hskip] at h
          cases h
      rw [hskip, List.length_cons] at hshort
      by_cases hc : c = ')'
      · subst hc
        have houter : r.outer ≠ [] := fun h => hescapes (.here hskip h)
        obtain ⟨next, hleave⟩ := leave_of_open houter
        have hnext : ¬next.Escapes rest := by
          refine fun h => hescapes (.later ?_ h)
          rw [hskip]
          change r.leave.map (·, rest) = _
          rw [hleave]
          rfl
        refine (ih rest.length (by omega) hnext rfl).step ?_ ?_ ?_
        · rw [run_of_close hskip, hleave]
          rfl
        · rw [run_of_close hbehind, hleave]
          rfl
        · rw [run_of_close (r := r.below base) hbehind, leave_below hleave]
          rfl
      · refine enclosed_of_item hc hskip hbehind fun {m next after} hmove hmake => ?_
        have hafter := (move?_suffix _ hmove).length_le
        refine ih after.length (by omega) (fun h => hescapes (.later ?_ h)) rfl
        rw [hskip, r.step_eq hc, hmove]
        change (r.make m).map (·, after) = _
        rw [hmake]
        rfl

end Reading

/-! ## The pattern for the whole of a text -/

/-- The pattern ends in a comment: brackets behind it are not read. -/
def EndsInRemark (p : Text) : Prop :=
  ∃ last, Reading.initial.run p = some last ∧ Reading.initial.run (p ++ closing) = some last

/-- What a text is read as, however deeply it is nested. -/
def read? (t : Text) : Option Node :=
  (Reading.initial.run t).bind Reading.finish

theorem parse?_eq (t : Text) :
    parse? t = ((read? t).filter fun n => n.depth ≤ depthLimit).map (·.pattern) := by
  unfold parse? read?
  cases (Reading.initial.run t).bind Reading.finish with
  | none => rfl
  | some n =>
    by_cases hdepth : n.depth ≤ depthLimit <;> simp [Option.filter_some, hdepth]

theorem parse?_eq_some_iff {t : Text} {q : Pattern} :
    parse? t = some q ↔ ∃ n, read? t = some n ∧ n.depth ≤ depthLimit ∧ n.pattern = q := by
  rw [parse?_eq]
  simp [Option.filter_eq_some_iff, and_assoc]

/-- The pattern that has to describe the whole of a text. -/
def whole (p : Pattern) : Pattern :=
  .seq (.look .textStart) (.seq (.group none p) (.seq (.look .textEnd) .empty))

/-- What the group around the pattern stands in. -/
def anchor : Flags × Frame :=
  ({}, ⟨[], [.leaf (.look .textStart)], none⟩)

theorem run_anchored (p : Text) :
    Reading.initial.run (SpamDetector.anchored p) =
      (Reading.initial.below anchor).run (p ++ closing) := by
  have htext : SpamDetector.anchored p = '^' :: '(' :: '?' :: ':' :: (p ++ closing) := rfl
  have hstart : ∀ t, move? {} '^' t = some (.push (.leaf (.look .textStart)), t) := fun _ => rfl
  have hgroup : ∀ t, move? {} '(' ('?' :: ':' :: t) = some (.enter {}, t) := fun _ => rfl
  rw [htext, Reading.run_of_item (skip_of_plain _ rfl (by decide)) (by decide)]
  change (move? {} '^' _).bind _ = _
  rw [hstart, Option.bind_some]
  change (Reading.initial.push _).run _ = _
  rw [Reading.run_of_item (skip_of_plain _ rfl (by decide)) (by decide)]
  change (move? {} '(' _).bind _ = _
  rw [hgroup]
  rfl

/-- The brackets close the group around the pattern. -/
theorem run_closing_of_closed {last : Reading} (houter : last.outer = [])
    (hnumber : last.ground.number = none) :
    ((last.below anchor).run closing).bind Reading.finish =
      some ⟨whole last.frame.content.pattern, last.frame.content.depth + 2, true⟩ := by
  have hframe : last.ground = last.frame := by
    unfold Reading.ground
    rw [houter]
    rfl
  have hleave : (last.below anchor).leave = some { last with
      flags := {}, outer := [],
      frame := anchor.2.push (last.frame.content.group last.frame.number) } := by
    unfold Reading.leave Reading.below
    rw [houter]
    rfl
  rw [hframe] at hnumber
  rw [Reading.run_closing_eq, hleave, Option.bind_some, Reading.run_dollar rfl, Option.bind_some,
    Reading.finish_of_closed rfl, hnumber]
  have hdepth : 1 + max (max (max 0 0) (1 + last.frame.content.depth)) 0 =
      last.frame.content.depth + 2 := by omega
  exact congrArg (fun depth => some (Node.mk (whole last.frame.content.pattern) depth true)) hdepth

/-- The brackets close another group, and the one around the pattern stays open. -/
theorem run_closing_of_open {last : Reading} (houter : last.outer ≠ []) :
    ((last.below anchor).run closing).bind Reading.finish = none := by
  obtain ⟨next, hleave⟩ := Reading.leave_of_open houter
  rw [Reading.run_closing_eq, Reading.leave_below hleave, Option.bind_some, Option.bind_eq_none_iff]
  intro final hfinal
  refine Reading.finish_of_open ?_
  rw [Reading.outer_of_broken (List.suffix_refl _) hfinal]
  exact Reading.below_outer_ne_nil

/-- **A pattern that does not close the group around it is read within it as on its own**, unless it
ends in a comment: then it is refused. -/
theorem read?_anchored {p : Text} (hescapes : ¬Reading.initial.Escapes p) (n : Node) :
    read? (SpamDetector.anchored p) = some n ↔
      ¬EndsInRemark p ∧ ∃ inner, read? p = some inner ∧
        n = ⟨whole inner.pattern, inner.depth + 2, true⟩ := by
  have hnothing : ∀ P : Prop, none = some n ↔ P ∧ ∃ inner : Node, none = some inner ∧
      n = ⟨whole inner.pattern, inner.depth + 2, true⟩ := by
    intro P
    constructor
    · exact fun h => nomatch h
    · rintro ⟨-, inner, hinner, -⟩
      cases hinner
  unfold read? EndsInRemark
  rw [run_anchored]
  cases Reading.enclosed_run anchor hescapes with
  | ends last halone hbehind hclosed =>
    rw [hclosed, halone, hbehind, Option.bind_some]
    by_cases houter : last.outer = []
    · have hno : ¬∃ final, some last = some final ∧ last.run closing = some final := by
        rintro ⟨final, -, hrun⟩
        rw [Reading.run_closing_eq, Reading.leave_of_closed houter] at hrun
        cases hrun
      rw [run_closing_of_closed houter (Reading.ground_run halone), Reading.finish_of_closed houter]
      constructor
      · intro h
        exact ⟨hno, last.frame.content, rfl, (Option.some.inj h).symm⟩
      · rintro ⟨-, inner, hinner, rfl⟩
        cases hinner
        rfl
    · rw [run_closing_of_open houter, Reading.finish_of_open houter]
      exact hnothing _
  | remark last halone hbehind hclosed =>
    rw [hclosed, Option.bind_some, Reading.finish_of_open Reading.below_outer_ne_nil]
    exact ⟨fun h => (nomatch h), fun h => absurd ⟨last, halone, hbehind⟩ h.1⟩
  | refused halone hclosed =>
    have hnone :
        ((Reading.initial.below anchor).run (p ++ closing)).bind Reading.finish = none := by
      rw [Option.bind_eq_none_iff]
      exact fun last hlast => Reading.finish_of_open (hclosed last hlast)
    rw [hnone, halone]
    exact hnothing _

end Postroom.Pattern
