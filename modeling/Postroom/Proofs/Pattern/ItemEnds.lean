import Mathlib.Data.List.TakeWhile
import Postroom.Proofs.Pattern.Readers

/-!
# Where the items of the notation end

The parts of items are readers: numbers and bounds, escapes, flags and names of groups.  One escape
is no reader: a brace behind a word edge opens a name only if a letter follows, so where the text
breaks off behind the brace, the closing brackets are looked at (`beside_edge?`).
-/

namespace Postroom.Pattern

variable {α : Type}

/-! ## Numbers -/

theorem dropBlanks_closing (t : Text) :
    (t ++ closing).dropWhile isBlank = t.dropWhile isBlank ++ closing := by
  have hclosing : closing.dropWhile isBlank = closing := by decide
  rw [List.dropWhile_append, hclosing]
  split_ifs with hempty
  · rw [List.isEmpty_iff.1 hempty, List.nil_append]
  · rfl

theorem isReader_dropBlanks : IsReader fun t => some ((), t.dropWhile isBlank) := by
  constructor
  · intro t a rest h
    cases h
    exact List.dropWhile_suffix _
  · intro t
    rw [dropBlanks_closing]
    exact .same () _

/-- The number that some digits stand for, and what is left behind them without its blanks. -/
def number? (digits t : Text) : Option (Option ℕ × Text) :=
  match Text.toNat? digits with
  | none => some (none, t.dropWhile isBlank)
  | some n => if n < 0x100000000 then some (some n, t.dropWhile isBlank) else none

theorem isReader_number? (digits : Text) : IsReader (number? digits) := by
  have hblanks : ∀ n : Option ℕ, IsReader fun t => some (n, t.dropWhile isBlank) :=
    fun n => isReader_dropBlanks.map fun _ => n
  unfold number?
  cases Text.toNat? digits with
  | none => exact hblanks none
  | some n =>
    simp only
    split_ifs
    · exact hblanks (some n)
    · exact isReader_none

theorem isReader_decimal? (f : Flags) : IsReader (decimal? f) :=
  isReader_dropBlanks.andThen fun _ => (isReader_digitsFrom f).andThen isReader_number?

/-- The bounds of a repetition, as one part behind another. -/
theorem bounds?_eq (f : Flags) (t : Text) :
    (bounds? f t).map (fun read => ((read.1, read.2.1), read.2.2)) =
      andThen (decimal? f) (fun least => least.elim (fun _ => none) fun least =>
        onChar '}' (fun rest => some ((least, some least), rest)) <|
        onChar ',' (fun rest =>
          onChar '}' (fun rest => some ((least, none), rest))
            (andThen (decimal? f) fun most => most.elim (fun _ => none) fun most =>
              if least ≤ most then
                onChar '}' (fun rest => some ((least, some most), rest)) fun _ => none
              else fun _ => none)
            (f.skip rest))
        fun _ => none) (f.skip t) := by
  fun_cases bounds? f t with
  | case1 least rest h => simp [andThen, h, onChar_self]
  | case2 least rest h rest' hskip => simp [andThen, h, onChar_self, onChar_of_ne, hskip]
  | case3 least rest h most rest' hle hskip hmost =>
    simp [andThen, h, onChar_self, onChar_of_ne, hmost, hle]
  | case4 least rest h most rest' hle hskip hmost =>
    simp [andThen, h, onChar_self, onChar_of_ne, hmost, hle]
  | case5 least rest h hskip hmost =>
    have hcomma : ∀ rest' : Text, ',' :: rest = '}' :: rest' → False := fun rest' h => nomatch h
    simp only [andThen, h, Option.bind_some, Option.elim_some, onChar_of_ne hcomma, onChar_self,
      onChar_of_ne hskip]
    rcases hread : decimal? f (f.skip rest) with _ | ⟨_ | most, rest'⟩
    · rfl
    · rfl
    · have hbrace : ∀ after, rest' = '}' :: after → False :=
        fun after heq => hmost most after (by rw [hread, heq])
      simp only [Option.bind_some, Option.elim_some]
      split_ifs
      · rw [onChar_of_ne hbrace]
        rfl
      · rfl
  | case6 h h' =>
    unfold andThen
    rcases hread : decimal? f (f.skip t) with _ | ⟨_ | least, rest⟩
    · rfl
    · rfl
    · have hbrace : ∀ after, rest = '}' :: after → False :=
        fun after heq => h least after (by rw [hread, heq])
      have hcomma : ∀ after, rest = ',' :: after → False :=
        fun after heq => h' least after (by rw [hread, heq])
      simp only [Option.bind_some, Option.elim_some, onChar_of_ne hbrace, onChar_of_ne hcomma]
      rfl

theorem isReader_bounds? (f : Flags) :
    IsReader fun t => (bounds? f t).map fun read => ((read.1, read.2.1), read.2.2) := by
  simp only [bounds?_eq]
  refine IsReader.skip ((isReader_decimal? f).andThen fun least => ?_) f
  cases least with
  | none => exact isReader_none
  | some least =>
    refine isReader_onChar (by decide) (isReader_some _) ?_
    refine isReader_onChar (by decide) ?_ isReader_none
    refine IsReader.skip (isReader_onChar (by decide) (isReader_some _) ?_) f
    refine (isReader_decimal? f).andThen fun most => ?_
    cases most with
    | none => exact isReader_none
    | some most =>
      simp only [Option.elim_some]
      split_ifs
      · exact isReader_onChar (by decide) (isReader_some _) isReader_none
      · exact isReader_none

/-! ## Escapes -/

theorem isReader_fixedHex? (f : Flags) (digits : Text) (count : ℕ) :
    IsReader (fixedHex? f digits count) := by
  induction count generalizing digits with
  | zero => exact (isReader_option (charOfHex? digits))
  | succ count ih =>
    have heq : fixedHex? f digits (count + 1) = onFirst (fun c => (Text.hexValue c).isSome)
        (fun c rest => fixedHex? f (digits ++ [c]) count (f.skip rest)) fun _ => none := by
      funext t
      cases t <;> rfl
    rw [heq]
    exact isReader_onFirst (fun c => (ih _).skip f) isReader_none (.inr rfl)

theorem braced?_succ (f : Flags) (fuel : ℕ) (t : Text) :
    braced? f (fuel + 1) t =
      onChar '}' (fun rest => some ([], rest))
        (onFirst (fun _ => true) (fun c rest =>
          (braced? f fuel rest).map fun read => (c :: read.1, read.2)) fun _ => none)
        (f.skip t) := by
  rw [braced?]
  split
  · rename_i heq
    rw [heq]
    rfl
  · rename_i heq
    rw [heq, onChar_self]
  · rename_i c rest hbrace heq
    rw [heq, onChar_cons_of_ne fun hc => hbrace hc]
    rfl

theorem braced?_suffix (f : Flags) {fuel : ℕ} {t inner rest : Text}
    (h : braced? f fuel t = some (inner, rest)) : rest <:+ t := by
  induction fuel generalizing t inner with
  | zero => cases h
  | succ fuel ih =>
    have hskip := skip_suffix f t
    unfold braced? at h
    split at h
    · cases h
    · rename_i heq
      cases h
      exact (List.suffix_cons '}' _).trans (heq ▸ hskip)
    · rename_i c after _ heq
      obtain ⟨⟨inner', rest'⟩, hread, hcons⟩ := Option.map_eq_some_iff.1 h
      cases hcons
      exact ((ih hread).trans (List.suffix_cons c after)).trans (heq ▸ hskip)

/-- With fuel for the whole text, what stands between braces does not depend on it. -/
theorem beside_braced? (f : Flags) {m n : ℕ} {t : Text} (hn : t.length < n)
    (hm : (t ++ closing).length < m) :
    Beside (braced? f n t) (braced? f m (t ++ closing)) := by
  induction n generalizing t m with
  | zero => cases hn
  | succ n ih =>
    obtain ⟨m, rfl⟩ : ∃ k, m = k + 1 := Nat.exists_eq_succ_of_ne_zero (Nat.ne_zero_of_lt hm)
    have hlength := (skip_suffix f t).length_le
    rw [braced?_succ, braced?_succ]
    rcases skip_closing f t with hskip | ⟨hskip, hskip'⟩
    · have hlength' := (skip_suffix f (t ++ closing)).length_le
      rw [hskip] at hlength' ⊢
      generalize f.skip t = rest at hlength hlength'
      cases rest with
      | nil =>
        have hopen : ([] : Text) ++ closing = ')' :: ['$'] := rfl
        rw [hopen, onChar_cons_of_ne (by decide)]
        change Beside none ((braced? f m ['$']).map _)
        cases h : braced? f m ['$'] with
        | none => exact .failed
        | some read => exact .broken _ (braced?_suffix f h)
      | cons c rest =>
        by_cases hc : c = '}'
        · subst hc
          rw [List.cons_append, onChar_self, onChar_self]
          exact .same [] rest
        · rw [List.cons_append, onChar_cons_of_ne hc, onChar_cons_of_ne hc]
          rw [List.length_cons] at hlength
          rw [List.cons_append, List.length_cons] at hlength'
          exact (ih (by omega) (by omega)).map (c :: ·)
    · rw [hskip, hskip']
      exact .failed

theorem isReader_braced? (f : Flags) : IsReader fun t => braced? f (t.length + 1) t :=
  ⟨braced?_suffix f, fun _ => beside_braced? f (Nat.lt_succ_self _) (Nat.lt_succ_self _)⟩

/-- Blanks and comments behind what stands for something, if it does. -/
theorem isReader_optionSkip (f : Flags) (o : Option α) :
    IsReader fun t => o.map fun a => (a, f.skip t) := by
  cases o with
  | none => exact isReader_none
  | some a => exact (isReader_skip f).map fun _ => a

theorem hex?_eq (f : Flags) (kind : Char) (t : Text) :
    hex? f kind t =
      onChar '{'
        (andThen (fun rest => braced? f (rest.length + 1) rest) fun digits rest =>
          ((charOfHex? digits).map fun c => .literal c false).map fun a => (a, f.skip rest))
        (fun rest =>
          (fixedHex? f [] (if kind = 'x' then 2 else if kind = 'u' then 4 else 8) rest).map
            fun read => (.literal read.1 (kind = 'x'), read.2))
        (f.skip t) := by
  unfold hex?
  split
  · rename_i heq
    rw [heq, onChar_self]
    unfold andThen
    simp only [Option.map_map]
    rfl
  · rename_i hbrace
    rw [onChar_of_ne hbrace]

theorem isReader_hex? (f : Flags) (kind : Char) : IsReader (hex? f kind) := by
  have heq : hex? f kind = _ := funext (hex?_eq f kind)
  rw [heq]
  refine IsReader.skip (isReader_onChar (by decide) ?_ ?_) f
  · exact (isReader_braced? f).andThen fun digits => isReader_optionSkip f _
  · exact (isReader_fixedHex? f [] _).map fun c => Atom.literal c (kind = 'x')

theorem propertySet?_eq (f : Flags) (negated : Bool) (t : Text) :
    propertySet? f negated t =
      if !f.unicode then none
      else
        onChar '{'
          (andThen (fun rest => braced? f (rest.length + 1) rest) fun name rest =>
            ((namedSet? name).bind fun named =>
              (f.close (negated != named.2) named.1).map Atom.set).map fun a => (a, rest))
          (onFirst (· != '\\') (fun c rest =>
            ((PropertyName.set? [c]).bind fun s => (f.close negated s).map Atom.set).map
              fun a => (a, f.skip rest)) fun _ => none)
          (f.skip t) := by
  unfold propertySet?
  split_ifs
  · rfl
  · split
    · rename_i heq
      rw [heq]
      rfl
    · rename_i heq
      rw [heq, onChar_self]
      unfold andThen
      simp only [Option.map_bind, Function.comp_def, Option.map_map]
    · rename_i c rest hbrace heq
      rw [heq, onChar_cons_of_ne fun hc => hbrace hc, onFirst_cons]
      simp only [bne_iff_ne, ne_eq, ite_not]
      split_ifs
      · rfl
      · simp only [Option.map_bind, Function.comp_def, Option.map_map]

theorem isReader_propertySet? (f : Flags) (negated : Bool) : IsReader (propertySet? f negated) := by
  have heq : propertySet? f negated = _ := funext (propertySet?_eq f negated)
  rw [heq]
  split_ifs
  · exact isReader_none
  · refine IsReader.skip (isReader_onChar (by decide) ?_ ?_) f
    · exact (isReader_braced? f).andThen fun name => isReader_option _
    · exact isReader_onFirst (fun c => isReader_optionSkip f _) isReader_none (.inr rfl)

/-- What an escape stands for, when it is no word edge. -/
theorem isReader_escape? (f : Flags) {c : Char} (hc : c ≠ 'b') :
    IsReader fun rest => escape? f (c :: rest) := by
  unfold escape?
  simp only
  split_ifs
  · exact isReader_hex? f c
  · exact isReader_propertySet? f _
  · have heq : ∀ rest : Text, ((letterSet? f c).map fun s => (Atom.set s, rest)) =
        ((letterSet? f c).map Atom.set).map fun a => (a, rest) :=
      fun rest => by rw [Option.map_map]; rfl
    simp only [heq]
    exact isReader_option _
  · exact isReader_some _
  · split
    all_goals first
      | exact isReader_some _
      | exact isReader_none
      | exact absurd rfl hc

/-- The word edge of a name, up to and with the closing brace. -/
def namedEdge? (f : Flags) : Text → Option (Look × Text) :=
  andThen (fun t => some (edgeName f t.length t)) fun name =>
    onChar '}' (fun rest => (edgeOfName? (!f.unicode) name).map fun l => (l, rest)) fun _ => none

theorem isReader_namedEdge? (f : Flags) : IsReader (namedEdge? f) := by
  have hname : IsReader fun t => some (edgeName f t.length t) := by
    simp only [edgeName_eq]
    refine ⟨fun {t name rest} h => ?_, fun t => ?_⟩
    · have hsuffix := frontOf_suffix f (fun c => c.isAlpha || c == '-') t.length t
      rwa [Option.some.inj h] at hsuffix
    · exact beside_frontOf f (by decide) (Nat.le_refl _) (Nat.le_refl _)
  exact hname.andThen fun name => isReader_onChar (by decide) (isReader_option _) isReader_none

theorem edge?_of_ne (f : Flags) {t : Text} (h : ∀ rest, t = '{' :: rest → False) :
    edge? f t = some (.wordEdge (!f.unicode), t) := by
  unfold edge?
  split
  · rename_i rest
    exact (h rest rfl).elim
  · rfl

theorem edge?_brace (f : Flags) (rest : Text) :
    edge? f ('{' :: rest) =
      match f.skip rest with
      | [] => none
      | c :: inner =>
        if c.isAlpha ∨ c = '-' then namedEdge? f (c :: inner)
        else some (.wordEdge (!f.unicode), '{' :: rest) := by
  unfold edge? namedEdge? andThen
  simp only
  cases f.skip rest with
  | nil => rfl
  | cons c inner =>
    simp only
    split_ifs
    · rw [Option.bind_some, List.length_cons]
      split
      · rename_i heq
        rw [heq, onChar_self]
      · rename_i hname
        have hne : ∀ after, (edgeName f (inner.length + 1) (c :: inner)).2 = '}' :: after → False :=
          fun after h => hname _ after (by rw [← h])
        rw [onChar_of_ne hne]
    · rfl

theorem edge?_suffix (f : Flags) {t rest : Text} {l : Look} (h : edge? f t = some (l, rest)) :
    rest <:+ t := by
  by_cases hbrace : ∃ inner, t = '{' :: inner
  · obtain ⟨inner, rfl⟩ := hbrace
    rw [edge?_brace] at h
    split at h
    · cases h
    · rename_i heq
      split_ifs at h
      · have hsuffix := (isReader_namedEdge? f).suffix h
        rw [← heq] at hsuffix
        exact (hsuffix.trans (skip_suffix f inner)).trans (List.suffix_cons _ inner)
      · cases h
        exact List.suffix_refl _
  · rw [edge?_of_ne f fun rest h => hbrace ⟨rest, h⟩] at h
    cases h
    exact List.suffix_refl t

/-- A brace behind a word edge opens a name only if a letter or a hyphen follows, so it is looked at
together with what stands behind it.  Without a name it opens the bounds of a repetition, and the
closing brackets are none. -/
theorem beside_edge? (f : Flags) (t : Text) :
    Beside (edge? f t) (edge? f (t ++ closing)) ∨
      edge? f t = none ∧ ∃ l rest, edge? f (t ++ closing) = some (l, '{' :: rest) ∧
        f.skip rest = closing := by
  by_cases hbrace : ∃ inner, t = '{' :: inner
  · obtain ⟨inner, rfl⟩ := hbrace
    rw [List.cons_append, edge?_brace, edge?_brace]
    rcases skip_closing f inner with hskip | ⟨hskip, hskip'⟩
    · rw [hskip]
      cases hinner : f.skip inner with
      | nil =>
        have hclosing : f.skip (inner ++ closing) = closing := by
          rw [hskip, hinner, List.nil_append]
        refine .inr ⟨rfl, .wordEdge (!f.unicode), inner ++ closing, ?_, hclosing⟩
        rfl
      | cons c rest =>
        refine .inl ?_
        rw [List.cons_append]
        simp only
        split_ifs
        · exact (isReader_namedEdge? f).beside (c :: rest)
        · exact .same _ ('{' :: inner)
    · rw [hskip, hskip']
      exact .inl .failed
  · have hno : ∀ rest, t = '{' :: rest → False := fun rest h => hbrace ⟨rest, h⟩
    have hno' : ∀ rest, t ++ closing = '{' :: rest → False := by
      intro rest h
      cases t with
      | nil => cases h
      | cons c t => exact hno t (by rw [(List.cons.inj h).1])
    rw [edge?_of_ne f hno, edge?_of_ne f hno']
    exact .inl (.same _ t)

theorem escape?_suffix (f : Flags) {t rest : Text} {a : Atom} (h : escape? f t = some (a, rest)) :
    rest <:+ t := by
  cases t with
  | nil => cases h
  | cons c t =>
    refine List.IsSuffix.trans ?_ (List.suffix_cons c t)
    by_cases hc : c = 'b'
    · subst hc
      change ((edge? f t).map fun read => (Atom.look read.1, read.2)) = _ at h
      obtain ⟨read, hread, heq⟩ := Option.map_eq_some_iff.1 h
      cases heq
      exact edge?_suffix f hread
    · exact (isReader_escape? f hc).suffix h

/-- What an escape stands for.  A word edge may be read where the text breaks off behind a brace. -/
theorem beside_escape? (f : Flags) (t : Text) :
    Beside (escape? f t) (escape? f (t ++ closing)) ∨
      escape? f t = none ∧ ∃ l rest, escape? f (t ++ closing) = some (.look l, '{' :: rest) ∧
        f.skip rest = closing := by
  cases t with
  | nil =>
    have hclosing : escape? f closing = some (.literal ')' false, ['$']) := rfl
    refine .inl ?_
    rw [List.nil_append, hclosing]
    exact .broken _ (List.suffix_refl _)
  | cons c t =>
    by_cases hc : c = 'b'
    · subst hc
      have hedge : ∀ t, escape? f ('b' :: t) =
          (edge? f t).map fun read => (Atom.look read.1, read.2) := fun _ => rfl
      rw [List.cons_append, hedge, hedge]
      rcases beside_edge? f t with h | ⟨hnone, l, rest, hsome, hskip⟩
      · exact .inl (h.map Atom.look)
      · rw [hnone, hsome]
        exact .inr ⟨rfl, l, rest, rfl, hskip⟩
    · exact .inl ((isReader_escape? f hc).beside t)

/-! ## Groups -/

theorem flags?_suffix {f f' : Flags} {seen t rest : Text} {on dangling : Bool} {stop : Char}
    (h : flags? f seen on dangling t = some (f', stop, rest)) : rest <:+ t := by
  induction t generalizing f seen on dangling with
  | nil => cases h
  | cons c t ih =>
    unfold flags? at h
    split_ifs at h
    · cases h
      exact List.suffix_cons _ _
    · cases h
      exact List.suffix_cons _ _
    · exact (ih h).trans (List.suffix_cons c t)
    · split at h
      · exact (ih h).trans (List.suffix_cons c t)
      · cases h

theorem isReader_flags? (f : Flags) (seen : Text) (on dangling : Bool) :
    IsReader fun t =>
      (flags? f seen on dangling t).map fun read => ((read.1, read.2.1), read.2.2) := by
  constructor
  · intro t a rest h
    obtain ⟨read, hread, heq⟩ := Option.map_eq_some_iff.1 h
    cases heq
    exact flags?_suffix hread
  · intro t
    induction t generalizing f seen on dangling with
    | nil =>
      have hclosing : flags? f seen on dangling closing =
          if dangling ∨ seen.isEmpty then none else some (f, ')', ['$']) := rfl
      rw [List.nil_append, hclosing]
      split_ifs
      · exact .failed
      · exact .broken _ (List.suffix_refl _)
    | cons c t ih =>
      rw [List.cons_append]
      unfold flags?
      split_ifs
      · exact .failed
      · exact .same _ t
      · exact .failed
      · exact .same _ t
      · exact ih _ _ _ _
      · exact .failed
      · exact .failed
      · cases f.switch c on with
        | none => exact .failed
        | some f => exact ih _ _ _ _

theorem dropWhile_until {q : Char} {before : Text} (h : q ∉ before) (rest : Text) :
    (before ++ q :: rest).dropWhile (· ≠ q) = q :: rest := by
  induction before with
  | nil => simp
  | cons c before ih =>
    rw [List.mem_cons, not_or] at h
    rw [List.cons_append, List.dropWhile_cons, if_pos (by simpa using Ne.symm h.1), ih h.2]

theorem takeWhile_until {q : Char} {before : Text} (h : q ∉ before) (rest : Text) :
    (before ++ q :: rest).takeWhile (· ≠ q) = before := by
  induction before with
  | nil => simp
  | cons c before ih =>
    rw [List.mem_cons, not_or] at h
    rw [List.cons_append, List.takeWhile_cons, if_pos (by simpa using Ne.symm h.1), ih h.2]

theorem dropWhile_absent {q : Char} {t : Text} (h : q ∉ t) : t.dropWhile (· ≠ q) = [] := by
  rw [List.dropWhile_eq_nil_iff]
  intro c hc
  simp only [ne_eq, decide_not, Bool.not_eq_true', decide_eq_false_iff_not]
  exact fun heq => h (heq ▸ hc)

/-- What stands before and behind a character that the closing brackets do not hold, if the text
holds it. -/
theorem until_closing {q : Char} (hq : q ∉ closing) (t : Text) :
    (t.dropWhile (· ≠ q) = [] ∧ (t ++ closing).dropWhile (· ≠ q) = []) ∨
      ∃ rest, rest <:+ t ∧ t.dropWhile (· ≠ q) = q :: rest ∧
        (t ++ closing).dropWhile (· ≠ q) = q :: (rest ++ closing) ∧
        (t ++ closing).takeWhile (· ≠ q) = t.takeWhile (· ≠ q) := by
  by_cases hmem : q ∈ t
  · obtain ⟨before, rest, rfl, hbefore⟩ := List.eq_append_cons_of_mem hmem
    refine .inr ⟨rest, ?_, dropWhile_until hbefore rest, ?_, ?_⟩
    · exact (List.suffix_cons q rest).trans (List.suffix_append before _)
    · rw [List.append_assoc, List.cons_append, dropWhile_until hbefore]
    · rw [List.append_assoc, List.cons_append, takeWhile_until hbefore, takeWhile_until hbefore]
  · refine .inl ⟨dropWhile_absent hmem, dropWhile_absent ?_⟩
    rw [List.mem_append, not_or]
    exact ⟨hmem, hq⟩

theorem isReader_groupName? : IsReader groupName? := by
  have hq : '>' ∉ closing := by decide
  constructor
  · intro t name rest h
    unfold groupName? at h
    rcases until_closing hq t with ⟨hnone, -⟩ | ⟨after, hsuffix, hsome, -⟩
    · rw [hnone] at h
      cases h
    · rw [hsome] at h
      simp only at h
      split at h
      · cases h
      · split_ifs at h
        cases h
        exact hsuffix
  · intro t
    unfold groupName?
    rcases until_closing hq t with ⟨hnone, hnone'⟩ | ⟨after, -, hsome, hsome', htake⟩
    · rw [hnone, hnone']
      exact .failed
    · rw [hsome, hsome', htake]
      simp only
      split
      · exact .failed
      · split_ifs
        · exact .same _ after
        · exact .failed

end Postroom.Pattern
