import Postroom.Proofs.Pattern.ItemEnds

/-!
# Where a bracketed class ends

A bracketed class is read up to the bracket that closes it, and none of the closing brackets `)$`
closes one.  So a class is read the same way with `)$` behind the text and without it
(`class?_closing`): a step that has come to the end of the text, or that has taken in some of the
brackets, leaves no square bracket to close the class, and the class is refused either way.
-/

namespace Postroom.Pattern

variable {α β : Type} {F : Text → Option (α × Text)} {G : α → Text → Option (β × Text)}

/-- What is left holds no bracket that closes a class. -/
def Lost (read : Option (α × Text)) : Prop :=
  ∀ a rest, read = some (a, rest) → ']' ∉ rest

theorem lost_none : Lost (none : Option (α × Text)) :=
  fun _ _ h => nomatch h

theorem Lost.bind {read : Option (α × Text)} (h : Lost read)
    (hG : ∀ {a t b rest}, G a t = some (b, rest) → rest <:+ t) :
    Lost (read.bind fun read => G read.1 read.2) := by
  intro b rest hread
  obtain ⟨⟨a, middle⟩, hfirst, hlast⟩ := Option.bind_eq_some_iff.1 hread
  exact fun hmem => h a middle hfirst ((hG hlast).subset hmem)

/-- The same has been read, with the closing brackets behind what is left. -/
def withClosing (read : Option (α × Text)) : Option (α × Text) :=
  read.map fun read => (read.1, read.2 ++ closing)

/-- A part of a class is read: what is left is the end of the text, and closing brackets behind the
text are left alone, unless nothing that is left closes the class. -/
structure IsClassReader (F : Text → Option (α × Text)) : Prop where
  suffix : ∀ {t a rest}, F t = some (a, rest) → rest <:+ t
  closing : ∀ t, F (t ++ closing) = withClosing (F t) ∨ Lost (F t) ∧ Lost (F (t ++ closing))

/-- A text without a bracket that closes a class does not come to one. -/
theorem lost_of_suffix {t : Text} (hF : ∀ {a rest}, F t = some (a, rest) → rest <:+ t)
    (ht : ']' ∉ t) : Lost (F t) :=
  fun _ _ h hmem => ht ((hF h).subset hmem)

theorem Beside.withClosing_or_lost {x y : Option (α × Text)} (h : Beside x y) :
    y = withClosing x ∨ Lost x ∧ Lost y := by
  cases h with
  | same a rest => exact .inl rfl
  | failed => exact .inl rfl
  | @broken a rest hrest =>
    refine .inr ⟨lost_none, fun b rest' heq hmem => ?_⟩
    cases heq
    exact absurd (hrest.subset hmem) (by decide)
  | remark a =>
    have hlost : Lost (some (a, ([] : Text))) := by
      intro b rest heq
      cases heq
      exact List.not_mem_nil
    exact .inr ⟨hlost, hlost⟩

theorem IsReader.isClassReader (h : IsReader F) : IsClassReader F :=
  ⟨h.suffix, fun t => (h.beside t).withClosing_or_lost⟩

theorem IsClassReader.andThen (hF : IsClassReader F) (hG : ∀ a, IsClassReader (G a)) :
    IsClassReader (andThen F G) := by
  refine ⟨fun {t b rest} h => ?_, fun t => ?_⟩
  · obtain ⟨⟨a, middle⟩, hfirst, hlast⟩ := Option.bind_eq_some_iff.1 h
    exact ((hG a).suffix hlast).trans (hF.suffix hfirst)
  · unfold Pattern.andThen
    rcases hF.closing t with h | ⟨h, h'⟩
    · rw [h]
      cases F t with
      | none => exact .inl rfl
      | some read => exact (hG read.1).closing read.2
    · have hsuffix : ∀ {a t b rest}, G a t = some (b, rest) → rest <:+ t := (hG _).suffix
      exact .inr ⟨h.bind hsuffix, h'.bind hsuffix⟩

theorem isClassReader_skip (f : Flags) (hF : IsClassReader F) :
    IsClassReader fun t => F (f.skip t) :=
  (isReader_skip f).isClassReader.andThen fun _ => hF

/-- A reader is one by the first character of its text; without one, nothing closes the class. -/
theorem isClassReader_of_cons (hsuffix : ∀ {t a rest}, F t = some (a, rest) → rest <:+ t)
    (hcons : ∀ c t, F (c :: t ++ closing) = withClosing (F (c :: t)) ∨
      Lost (F (c :: t)) ∧ Lost (F (c :: t ++ closing))) :
    IsClassReader F := by
  refine ⟨hsuffix, fun t => ?_⟩
  cases t with
  | nil =>
    exact .inr ⟨lost_of_suffix hsuffix List.not_mem_nil, lost_of_suffix hsuffix (by decide)⟩
  | cons c t => exact hcons c t

/-! ## The start of a class -/

theorem leading_suffix (f : Flags) {fuel : ℕ} {b b' : Bracket} {t rest : Text}
    (h : leading f fuel b t = some (b', rest)) : rest <:+ t := by
  induction fuel generalizing b t with
  | zero => cases h
  | succ fuel ih =>
    unfold leading at h
    split at h
    · cases h
    · rename_i after
      exact ((ih h).trans (skip_suffix f after)).trans (List.suffix_cons _ after)
    · rename_i after
      split_ifs at h
      · split at h
        · cases h
        · cases h
          exact (skip_suffix f after).trans (List.suffix_cons _ after)
      · cases h
        exact List.suffix_refl _
    · cases h
      exact List.suffix_refl _

/-- With fuel for the whole text, the start of a class does not depend on it. -/
theorem leading_closing (f : Flags) {m n : ℕ} {b : Bracket} {t : Text} (hn : t.length < n)
    (hm : (t ++ closing).length < m) :
    leading f m b (t ++ closing) = withClosing (leading f n b t) ∨
      Lost (leading f n b t) ∧ Lost (leading f m b (t ++ closing)) := by
  induction n generalizing t m b with
  | zero => cases hn
  | succ n ih =>
    obtain ⟨m, rfl⟩ : ∃ k, m = k + 1 := Nat.exists_eq_succ_of_ne_zero (Nat.ne_zero_of_lt hm)
    cases t with
    | nil =>
      exact .inr ⟨lost_of_suffix (leading_suffix f) List.not_mem_nil,
        lost_of_suffix (leading_suffix f) (by decide)⟩
    | cons c t =>
      rw [List.cons_append, List.length_cons] at hm
      rw [List.length_cons] at hn
      by_cases hhyphen : c = '-'
      · subst hhyphen
        have hlength := (skip_suffix f t).length_le
        have hlength' := (skip_suffix f (t ++ closing)).length_le
        rw [List.cons_append, leading, leading]
        rcases skip_closing f t with hskip | ⟨hskip, hskip'⟩
        · rw [hskip] at hlength' ⊢
          exact ih (by omega) (by omega)
        · rw [hskip, hskip']
          exact .inr ⟨lost_of_suffix (leading_suffix f) List.not_mem_nil,
            lost_of_suffix (leading_suffix f) List.not_mem_nil⟩
      · by_cases hclose : c = ']'
        · subst hclose
          rw [List.cons_append, leading, leading]
          split_ifs
          · rcases skip_closing f t with hskip | ⟨hskip, hskip'⟩
            · rw [hskip]
              cases f.skip t with
              | nil =>
                refine .inr ⟨lost_none, fun a rest heq => ?_⟩
                cases heq
                decide
              | cons c t => exact .inl rfl
            · rw [hskip, hskip']
              exact .inl rfl
          · exact .inl rfl
        · refine .inl ?_
          simp [leading, hhyphen, hclose, withClosing]

theorem open?_eq (f : Flags) (t : Text) :
    open? f t =
      onChar '^' (fun rest => leading f (rest.length + 1) ⟨true, none, []⟩ (f.skip rest))
        (fun rest => leading f (rest.length + 1) ⟨false, none, []⟩ rest) (f.skip t) := by
  unfold open?
  split
  · rename_i heq
    rw [heq, onChar_self]
  · rename_i hcaret
    rw [onChar_of_ne hcaret]

theorem isClassReader_open? (f : Flags) : IsClassReader (open? f) := by
  have heq : open? f = _ := funext (open?_eq f)
  rw [heq]
  refine isClassReader_skip f (isClassReader_of_cons (fun {t a rest} h => ?_) fun c t => ?_)
  · cases t with
    | nil => exact leading_suffix f h
    | cons c t =>
      by_cases hc : c = '^'
      · subst hc
        rw [onChar_self] at h
        exact ((leading_suffix f h).trans (skip_suffix f t)).trans (List.suffix_cons _ t)
      · rw [onChar_cons_of_ne hc] at h
        exact leading_suffix f h
  · by_cases hc : c = '^'
    · subst hc
      have hlength := (skip_suffix f t).length_le
      have hlength' := (skip_suffix f (t ++ closing)).length_le
      rw [List.cons_append, onChar_self, onChar_self]
      rcases skip_closing f t with hskip | ⟨hskip, hskip'⟩
      · rw [hskip] at hlength' ⊢
        exact leading_closing f (by omega) (by omega)
      · rw [hskip, hskip']
        exact .inr ⟨lost_of_suffix (leading_suffix f) List.not_mem_nil,
          lost_of_suffix (leading_suffix f) List.not_mem_nil⟩
    · rw [onChar_cons_of_ne hc, List.cons_append, onChar_cons_of_ne hc, ← List.cons_append]
      exact leading_closing f (Nat.lt_succ_self _) (Nat.lt_succ_self _)

/-! ## The items of a class -/

/-- A named class behind its first colon and the sign that inverts it. -/
def namedClass? (negated : Bool) (t : Text) : Option (CodeSet × Bool × Text) :=
  match t.dropWhile (· ≠ ':') with
  | ':' :: ']' :: after =>
    (asciiClasses.find? fun entry => entry.1.toList == t.takeWhile (· ≠ ':')).map fun entry =>
      (.ofPairs entry.2.toList, negated, after)
  | _ => none

theorem namedClass?_suffix {negated inverted : Bool} {t rest : Text} {s : CodeSet}
    (h : namedClass? negated t = some (s, inverted, rest)) : rest <:+ t := by
  unfold namedClass? at h
  split at h
  · rename_i after heq
    obtain ⟨entry, -, hentry⟩ := Option.map_eq_some_iff.1 h
    cases hentry
    have hsuffix := List.dropWhile_suffix (l := t) (· ≠ ':')
    rw [heq] at hsuffix
    exact ((List.suffix_cons _ rest).trans (List.suffix_cons _ _)).trans hsuffix
  · cases h

theorem namedClass?_closing (negated : Bool) (t : Text) :
    namedClass? negated (t ++ closing) =
      (namedClass? negated t).map fun read => (read.1, read.2.1, read.2.2 ++ closing) := by
  unfold namedClass?
  have hcolon : ':' ∉ closing := by decide
  rcases until_closing hcolon t with ⟨hnone, hnone'⟩ | ⟨rest, -, hsome, hsome', htake⟩
  · rw [hnone, hnone']
    rfl
  · rw [hsome, hsome', htake]
    cases rest with
    | nil => rfl
    | cons c rest =>
      by_cases hc : c = ']'
      · subst hc
        simp only [List.cons_append, Option.map_map]
        rfl
      · simp [hc]

/-- The sign that inverts a named class, and what stands behind it. -/
def caretOf (t : Text) : Bool × Text :=
  match t with
  | '^' :: rest => (true, rest)
  | _ => (false, t)

theorem asciiClass?_colon (t : Text) :
    asciiClass? (':' :: t) = namedClass? (caretOf t).1 (caretOf t).2 :=
  rfl

theorem caretOf_suffix (t : Text) : (caretOf t).2 <:+ t := by
  unfold caretOf
  split
  · exact List.suffix_cons _ _
  · exact List.suffix_refl _

theorem caretOf_closing (t : Text) :
    caretOf (t ++ closing) = ((caretOf t).1, (caretOf t).2 ++ closing) := by
  cases t with
  | nil => rfl
  | cons c t =>
    by_cases hc : c = '^'
    · subst hc
      rfl
    · simp [caretOf, hc]

theorem asciiClass?_of_ne {t : Text} (h : ∀ rest, t = ':' :: rest → False) :
    asciiClass? t = none := by
  unfold asciiClass?
  split
  · rename_i rest
    exact (h rest rfl).elim
  · rfl

theorem asciiClass?_suffix {t rest : Text} {s : CodeSet} {negated : Bool}
    (h : asciiClass? t = some (s, negated, rest)) : rest <:+ t := by
  by_cases hcolon : ∃ inner, t = ':' :: inner
  · obtain ⟨inner, rfl⟩ := hcolon
    refine List.IsSuffix.trans ?_ (List.suffix_cons _ inner)
    exact (namedClass?_suffix h).trans (caretOf_suffix inner)
  · rw [asciiClass?_of_ne fun inner h => hcolon ⟨inner, h⟩] at h
    cases h

theorem asciiClass?_closing (t : Text) :
    asciiClass? (t ++ closing) =
      (asciiClass? t).map fun read => (read.1, read.2.1, read.2.2 ++ closing) := by
  cases t with
  | nil => rfl
  | cons c t =>
    by_cases hcolon : c = ':'
    · subst hcolon
      rw [List.cons_append, asciiClass?_colon, asciiClass?_colon, caretOf_closing]
      exact namedClass?_closing _ _
    · have hno : ∀ t rest, c :: t = ':' :: rest → False :=
        fun t rest h => hcolon (List.cons.inj h).1
      rw [List.cons_append, asciiClass?_of_ne (hno t), asciiClass?_of_ne (hno (t ++ closing))]
      rfl

/-- The atom is a condition on a place. -/
def Atom.isLook : Atom → Bool
  | look _ => true
  | literal _ _ | set _ => false

/-- An item of a class that stands for characters. -/
def plainAtom? (f : Flags) (t : Text) : Option (Atom × Text) :=
  (classAtom? f t).filter fun read => !read.1.isLook

theorem classAtom?_suffix (f : Flags) {t rest : Text} {a : Atom}
    (h : classAtom? f t = some (a, rest)) : rest <:+ t := by
  unfold classAtom? at h
  split at h
  · cases h
  · rename_i after
    exact (escape?_suffix f h).trans (List.suffix_cons _ after)
  · cases h
    exact List.suffix_cons _ _

theorem isReader_plainAtom? (f : Flags) : IsReader (plainAtom? f) := by
  have hfilter : ∀ {x y : Option (Atom × Text)}, Beside x y →
      Beside (x.filter fun read => !read.1.isLook) (y.filter fun read => !read.1.isLook) := by
    intro x y h
    cases h with
    | same a rest =>
      cases a
      case look => exact .failed
      all_goals exact .same _ rest
    | failed => exact .failed
    | broken a hrest =>
      cases a
      case look => exact .failed
      all_goals exact .broken _ hrest
    | remark a =>
      cases a
      case look => exact .failed
      all_goals exact .remark _
  refine ⟨fun {t a rest} h => ?_, fun t => ?_⟩
  · exact classAtom?_suffix f (Option.filter_eq_some_iff.1 h).1
  · cases t with
    | nil => exact .broken _ (List.suffix_refl _)
    | cons c t =>
      unfold plainAtom?
      by_cases hc : c = '\\'
      · subst hc
        rw [List.cons_append, classAtom?, classAtom?]
        rcases beside_escape? f t with h | ⟨hnone, l, rest, hsome, -⟩
        · exact hfilter h
        · rw [hnone, hsome]
          exact .failed
      · have hplain : ∀ t, classAtom? f (c :: t) = some (.literal c false, t) :=
          fun t => by simp [classAtom?]
        rw [List.cons_append, hplain, hplain]
        exact .same _ t

/-- A hyphen in front of these characters makes a range. -/
def isRange (f : Flags) : Text → Bool
  | '-' :: more => peek f more != some ']' && peek f more != some '-'
  | _ => false

theorem peek_closing (f : Flags) (t : Text) :
    peek f (t ++ closing) = peek f t ∨ peek f t = none ∧ peek f (t ++ closing) = some ')' := by
  have hhead : ∀ t : Text, (t ++ closing).head? = t.head? ∨
      t.head? = none ∧ (t ++ closing).head? = some ')' := by
    intro t
    cases t with
    | nil => exact .inr ⟨rfl, rfl⟩
    | cons c t => exact .inl rfl
  unfold peek
  rw [dropBlanks_closing]
  split_ifs
  · cases t.dropWhile isBlank with
    | nil => exact .inr ⟨rfl, rfl⟩
    | cons c rest =>
      by_cases hc : c = '#'
      · subst hc
        simp only [List.cons_append, dropBlanks_closing]
        exact hhead _
      · simp [hc]
  · exact hhead t

theorem isRange_closing (f : Flags) (t : Text) : isRange f (t ++ closing) = isRange f t := by
  cases t with
  | nil => rfl
  | cons c t =>
    by_cases hc : c = '-'
    · subst hc
      rw [List.cons_append, isRange, isRange]
      rcases peek_closing f t with h | ⟨hnone, hclosing⟩
      · rw [h]
      · rw [hnone, hclosing]
        rfl
    · simp [isRange, hc]

/-- The range up to an atom, if there is one. -/
def rangeTo? (f : Flags) (low : Char) : Atom → Option ClassNode
  | .literal high _ =>
    if low ≤ high ∧ f.admits high then some ⟨.span low.toNat high.toNat, 0⟩ else none
  | _ => none

/-- The end of a range. -/
def rangeEnd? (f : Flags) (low : Char) : Text → Option (ClassNode × Text) :=
  andThen (plainAtom? f) fun a rest => (rangeTo? f low a).map fun node => (node, rest)

/-- What an item of a class comes to, behind its first atom and the blanks behind that. -/
def itemBehind? (f : Flags) (a : Atom) (after : Text) : Option (ClassNode × Text) :=
  match a with
  | .look _ => none
  | .set s => if isRange f after ∨ after.isEmpty then none else some (⟨s, 0⟩, after)
  | .literal low _ =>
    if after.isEmpty ∨ !f.admits low then none
    else if isRange f after then rangeEnd? f low (f.skip (after.drop 1))
    else some (⟨.single low.toNat, 0⟩, after)

theorem classItem?_eq (f : Flags) (t : Text) :
    classItem? f t = andThen (plainAtom? f) (fun a rest => itemBehind? f a (f.skip rest)) t := by
  unfold classItem? andThen plainAtom?
  cases classAtom? f t with
  | none => rfl
  | some read =>
    obtain ⟨a, rest⟩ := read
    cases a with
    | look l => rfl
    | set s => rfl
    | literal low octet =>
      change (if (f.skip rest).isEmpty ∨ !f.admits low then none
        else if isRange f (f.skip rest) then _ else _) =
          if (f.skip rest).isEmpty ∨ !f.admits low then none
          else if isRange f (f.skip rest) then rangeEnd? f low (f.skip ((f.skip rest).drop 1))
          else some (⟨.single low.toNat, 0⟩, f.skip rest)
      split_ifs
      · rfl
      · unfold rangeEnd? andThen plainAtom?
        rcases classAtom? f (f.skip ((f.skip rest).drop 1)) with _ | ⟨a, after⟩
        · rfl
        · cases a with
          | look l => rfl
          | set s => rfl
          | literal high octet =>
            change _ = (rangeTo? f low (.literal high octet)).map fun node => (node, after)
            simp only [rangeTo?]
            split_ifs <;> rfl
      · rfl

theorem isClassReader_rangeEnd? (f : Flags) (low : Char) : IsClassReader (rangeEnd? f low) :=
  ((isReader_plainAtom? f).andThen fun a => isReader_option (rangeTo? f low a)).isClassReader

theorem isClassReader_itemBehind? (f : Flags) (a : Atom) : IsClassReader (itemBehind? f a) := by
  refine isClassReader_of_cons (fun {t node rest} h => ?_) fun c t => ?_
  · cases a with
    | look l => cases h
    | set s =>
      simp only [itemBehind?] at h
      split_ifs at h
      cases h
      exact List.suffix_refl _
    | literal low octet =>
      simp only [itemBehind?] at h
      split_ifs at h
      · have hsuffix := (isClassReader_rangeEnd? f low).suffix h
        exact (hsuffix.trans (skip_suffix f _)).trans (List.drop_suffix 1 t)
      · cases h
        exact List.suffix_refl _
  · have hempty : (c :: t ++ closing).isEmpty = (c :: t).isEmpty := rfl
    cases a with
    | look l => exact .inl rfl
    | set s =>
      simp only [itemBehind?, isRange_closing, hempty]
      split_ifs
      · exact .inl rfl
      · exact .inl rfl
    | literal low octet =>
      simp only [itemBehind?, isRange_closing, hempty]
      split_ifs
      · exact .inl rfl
      · exact (isClassReader_skip f (isClassReader_rangeEnd? f low)).closing t
      · exact .inl rfl

theorem isClassReader_classItem? (f : Flags) : IsClassReader (classItem? f) := by
  have heq : classItem? f = _ := funext (classItem?_eq f)
  rw [heq]
  exact (isReader_plainAtom? f).isClassReader.andThen fun a =>
    isClassReader_skip f (isClassReader_itemBehind? f a)

/-! ## The steps through a class -/

/-- A step through a class, with what it leaves. -/
def stepRead? (f : Flags) (b : Bracket) (outer : List Bracket) (t : Text) :
    Option (((Bracket × List Bracket) ⊕ ClassNode) × Text) :=
  (classStep f b outer t).map fun
    | .more b outer rest => (.inl (b, outer), rest)
    | .done node rest => (.inr node, rest)

/-- An operator between two sets is written as one of these characters twice. -/
def operator? (c : Char) : Option ClassOp :=
  if c = '&' then some .inter
  else if c = '-' then some .diff
  else if c = '~' then some .symmDiff
  else none

/-- What a step comes to behind blanks and comments. -/
def stepBehind? (f : Flags) (b : Bracket) (outer : List Bracket) :
    Text → Option (((Bracket × List Bracket) ⊕ ClassNode) × Text)
  | [] => none
  | c :: rest =>
    if c = '[' then
      match asciiClass? rest with
      | some (s, negated, rest) =>
        (f.close negated s).map fun s => (.inl (b.push ⟨s, 0⟩, outer), rest)
      | none => (open? f rest).map fun read => (.inl (read.1, b :: outer), read.2)
    else if c = ']' then
      (f.close b.negated (b.combined f).set).map fun s =>
        (match outer with
          | [] => .inr ⟨s, (b.combined f).depth + 1⟩
          | around :: outer => .inl (around.push ⟨s, (b.combined f).depth + 1⟩, outer), rest)
    else
      match rest.head?.filter (· == c) |>.bind operator? with
      | some op => some (.inl (b.operate f op, outer), rest.drop 1)
      | none => (classItem? f (c :: rest)).map fun read => (.inl (b.push read.1, outer), read.2)

theorem stepBehind?_close (f : Flags) (b : Bracket) (outer : List Bracket) (rest : Text) :
    stepBehind? f b outer (']' :: rest) =
      (f.close b.negated (b.combined f).set).map fun s =>
        (match outer with
          | [] => .inr ⟨s, (b.combined f).depth + 1⟩
          | around :: outer => .inl (around.push ⟨s, (b.combined f).depth + 1⟩, outer), rest) := by
  rw [stepBehind?, if_neg (by decide), if_pos rfl]
  cases outer <;> rfl

theorem stepRead?_eq (f : Flags) (b : Bracket) (outer : List Bracket) (t : Text) :
    stepRead? f b outer t = stepBehind? f b outer (f.skip t) := by
  unfold stepRead? classStep
  generalize f.skip t = t
  split
  · rfl
  · rename_i rest
    simp only [stepBehind?, if_pos]
    rcases asciiClass? rest with _ | ⟨s, negated, after⟩
    · simp only [Option.map_map]
      rfl
    · simp only [Option.map_map]
      rfl
  · rename_i rest
    rw [stepBehind?_close, Option.map_map]
    cases outer <;> rfl
  · rfl
  · rfl
  · rfl
  · rename_i hempty hopen hclose hand hhyphen htilde
    cases t with
    | nil => exact (hempty rfl).elim
    | cons c rest =>
      have hc : c ≠ '[' := fun hc => hopen rest (by rw [hc])
      have hc' : c ≠ ']' := fun hc => hclose rest (by rw [hc])
      have hno : (rest.head?.filter (· == c)).bind operator? = none := by
        cases rest with
        | nil => rfl
        | cons d rest =>
          by_cases hd : d = c
          · subst hd
            have hand' : d ≠ '&' := fun hd => hand rest (by rw [hd])
            have hhyphen' : d ≠ '-' := fun hd => hhyphen rest (by rw [hd])
            have htilde' : d ≠ '~' := fun hd => htilde rest (by rw [hd])
            simp [operator?, hand', hhyphen', htilde']
          · simp [hd]
      rw [stepBehind?, if_neg hc, if_neg hc', hno, Option.map_map]
      rfl

theorem stepBehind?_suffix (f : Flags) {b : Bracket} {outer : List Bracket} {t rest : Text}
    {step : (Bracket × List Bracket) ⊕ ClassNode}
    (h : stepBehind? f b outer t = some (step, rest)) : rest <:+ t := by
  cases t with
  | nil => cases h
  | cons c t =>
    rw [stepBehind?] at h
    split_ifs at h
    · refine List.IsSuffix.trans ?_ (List.suffix_cons c t)
      split at h
      · rename_i hread
        obtain ⟨s, -, heq⟩ := Option.map_eq_some_iff.1 h
        cases heq
        exact asciiClass?_suffix hread
      · obtain ⟨read, hread, heq⟩ := Option.map_eq_some_iff.1 h
        cases heq
        exact (isClassReader_open? f).suffix hread
    · obtain ⟨s, -, heq⟩ := Option.map_eq_some_iff.1 h
      cases heq
      exact List.suffix_cons c _
    · split at h
      · cases h
        exact (List.drop_suffix 1 _).trans (List.suffix_cons c _)
      · obtain ⟨read, hread, heq⟩ := Option.map_eq_some_iff.1 h
        cases heq
        exact (isClassReader_classItem? f).suffix hread

theorem IsClassReader.map (hF : IsClassReader F) (g : α → β) :
    IsClassReader fun t => (F t).map fun read => (g read.1, read.2) := by
  have heq : (fun t => (F t).map fun read => (g read.1, read.2)) =
      Pattern.andThen F fun a rest => some (g a, rest) := by
    funext t
    unfold Pattern.andThen
    cases F t <;> rfl
  rw [heq]
  exact hF.andThen fun a => (isReader_some (g a)).isClassReader

theorem operator_closing (c : Char) (t : Text) :
    ((t ++ closing).head?.filter (· == c)).bind operator? =
      (t.head?.filter (· == c)).bind operator? := by
  cases t with
  | nil =>
    by_cases hc : ')' = c
    · subst hc
      rfl
    · simp [closing, hc]
  | cons d t => rfl

theorem isClassReader_stepRead? (f : Flags) (b : Bracket) (outer : List Bracket) :
    IsClassReader (stepRead? f b outer) := by
  have heq : stepRead? f b outer = _ := funext (stepRead?_eq f b outer)
  rw [heq]
  refine isClassReader_skip f (isClassReader_of_cons (stepBehind?_suffix f) fun c t => ?_)
  have hinner : IsClassReader fun t => (open? f t).map fun read =>
      ((.inl (read.1, b :: outer) : (Bracket × List Bracket) ⊕ ClassNode), read.2) :=
    (isClassReader_open? f).map fun inner => Sum.inl (inner, b :: outer)
  have hitem : IsClassReader fun t => (classItem? f t).map fun read =>
      ((.inl (b.push read.1, outer) : (Bracket × List Bracket) ⊕ ClassNode), read.2) :=
    (isClassReader_classItem? f).map fun node => Sum.inl (b.push node, outer)
  rw [List.cons_append, stepBehind?, stepBehind?]
  split_ifs
  · rw [asciiClass?_closing]
    cases asciiClass? t with
    | none => exact hinner.closing t
    | some read =>
      refine .inl ?_
      simp only [Option.map_some]
      cases f.close read.2.1 read.1 <;> rfl
  · refine .inl ?_
    cases f.close b.negated (b.combined f).set <;> rfl
  · rw [operator_closing]
    cases hop : (t.head?.filter (· == c)).bind operator? with
    | none => exact hitem.closing (c :: t)
    | some op =>
      cases t with
      | nil => cases hop
      | cons d t => exact .inl rfl

/-! ## The class as a whole -/

theorem classFrom?_eq (f : Flags) (b : Bracket) (outer : List Bracket) (t : Text) :
    classFrom? f b outer t =
      match stepRead? f b outer t with
      | none => none
      | some (.inr node, rest) => some (node, rest)
      | some (.inl (b, outer), rest) =>
        if rest.length < t.length then classFrom? f b outer rest else none := by
  rw [classFrom?]
  unfold stepRead?
  rcases classStep f b outer t with _ | (⟨b, outer, rest⟩ | ⟨node, rest⟩) <;> rfl

theorem classFrom?_suffix (f : Flags) {b : Bracket} {outer : List Bracket} {t rest : Text}
    {node : ClassNode} (h : classFrom? f b outer t = some (node, rest)) : rest <:+ t := by
  induction hlength : t.length using Nat.strong_induction_on generalizing b outer t with
  | _ n ih =>
    rw [classFrom?_eq] at h
    split at h
    · cases h
    · rename_i hstep
      cases h
      exact (isClassReader_stepRead? f b outer).suffix hstep
    · rename_i hstep
      split_ifs at h with hlt
      exact (ih _ (hlength ▸ hlt) h rfl).trans ((isClassReader_stepRead? f b outer).suffix hstep)

/-- Only a closing square bracket completes a class. -/
theorem skip_of_done (f : Flags) {b : Bracket} {outer : List Bracket} {t rest : Text}
    {node : ClassNode} (h : stepRead? f b outer t = some (.inr node, rest)) :
    f.skip t = ']' :: rest := by
  rw [stepRead?_eq] at h
  revert h
  cases f.skip t with
  | nil => exact fun h => nomatch h
  | cons c t =>
    intro h
    rw [stepBehind?] at h
    split_ifs at h with hopen hclose
    · split at h
      · obtain ⟨s, -, heq⟩ := Option.map_eq_some_iff.1 h
        cases heq
      · obtain ⟨read, -, heq⟩ := Option.map_eq_some_iff.1 h
        cases heq
    · obtain ⟨s, -, heq⟩ := Option.map_eq_some_iff.1 h
      rw [hclose, (Prod.mk.inj heq).2]
    · split at h
      · cases h
      · obtain ⟨read, -, heq⟩ := Option.map_eq_some_iff.1 h
        cases heq

/-- Without a bracket that closes it, a class does not end. -/
theorem classFrom?_of_lost (f : Flags) {b : Bracket} {outer : List Bracket} {t : Text}
    (h : ']' ∉ t) : classFrom? f b outer t = none := by
  induction hlength : t.length using Nat.strong_induction_on generalizing b outer t with
  | _ n ih =>
    have hsuffix : ∀ {step rest}, stepRead? f b outer t = some (step, rest) → rest <:+ t :=
      (isClassReader_stepRead? f b outer).suffix
    rw [classFrom?_eq]
    rcases hstep : stepRead? f b outer t with _ | ⟨⟨b, outer⟩ | node, rest⟩
    · rfl
    · simp only
      split_ifs with hlt
      · exact ih _ (hlength ▸ hlt) (fun hmem => h ((hsuffix hstep).subset hmem)) rfl
      · rfl
    · have hmem : ']' ∈ f.skip t := by
        rw [skip_of_done f hstep]
        exact List.mem_cons_self
      exact absurd ((skip_suffix f t).subset hmem) h

/-- A step that loses the closing bracket and does not take it leads nowhere. -/
theorem classFrom?_of_lostStep (f : Flags) {b : Bracket} {outer : List Bracket} {t : Text}
    (hlost : Lost (stepRead? f b outer t)) (hno : ∀ rest, f.skip t ≠ ']' :: rest) :
    classFrom? f b outer t = none := by
  rw [classFrom?_eq]
  rcases hstep : stepRead? f b outer t with _ | ⟨⟨b, outer⟩ | node, rest⟩
  · rfl
  · simp only
    rw [classFrom?_of_lost f (hlost _ _ hstep), ite_self]
  · exact absurd (skip_of_done f hstep) (hno rest)

/-- A step leaves closing brackets alone, or the class does not end. -/
theorem stepRead?_closing (f : Flags) (b : Bracket) (outer : List Bracket) (t : Text) :
    stepRead? f b outer (t ++ closing) = withClosing (stepRead? f b outer t) ∨
      classFrom? f b outer t = none ∧ classFrom? f b outer (t ++ closing) = none := by
  by_cases hclose : ∃ rest, f.skip t = ']' :: rest
  · obtain ⟨rest, hskip⟩ := hclose
    refine .inl ?_
    rcases skip_closing f t with hskip' | ⟨hnil, -⟩
    · rw [stepRead?_eq, stepRead?_eq, hskip', hskip, List.cons_append, stepBehind?_close,
        stepBehind?_close]
      cases f.close b.negated (b.combined f).set <;> rfl
    · rw [hnil] at hskip
      cases hskip
  · have hno : ∀ rest, f.skip t ≠ ']' :: rest := fun rest h => hclose ⟨rest, h⟩
    have hno' : ∀ rest, f.skip (t ++ closing) ≠ ']' :: rest := by
      intro rest h
      rcases skip_closing f t with hskip | ⟨-, hnil⟩
      · rw [hskip] at h
        cases hrest : f.skip t with
        | nil =>
          rw [hrest] at h
          cases h
        | cons c t =>
          rw [hrest] at h
          exact hno t (by rw [hrest, (List.cons.inj h).1])
      · rw [hnil] at h
        cases h
    refine ((isClassReader_stepRead? f b outer).closing t).imp id fun h => ?_
    exact ⟨classFrom?_of_lostStep f h.1 hno, classFrom?_of_lostStep f h.2 hno'⟩

theorem classFrom?_closing (f : Flags) (b : Bracket) (outer : List Bracket) (t : Text) :
    classFrom? f b outer (t ++ closing) = withClosing (classFrom? f b outer t) := by
  induction hlength : t.length using Nat.strong_induction_on generalizing b outer t with
  | _ n ih =>
    rcases stepRead?_closing f b outer t with hstep | ⟨h, h'⟩
    · rw [classFrom?_eq, hstep, classFrom?_eq]
      rcases stepRead? f b outer t with _ | ⟨⟨b, outer⟩ | node, rest⟩
      · rfl
      · have hlt : (rest ++ closing).length < (t ++ closing).length ↔ rest.length < t.length := by
          rw [List.length_append, List.length_append, Nat.add_lt_add_iff_right]
        simp only [withClosing, Option.map_some, hlt]
        split_ifs with hless
        · exact ih _ (hlength ▸ hless) b outer rest rfl
        · rfl
      · rfl
    · rw [h, h']
      rfl

/-- **A bracketed class is read the same way with closing brackets behind the text.** -/
theorem class?_closing (f : Flags) (t : Text) :
    class? f (t ++ closing) = withClosing (class? f t) := by
  have hlost : ∀ {t}, Lost (open? f t) → class? f t = none := by
    intro t h
    rw [class?, Option.bind_eq_none_iff]
    exact fun read hread => classFrom?_of_lost f (h read.1 read.2 hread)
  rcases (isClassReader_open? f).closing t with h | ⟨h, h'⟩
  · unfold class?
    rw [h]
    cases open? f t with
    | none => rfl
    | some read => exact classFrom?_closing f read.1 [] read.2
  · rw [hlost h, hlost h']
    rfl

theorem class?_suffix (f : Flags) {t rest : Text} {node : ClassNode}
    (h : class? f t = some (node, rest)) : rest <:+ t := by
  obtain ⟨⟨b, inner⟩, hopen, hread⟩ := Option.bind_eq_some_iff.1 h
  exact (classFrom?_suffix f hread).trans ((isClassReader_open? f).suffix hopen)

end Postroom.Pattern
