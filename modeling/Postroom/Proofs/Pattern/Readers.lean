import Mathlib.Data.List.Basic
import Mathlib.Data.List.Infix
import Mathlib.Data.List.TakeWhile
import Mathlib.Tactic.Common
import Postroom.Pattern.Parser

/-!
# Readers of a text that is put into brackets

A pattern is put between `^(?:` and `)$` before it is read.  The parts of its items are read with
`)$` behind the text as they are without it, unless the text is broken off within the part and the
bracket is taken into it, or the text ends in a comment.

* `Beside` — how a reading without the brackets and one with them compare;
* `IsReader` — a reader of a part: what it leaves is the end of what it was given, and its two
  readings compare in one of these ways;
* `andThen`, `onFirst`, `onChar` — readers made of readers;
* `isReader_skip`, `beside_frontOf` — blanks and comments, and stretches of characters.
-/

namespace Postroom.Pattern

/-- What stands behind a pattern when the whole of a text has to match. -/
def closing : Text := ")$".toList

/-- The reading of a text, and the reading of the same text with closing brackets behind it. -/
inductive Beside {α : Type} : Option (α × Text) → Option (α × Text) → Prop
  /-- The brackets stay where they are. -/
  | same (a : α) (rest : Text) : Beside (some (a, rest)) (some (a, rest ++ closing))
  /-- Both are refused. -/
  | failed : Beside none none
  /-- The text is broken off, and the round bracket has been taken into it. -/
  | broken (a : α) {rest : Text} (h : rest <:+ ['$']) : Beside none (some (a, rest))
  /-- The text ends in a comment, which goes on to the end. -/
  | remark (a : α) : Beside (some (a, [])) (some (a, []))

/-- A part of an item is read: what is left is the end of the text, and closing brackets behind the
text are left alone unless the text is broken off or ends in a comment. -/
structure IsReader {α : Type} (F : Text → Option (α × Text)) : Prop where
  suffix : ∀ {t a rest}, F t = some (a, rest) → rest <:+ t
  beside : ∀ t, Beside (F t) (F (t ++ closing))

variable {α β : Type} {F : Text → Option (α × Text)} {G : α → Text → Option (β × Text)}

/-- Reads one part behind another. -/
def andThen (F : Text → Option (α × Text)) (G : α → Text → Option (β × Text)) (t : Text) :
    Option (β × Text) :=
  (F t).bind fun read => G read.1 read.2

theorem Beside.of_suffix {G : Text → Option (β × Text)}
    (hG : ∀ {b rest}, G [] = some (b, rest) → rest <:+ []) : Beside (G []) (G []) := by
  cases h : G [] with
  | none => exact .failed
  | some read =>
    obtain ⟨b, rest⟩ := read
    obtain rfl : rest = [] := List.suffix_nil.1 (hG h)
    exact .remark b

theorem Beside.map {x y : Option (α × Text)} (h : Beside x y) (g : α → β) :
    Beside (x.map fun read => (g read.1, read.2)) (y.map fun read => (g read.1, read.2)) := by
  cases h with
  | same a rest => exact .same (g a) rest
  | failed => exact .failed
  | broken a hrest => exact .broken (g a) hrest
  | remark a => exact .remark (g a)

theorem Beside.bind {x y : Option (α × Text)} (h : Beside x y) (hG : ∀ a, IsReader (G a)) :
    Beside (x.bind fun read => G read.1 read.2) (y.bind fun read => G read.1 read.2) := by
  cases h with
  | same a rest => exact (hG a).beside rest
  | failed => exact .failed
  | @broken a rest hrest =>
    simp only [Option.bind_none, Option.bind_some]
    cases h : G a rest with
    | none => exact .failed
    | some read => exact .broken read.1 (((hG a).suffix h).trans hrest)
  | remark a => exact .of_suffix (hG a).suffix

theorem IsReader.andThen (hF : IsReader F) (hG : ∀ a, IsReader (G a)) :
    IsReader (andThen F G) := by
  refine ⟨fun {t b rest} h => ?_, fun t => (hF.beside t).bind hG⟩
  obtain ⟨⟨a, middle⟩, hfirst, hlast⟩ := Option.bind_eq_some_iff.1 h
  exact ((hG a).suffix hlast).trans (hF.suffix hfirst)

theorem IsReader.map (hF : IsReader F) (g : α → β) :
    IsReader fun t => (F t).map fun read => (g read.1, read.2) := by
  refine ⟨fun {t b rest} h => ?_, fun t => (hF.beside t).map g⟩
  obtain ⟨⟨a, middle⟩, hfirst, hlast⟩ := Option.map_eq_some_iff.1 h
  cases hlast
  exact hF.suffix hfirst

theorem isReader_some (a : α) : IsReader fun t => some (a, t) := by
  refine ⟨fun {t b rest} h => ?_, fun t => .same a t⟩
  cases h
  exact List.suffix_refl t

theorem isReader_none : IsReader fun _ => (none : Option (α × Text)) :=
  ⟨fun h => (nomatch h), fun _ => .failed⟩

/-- Something is read if a value is there. -/
theorem isReader_option (o : Option α) : IsReader fun t => o.map fun a => (a, t) := by
  cases o with
  | none => exact isReader_none
  | some a => exact isReader_some a

theorem isReader_ite {p : Prop} [Decidable p] {F G : Text → Option (α × Text)}
    (hF : p → IsReader F) (hG : ¬p → IsReader G) :
    IsReader fun t => if p then F t else G t := by
  by_cases h : p
  · simp only [if_pos h]
    exact hF h
  · simp only [if_neg h]
    exact hG h

/-- Reads on behind the first character if it is one of some, or else reads the text as it is. -/
def onFirst {γ : Type} (admits : Char → Bool) (behind : Char → Text → γ) (otherwise : Text → γ) :
    Text → γ
  | [] => otherwise []
  | c :: rest => if admits c then behind c rest else otherwise (c :: rest)

theorem onFirst_cons {γ : Type} (admits : Char → Bool) (behind : Char → Text → γ)
    (otherwise : Text → γ) (c : Char) (rest : Text) :
    onFirst admits behind otherwise (c :: rest) =
      if admits c then behind c rest else otherwise (c :: rest) :=
  rfl

/-- A round bracket may be taken for the first character only if a text without one is refused. -/
theorem isReader_onFirst {admits : Char → Bool} {behind : Char → Text → Option (α × Text)}
    {otherwise : Text → Option (α × Text)} (hbehind : ∀ c, IsReader (behind c))
    (hotherwise : IsReader otherwise) (hclose : admits ')' = false ∨ otherwise [] = none) :
    IsReader (onFirst admits behind otherwise) := by
  constructor
  · intro t a rest h
    cases t with
    | nil => exact hotherwise.suffix h
    | cons c t =>
      rw [onFirst_cons] at h
      split_ifs at h
      · exact ((hbehind c).suffix h).trans (List.suffix_cons c t)
      · exact hotherwise.suffix h
  · intro t
    cases t with
    | nil =>
      have hempty : onFirst admits behind otherwise [] = otherwise [] := rfl
      have hclosing : closing = ')' :: ['$'] := rfl
      rw [List.nil_append, hempty, hclosing, onFirst_cons]
      split_ifs with hadmits
      · rw [hclose.resolve_left (by rw [hadmits]; exact Bool.noConfusion)]
        cases h : behind ')' ['$'] with
        | none => exact .failed
        | some read => exact .broken read.1 ((hbehind ')').suffix h)
      · exact hotherwise.beside []
    | cons c t =>
      rw [List.cons_append, onFirst_cons, onFirst_cons]
      split_ifs
      · exact (hbehind c).beside t
      · exact hotherwise.beside (c :: t)

/-- Reads on behind a character if the text begins with it, or else reads the text as it is. -/
def onChar {γ : Type} (d : Char) (behind otherwise : Text → γ) : Text → γ :=
  onFirst (· == d) (fun _ => behind) otherwise

theorem onChar_self {γ : Type} (d : Char) (behind otherwise : Text → γ) (rest : Text) :
    onChar d behind otherwise (d :: rest) = behind rest :=
  if_pos (beq_self_eq_true d)

theorem onChar_of_ne {γ : Type} {d : Char} {behind otherwise : Text → γ} {t : Text}
    (h : ∀ rest, t = d :: rest → False) : onChar d behind otherwise t = otherwise t := by
  cases t with
  | nil => rfl
  | cons c rest => exact if_neg fun hc => h rest (by rw [beq_iff_eq.1 hc])

theorem onChar_cons_of_ne {γ : Type} {c d : Char} (hc : c ≠ d) {behind otherwise : Text → γ}
    (t : Text) : onChar d behind otherwise (c :: t) = otherwise (c :: t) :=
  onChar_of_ne fun _ h => hc (List.cons.inj h).1

theorem isReader_onChar {d : Char} (hd : (')' == d) = false)
    {behind otherwise : Text → Option (α × Text)} (hbehind : IsReader behind)
    (hotherwise : IsReader otherwise) : IsReader (onChar d behind otherwise) :=
  isReader_onFirst (fun _ => hbehind) hotherwise (.inl hd)

/-! ## Blanks and comments -/

theorem dropRemarks_suffix (inComment : Bool) (t : Text) : dropRemarks inComment t <:+ t := by
  induction t generalizing inComment with
  | nil => exact List.suffix_refl []
  | cons c t ih =>
    unfold dropRemarks
    split_ifs
    · exact (ih _).trans (List.suffix_cons c t)
    · exact (ih _).trans (List.suffix_cons c t)
    · exact (ih _).trans (List.suffix_cons c t)
    · exact List.suffix_refl _

theorem skip_suffix (f : Flags) (t : Text) : f.skip t <:+ t := by
  unfold Flags.skip
  split_ifs
  · exact dropRemarks_suffix false t
  · exact List.suffix_refl t

theorem skip_of_plain (f : Flags) {c : Char} {t : Text} (hblank : isBlank c = false)
    (hc : c ≠ '#') : f.skip (c :: t) = c :: t := by
  unfold Flags.skip
  split_ifs
  · simp [dropRemarks, hblank, hc]
  · rfl

/-- A comment at the end of the text goes on over what stands behind it. -/
theorem dropRemarks_closing (inComment : Bool) (t : Text) :
    dropRemarks inComment (t ++ closing) = dropRemarks inComment t ++ closing ∨
      dropRemarks inComment t = [] ∧ dropRemarks inComment (t ++ closing) = [] := by
  induction t generalizing inComment with
  | nil =>
    cases inComment with
    | true => exact .inr ⟨rfl, by decide⟩
    | false => exact .inl (by decide)
  | cons c t ih =>
    rw [List.cons_append, dropRemarks, dropRemarks]
    split_ifs
    · exact ih _
    · exact ih _
    · exact ih _
    · exact .inl rfl

theorem skip_closing (f : Flags) (t : Text) :
    f.skip (t ++ closing) = f.skip t ++ closing ∨ f.skip t = [] ∧ f.skip (t ++ closing) = [] := by
  unfold Flags.skip
  split_ifs
  · exact dropRemarks_closing false t
  · exact .inl rfl

theorem isReader_skip (f : Flags) : IsReader fun t => some ((), f.skip t) := by
  constructor
  · intro t a rest h
    cases h
    exact skip_suffix f t
  · intro t
    rcases skip_closing f t with h | ⟨h, h'⟩
    · rw [h]
      exact .same () (f.skip t)
    · rw [h, h']
      exact .remark ()

/-- A part is read behind blanks and comments. -/
theorem IsReader.skip (hF : IsReader F) (f : Flags) : IsReader fun t => F (f.skip t) :=
  (isReader_skip f).andThen fun _ => hF

/-! ## Stretches of characters -/

/-- The characters at the front of a text that may stand there, without the blanks and comments
between them. -/
def frontOf (f : Flags) (admits : Char → Bool) : ℕ → Text → Text × Text
  | fuel + 1, c :: rest =>
    if admits c then
      let (front, rest) := frontOf f admits fuel (f.skip rest)
      (c :: front, rest)
    else ([], c :: rest)
  | _, t => ([], t)

theorem digitsFrom_eq (f : Flags) (fuel : ℕ) (t : Text) :
    digitsFrom f fuel t = frontOf f Char.isDigit fuel t := by
  induction fuel generalizing t with
  | zero => rfl
  | succ fuel ih =>
    cases t with
    | nil => rfl
    | cons c rest => simp only [digitsFrom, frontOf, ih]

theorem edgeName_eq (f : Flags) (fuel : ℕ) (t : Text) :
    edgeName f fuel t = frontOf f (fun c => c.isAlpha || c == '-') fuel t := by
  induction fuel generalizing t with
  | zero => rfl
  | succ fuel ih =>
    cases t with
    | nil => rfl
    | cons c rest => simp only [edgeName, frontOf, ih, Bool.or_eq_true, beq_iff_eq]

theorem frontOf_suffix (f : Flags) (admits : Char → Bool) (fuel : ℕ) (t : Text) :
    (frontOf f admits fuel t).2 <:+ t := by
  induction fuel generalizing t with
  | zero => exact List.suffix_refl t
  | succ fuel ih =>
    cases t with
    | nil => exact List.suffix_refl []
    | cons c rest =>
      unfold frontOf
      split_ifs
      · exact ((ih _).trans (skip_suffix f rest)).trans (List.suffix_cons c rest)
      · exact List.suffix_refl _

/-- With fuel for the whole text, the stretch does not depend on it. -/
theorem beside_frontOf (f : Flags) {admits : Char → Bool} (hclose : admits ')' = false) {m n : ℕ}
    {t : Text} (hn : t.length ≤ n) (hm : (t ++ closing).length ≤ m) :
    Beside (some (frontOf f admits n t)) (some (frontOf f admits m (t ++ closing))) := by
  have hstop : ∀ m, frontOf f admits m closing = ([], closing) := by
    intro m
    cases m with
    | zero => rfl
    | succ m => simp [frontOf, closing, hclose]
  have hnil : ∀ m, frontOf f admits m [] = ([], []) := fun m => by cases m <;> rfl
  induction n generalizing t m with
  | zero =>
    obtain rfl := List.eq_nil_of_length_eq_zero (Nat.le_zero.1 hn)
    rw [List.nil_append, hstop]
    exact .same [] []
  | succ n ih =>
    cases t with
    | nil =>
      rw [List.nil_append, hstop, hnil]
      exact .same [] []
    | cons c rest =>
      obtain ⟨m, rfl⟩ : ∃ k, m = k + 1 := Nat.exists_eq_succ_of_ne_zero (by
        rw [List.cons_append, List.length_cons] at hm
        omega)
      have hlength := (skip_suffix f rest).length_le
      rw [List.cons_append, List.length_cons] at hm
      rw [List.length_cons] at hn
      rw [List.cons_append, frontOf, frontOf]
      split_ifs
      · rcases skip_closing f rest with h | ⟨h, h'⟩
        · rw [h]
          refine (ih (by omega) ?_).map (c :: ·)
          rw [← h]
          exact Nat.le_trans (skip_suffix f _).length_le (Nat.le_of_succ_le_succ hm)
        · rw [h, h', hnil, hnil]
          exact .remark [c]
      · exact .same [] (c :: rest)

theorem isReader_digitsFrom (f : Flags) : IsReader fun t => some (digitsFrom f t.length t) := by
  simp only [digitsFrom_eq]
  refine ⟨fun {t digits rest} h => ?_, fun t => ?_⟩
  · have hsuffix := frontOf_suffix f Char.isDigit t.length t
    rwa [Option.some.inj h] at hsuffix
  · exact beside_frontOf f (by decide) (Nat.le_refl _) (Nat.le_refl _)

end Postroom.Pattern
