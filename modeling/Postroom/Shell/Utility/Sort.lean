import Postroom.Shell.Utility.Lines
import Postroom.Shell.Utility.Order

/-!
# Sorted lines

The utilities that bring lines into an order, and that drop lines equal to the one before.

* `SortKey.compare` — the order of two lines by a part of them;
* `Utility.sort`, `Utility.uniq`.
-/

namespace Postroom.Shell.Utility

/-- A part of a line by which lines are compared: the field and the character that it begins with,
and those that it ends with. -/
structure SortKey where
  first : Nat × Nat
  last : Option (Nat × Nat)
  style : SortStyle

namespace SortKey

/-- A position as `2.3`, and the letters behind it. -/
def position (t : Text) : Nat × Nat × Text :=
  let field := t.takeWhile Char.isDigit
  let rest := t.drop field.length
  let (character, rest) : Text × Text :=
    match rest with
    | '.' :: rest => (rest.takeWhile Char.isDigit, rest.dropWhile Char.isDigit)
    | _ => ([], rest)
  ((Text.toNat? field).getD 0, (Text.toNat? character).getD 0, rest)

/-- Reads a key; what it does not say is taken from the style of the whole. -/
def parse (whole : SortStyle) (t : Text) : SortKey :=
  let front := t.takeWhile (· ≠ ',')
  let (field, character, letters) := position front
  let behind := t.drop (front.length + 1)
  let (last, letters) : Option (Nat × Nat) × Text :=
    if front.length = t.length then (none, letters)
    else
      let (f, c, more) := position behind
      (some (f, c), letters ++ more)
  let own := letters.foldl SortStyle.withLetter .plain
  ⟨(field, max character 1), last, if letters.isEmpty then whole else own⟩

/-- Where the fields of a line begin and end.  Without a separator the blanks in front belong to a
field. -/
def bounds (separator : Option Char) (l : Text) : List (Nat × Nat) :=
  let isBlank (c : Char) : Bool := c = ' ' ∨ c = '\t'
  match separator with
  | some d =>
    ((Text.pieces (· = d) l).foldl (fun (done : List (Nat × Nat) × Nat) p =>
      ((done.2, done.2 + p.length) :: done.1, done.2 + p.length + 1)) ([], 0)).1.reverse
  | none =>
    let rec go : Nat → Nat → Text → List (Nat × Nat)
      | 0, _, _ | _, _, [] => []
      | fuel + 1, i, t =>
        let blanks := t.takeWhile isBlank
        let rest := t.drop blanks.length
        let word := rest.takeWhile fun c => !isBlank c
        let n := blanks.length + word.length
        (i, i + n) :: go fuel (i + n) (t.drop n)
    go (l.length + 1) 0 l

/-- The part of a line that a key is about. -/
def part (separator : Option Char) (k : SortKey) (l : Text) : Text :=
  let fields := bounds separator l
  let skip (i : Nat) : Nat :=
    if k.style.skipsBlanks then i + ((l.drop i).takeWhile fun c => c = ' ' ∨ c = '\t').length else i
  let start :=
    match fields[k.first.1 - 1]? with
    | some (a, _) => min l.length (skip a + (k.first.2 - 1))
    | none => l.length
  let stop :=
    match k.last with
    | none => l.length
    | some (f, c) =>
      match fields[f - 1]? with
      | none => l.length
      | some (a, b) => if c = 0 then b else min l.length (skip a + c)
  (l.take stop).drop start

/-- The order of two lines by a key. -/
def compare (separator : Option Char) (k : SortKey) (a b : Text) : Ordering :=
  k.style.compare (k.part separator a) (k.part separator b)

end SortKey

/-- Brings lines into an order. -/
def sort : Utility := fun arguments =>
  withOptions "sort" 2 "bcCdfghik:mMno:rRsS:t:T:uVz" [("reverse", 'r'), ("numeric-sort", 'n'),
    ("unique", 'u'), ("key", 'k'), ("field-separator", 't'), ("output", 'o'), ("stable", 's'),
    ("ignore-case", 'f'), ("check", 'c'), ("version-sort", 'V'), ("month-sort", 'M'),
    ("general-numeric-sort", 'g'), ("human-numeric-sort", 'h'), ("dictionary-order", 'd'),
    ("ignore-leading-blanks", 'b'), ("zero-terminated", 'z'), ("merge", 'm'),
    ("random-sort", 'R')] arguments fun g => do
    let style := g.options.foldl (fun s o => s.withLetter o.1) SortStyle.plain
    let separator := (g.value? 't').bind List.head?
    let keys := (g.values 'k').map (SortKey.parse style)
    let compared := if keys.isEmpty then [⟨(1, 1), none, style⟩] else keys
    let byKeys (a b : Text) : Ordering :=
      compared.foldl (fun o k => o.then (k.compare separator a b)) .eq
    let lineEnd : Char := if g.has 'z' then '\x00' else '\n'
    let whole (a b : Text) : Ordering :=
      if g.has 's' ∨ g.has 'u' then .eq
      else if style.isReversed then (compareTexts a b).swap
      else compareTexts a b
    let order (a b : Text) : Ordering := (byKeys a b).then (whole a b)
    if keys.any fun k => k.first.1 = 0 then
      complain "sort" 2 ("field number is zero: invalid field specification ".toList
        ++ Name.marked ((g.values 'k').headD []))
    else
    let mut lines : List Text := []
    for path in (if g.operands.isEmpty then [['-']] else g.operands) do
      let t ← input? path fun e =>
        if e = .directory then
          complain "sort" 2 ("read failed: ".toList ++ Name.shown path ++ ": ".toList ++ e.message)
        else
          complain "sort" 2 ("cannot read: ".toList ++ Name.shown path ++ ": ".toList ++ e.message)
      lines := lines ++ rowsOf lineEnd (t.getD [])
    if (← get).status ≠ 0 then return ()
    if g.has 'c' ∨ g.has 'C' then
      let path := (g.operands.headD ['-'])
      let pairs := List.zip lines (lines.drop 1)
      match (pairs.mapIdx fun i p => (i, p)).find? fun p => byKeys p.2.1 p.2.2 = .gt
        ∨ (g.has 'u' ∧ byKeys p.2.1 p.2.2 = .eq) with
      | none => leave 0
      | some (i, _, l) =>
        if g.has 'C' then leave 1
        else complain "sort" 1 (path ++ ':' :: Text.ofNat (i + 2) ++ ": disorder: ".toList ++ l)
    else
      let sorted := lines.mergeSort fun a b => order a b != .gt
      let kept :=
        if g.has 'u' then
          (sorted.foldl (fun (done : List Text) l =>
            match done with
            | last :: _ => if byKeys last l = .eq then done else l :: done
            | [] => [l]) []).reverse
        else sorted
      match g.value? 'o' with
      | some path => let _ ← output "sort" path (kept.flatMap (· ++ [lineEnd]))
      | none => write (kept.flatMap (· ++ [lineEnd]))

/-- Lines that follow one another and are equal, by the first of them and their number. -/
def groups (same : Text → Text → Bool) : List Text → List (Text × List Text)
  | [] => []
  | l :: ls =>
    match groups same ls with
    | (first, others) :: rest =>
      if same l first then (l, first :: others) :: rest else (l, []) :: (first, others) :: rest
    | [] => [(l, [])]

/-- Drops lines equal to the one before. -/
def uniq : Utility := fun arguments =>
  withOptions "uniq" 1 "cdDif:s:uw:z" [("count", 'c'), ("repeated", 'd'), ("unique", 'u'),
    ("ignore-case", 'i'), ("skip-fields", 'f'), ("skip-chars", 's'), ("check-chars", 'w'),
    ("all-repeated", 'D')] arguments fun g => do
    let number (c : Char) : Option Nat := (g.value? c).bind Text.toNat?
    let isBlank (c : Char) : Bool := c = ' ' ∨ c = '\t'
    let rec skipFields : Nat → Text → Text
      | 0, t => t
      | n + 1, t => skipFields n ((t.dropWhile isBlank).dropWhile fun c => !isBlank c)
    let form (t : Text) : Text :=
      let t := (skipFields ((number 'f').getD 0) t).drop ((number 's').getD 0)
      let t := match number 'w' with
        | some n => t.take n
        | none => t
      if g.has 'i' then t.map Char.toUpper else t
    let t ← input? (g.operands.headD ['-']) fun e =>
      let path := g.operands.headD []
      complain "uniq" 1 (if e = .directory then
          "error reading ".toList ++ Name.quoted path ++ ": ".toList ++ e.message
        else Name.shown path ++ ": ".toList ++ e.message)
    match t with
    | none => return ()
    | some t =>
      let found := groups (fun a b => form a = form b) (linesOf t)
      let kept := found.filter fun (_, others) =>
        if g.has 'D' then others ≠ []
        else (!g.has 'd' ∨ others ≠ []) ∧ (!g.has 'u' ∨ others = [])
      let lines := kept.flatMap fun (l, others) =>
        if g.has 'D' then l :: others
        else if g.has 'c' then [padded 7 (others.length + 1) ++ ' ' :: l]
        else [l]
      match g.operands with
      | [_, path] => let _ ← output "uniq" path (lines.flatMap (· ++ ['\n']))
      | _ => writeLines lines

end Postroom.Shell.Utility
