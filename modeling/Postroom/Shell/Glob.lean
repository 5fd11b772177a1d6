import Postroom.Text.Basic

/-!
# Patterns of names

The patterns by which a shell chooses among names, picks a clause, and cuts values: `*` is any text,
`?` any character, and brackets hold the characters that may stand in their place.

* `Glob.ofMarks` — reads a pattern some characters of which are quoted;
* `Glob.covers` — the pattern is that of a whole text;
* `Glob.dropFront`, `Glob.dropBack` — a text without what a pattern takes off its ends.
-/

namespace Postroom.Shell

/-- The characters of a class, by its name. -/
def classRanges? (name : Text) : Option (List (Char × Char)) :=
  match String.ofList name with
  | "alpha" => some [('A', 'Z'), ('a', 'z')]
  | "digit" => some [('0', '9')]
  | "alnum" => some [('0', '9'), ('A', 'Z'), ('a', 'z')]
  | "upper" => some [('A', 'Z')]
  | "lower" => some [('a', 'z')]
  | "space" => some [(' ', ' '), ('\t', '\r')]
  | "blank" => some [(' ', ' '), ('\t', '\t')]
  | "punct" => some [('!', '/'), (':', '@'), ('[', '\x60'), ('\x7b', '~')]
  | "print" => some [(' ', '~')]
  | "graph" => some [('!', '~')]
  | "cntrl" => some [('\x00', '\x1f'), ('\x7f', '\x7f')]
  | "xdigit" => some [('0', '9'), ('A', 'F'), ('a', 'f')]
  | _ => none

/-- The character lies in one of the ranges. -/
def isInRanges (ranges : List (Char × Char)) (c : Char) : Bool :=
  ranges.any fun r => r.1 ≤ c && c ≤ r.2

/-- A part of a pattern. -/
inductive GlobItem where
  | char (c : Char)
  | any
  | many
  | oneOf (negated : Bool) (ranges : List (Char × Char))
deriving DecidableEq, Repr

/-- A pattern of names. -/
abbrev Glob := List GlobItem

namespace Glob

/-- A character of a pattern, and whether it is quoted and so stands for itself. -/
abbrev Mark := Char × Bool

/-- Takes the name of a class of characters off the front, behind its opening bracket. -/
def className? (ms : List Mark) : Option (Text × List Mark) :=
  match ms with
  | (':', false) :: rest =>
    let name := (rest.takeWhile fun m => m.1.isAlpha).map (·.1)
    match rest.drop name.length with
    | (':', _) :: (']', _) :: rest => some (name, rest)
    | _ => none
  | _ => none

/-- Reads what stands between brackets, up to the closing one, which cannot come `first`. -/
def bracketFrom : Nat → Bool → List Mark → Option (List (Char × Char) × List Mark)
  | 0, _, _ | _, _, [] => none
  | fuel + 1, first, (c, quoted) :: rest =>
    if c = ']' ∧ !quoted ∧ !first then some ([], rest)
    else
      let named : Option (List (Char × Char) × List Mark) :=
        if c = '[' ∧ !quoted then
          (className? rest).bind fun (name, rest) => (classRanges? name).map fun rs => (rs, rest)
        else none
      match named with
      | some (rs, rest) => (bracketFrom fuel false rest).map fun (more, rest) => (rs ++ more, rest)
      | none =>
        let (low, rest) : Char × List Mark :=
          match rest with
          | (d, _) :: rest' => if c = '\\' ∧ !quoted then (d, rest') else (c, rest)
          | [] => (c, rest)
        let (high, rest) : Char × List Mark :=
          match rest with
          | ('-', false) :: (d, dquoted) :: rest' =>
            if d = ']' ∧ !dquoted then (low, rest) else (d, rest')
          | _ => (low, rest)
        (bracketFrom fuel false rest).map fun (more, rest) => ((low, high) :: more, rest)

/-- Reads what stands behind an opening bracket. -/
def bracket? (ms : List Mark) : Option (GlobItem × List Mark) :=
  let (negated, behind) : Bool × List Mark :=
    match ms with
    | ('!', false) :: rest => (true, rest)
    | _ => (false, ms)
  (bracketFrom (behind.length + 1) true behind).map fun (rs, rest) => (.oneOf negated rs, rest)

/-- Reads a pattern with the given fuel. -/
def readFrom : Nat → List Mark → Glob
  | 0, _ | _, [] => []
  | fuel + 1, (c, quoted) :: rest =>
    if quoted then .char c :: readFrom fuel rest
    else if c = '*' then .many :: readFrom fuel rest
    else if c = '?' then .any :: readFrom fuel rest
    else if c = '[' then
      match bracket? rest with
      | some (item, rest) => item :: readFrom fuel rest
      | none => .char c :: readFrom fuel rest
    else if c = '\\' then
      match rest with
      | (d, _) :: rest => .char d :: readFrom fuel rest
      | [] => [.char c]
    else .char c :: readFrom fuel rest

/-- Reads a pattern. -/
def ofMarks (ms : List Mark) : Glob :=
  readFrom (ms.length + 1) ms

/-- The item takes a character. -/
def accepts (item : GlobItem) (c : Char) : Bool :=
  match item with
  | .char d => c == d
  | .any => true
  | .many => false
  | .oneOf negated ranges => isInRanges ranges c != negated

/-- What may be left of a pattern in front of the next character. -/
def starts : Glob → List Glob
  | .many :: g => (.many :: g) :: starts g
  | g => [g]

/-- What may be left of a pattern behind a character. -/
def step (c : Char) : Glob → List Glob
  | [] => []
  | .many :: g => starts (.many :: g)
  | item :: g => if accepts item c then starts g else []

/-- What may be left behind a character of ends of one pattern, which their lengths tell apart. -/
def after (gs : List Glob) (c : Char) : List Glob :=
  (gs.flatMap (step c)).foldr
    (fun g done => if done.any (·.length = g.length) then done else g :: done) []

/-- The pattern is that of a whole text. -/
def covers (g : Glob) (t : Text) : Bool :=
  (t.foldl after (starts g)).any List.isEmpty

/-- The length of the shortest front, or for `longest` the longest one, that has a pattern; `n`
characters have been taken, and `best` is the length found so far. -/
def frontLength (longest : Bool) (gs : List Glob) (n : Nat) (best : Option Nat) : Text → Option Nat
  | [] => if gs.any List.isEmpty then some n else best
  | c :: t =>
    let best := if gs.any List.isEmpty then some n else best
    if gs.isEmpty ∨ (!longest ∧ best.isSome) then best
    else frontLength longest (after gs c) (n + 1) best t

/-- Some text other than the pattern itself has the pattern. -/
def isOpen (g : Glob) : Bool :=
  g.any fun
    | .char _ => false
    | _ => true

/-- A text without the shortest front, or for `longest` the longest one, that has the pattern. -/
def dropFront (g : Glob) (longest : Bool) (t : Text) : Text :=
  match frontLength longest (starts g) 0 none t with
  | some n => t.drop n
  | none => t

/-- A text without the shortest back, or for `longest` the longest one, that has the pattern. -/
def dropBack (g : Glob) (longest : Bool) (t : Text) : Text :=
  (dropFront g.reverse longest t.reverse).reverse

end Glob

end Postroom.Shell
