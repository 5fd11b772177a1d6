import Postroom.Shell.Regex
import Postroom.Shell.Utility.Basic

/-!
# Searching lines

The utility that writes the lines of files that match patterns.

* `Search.ofOptions` — what is searched for;
* `Utility.grep`.
-/

namespace Postroom.Shell.Utility

/-- What is searched for: a pattern, and whether the lines that do not match are meant. -/
structure Search where
  pattern : Regex
  ignoresCase : Bool
  isInverted : Bool

namespace Search

/-- The patterns are taken as they stand, or in a notation. -/
inductive Kind where
  | fixed
  | basic
  | extended
deriving DecidableEq, Repr

/-- Reads the lines of patterns. -/
def patterns (kind : Kind) (t : Text) : Except RegexError (List Regex) :=
  (Text.pieces (· = '\n') t).mapM fun l =>
    match kind with
    | .fixed => .ok (Regex.literal l)
    | .basic => Regex.parse (.search false) l
    | .extended => Regex.parse (.search true) l

/-- What options ask to search for. -/
def ofOptions (kind : Kind) (g : Options.Given) (texts : List Text) : Except RegexError Search := do
  let rs ← texts.mapM (patterns kind)
  let r := Regex.anyOf rs.flatten
  let r :=
    if g.has 'x' then Regex.seq .start (.seq r .finish)
    else if g.has 'w' then Regex.seq .noWordBefore (.seq r .noWordBehind)
    else r
  return ⟨r, g.has 'i' || g.has 'y', g.has 'v'⟩

/-- A line is selected. -/
def selects (s : Search) (l : Text) : Bool :=
  s.pattern.isIn s.ignoresCase l != s.isInverted

/-- The parts of a line that match. -/
def parts (s : Search) (l : Text) : List Text :=
  let subject : Regex.Subject := ⟨l.toArray, s.ignoresCase⟩
  ((Regex.all subject s.pattern).map fun m => subject.slice m.start m.finish).filter (· ≠ [])

end Search

/-- A line to be written with its number, and whether it is one that was searched for. -/
structure Hit where
  number : Nat
  line : Text
  isMatch : Bool
deriving DecidableEq

/-- The lines around those that are selected: so many in front of each and behind it. -/
def withContext (before behind : Nat) (hits : List Hit) : List Hit :=
  let places := (hits.filter (·.isMatch)).map (·.number)
  hits.filter fun h => h.isMatch ||
    places.any fun n =>
      (h.number < n && n ≤ h.number + before) || (n < h.number && h.number ≤ n + behind)

/-- Writes hits; rows that do not follow one another are set apart. -/
def hitRows (separates : Bool) (row : Hit → List Text) : Option Nat → List Hit → List Text
  | _, [] => []
  | last, h :: hs =>
    let gap := separates && last.any fun n => n + 1 < h.number
    (if gap then ["--".toList] else []) ++ row h ++ hitRows separates row (some h.number) hs

/-- The files below a directory. -/
def filesBelow (m : Machine) (path : Text) : List Text :=
  let p := m.locate path
  let stem := if path.getLast? = some '/' then path else path ++ ['/']
  Text.sorted ((m.files.filter fun f => (p ++ ['/']).isPrefixOf f.path).map fun f =>
    stem ++ f.path.drop (p.length + 1))

/-- The lines of one file as options ask for them, and how many are selected. -/
def searchText (g : Options.Given) (s : Search) (front : Text) (t : Text) : List Text × Nat :=
  let number (c : Char) : Option Nat := (g.value? c).bind Text.toNat?
  let ends := if g.has 'z' then '\x00' else '\n'
  let all := (rowsOf ends t).mapIdx fun i l => (⟨i + 1, l, s.selects l⟩ : Hit)
  let limited : List Hit :=
    match number 'm' with
    | none => all
    | some n =>
      (all.foldl (fun (done : List Hit × Nat) h =>
        if h.isMatch ∧ n ≤ done.2 then ({ h with isMatch := false } :: done.1, done.2)
        else (h :: done.1, done.2 + if h.isMatch then 1 else 0)) ([], 0)).1.reverse
  let count := (limited.filter (·.isMatch)).length
  let around := (number 'C').getD 0
  let before := (number 'B').getD around
  let behind := (number 'A').getD around
  let row (h : Hit) : List Text :=
    let mark := if h.isMatch then ':' else '-'
    let head := (if front.isEmpty then [] else front ++ [mark])
      ++ (if g.has 'n' then Text.ofNat h.number ++ [mark] else [])
    if g.has 'o' then if h.isMatch ∧ !s.isInverted then (s.parts h.line).map (head ++ ·) else []
    else [head ++ h.line]
  let separates : Bool := 0 < before + behind ∧ !g.has 'o'
  (hitRows separates row none (withContext before behind limited), count)

/-- The long names of the options of `grep`. -/
def grepNames : List (String × Char) :=
  [("ignore-case", 'i'), ("invert-match", 'v'), ("count", 'c'), ("quiet", 'q'), ("silent", 'q'),
    ("line-number", 'n'), ("only-matching", 'o'), ("extended-regexp", 'E'), ("fixed-strings", 'F'),
    ("basic-regexp", 'G'), ("word-regexp", 'w'), ("line-regexp", 'x'), ("max-count", 'm'),
    ("no-messages", 's'), ("regexp", 'e'), ("file", 'f'), ("files-with-matches", 'l'),
    ("no-filename", 'h'), ("with-filename", 'H'), ("after-context", 'A'), ("before-context", 'B'),
    ("context", 'C'), ("recursive", 'r'), ("text", 'a'), ("color", 'u'), ("colour", 'u')]

/-- Writes the lines that match patterns. -/
def grepAs (kind : Search.Kind) : Utility := fun arguments =>
  withOptions "grep" 2 "EFGPivcnqsoxwlLhHe:f:m:A:B:C:rRyazu" grepNames arguments fun g => do
    let kind := g.options.foldl (fun k o =>
      if o.1 = 'E' ∨ o.1 = 'P' then Search.Kind.extended else if o.1 = 'F' then .fixed
      else if o.1 = 'G' then .basic else k) kind
    let mut texts := g.values 'e'
    for path in g.values 'f' do
      let t ← input? path fun e => complain "grep" 2 (path ++ ": ".toList ++ e.message)
      texts := texts ++ (match t with
        | some t => if t.isEmpty then [] else [Text.join ['\n'] (linesOf t)]
        | none => [])
    let given := g.has 'e' ∨ g.has 'f'
    if !given ∧ g.operands.isEmpty then
      Action.change fun m => (m.complain ("Usage: grep [OPTION]... PATTERNS [FILE]...\n"
        ++ "Try 'grep --help' for more information.").toList).withStatus 2
    else if given ∧ (← get).status = 2 then return ()
    else
    let operands := if given then g.operands else g.operands.drop 1
    match Search.ofOptions kind g (if given then texts else g.operands.take 1) with
    | .error .unmatchedBracket => complain "grep" 2 "Invalid regular expression".toList
    | .error e => complain "grep" 2 e.message
    | .ok s =>
      let m ← get
      let descends := g.has 'r' ∨ g.has 'R'
      let paths := if operands.isEmpty then [if descends then ['.'] else ['-']] else operands
      let paths := if descends then paths.flatMap fun p =>
        if m.isDirectory p then filesBelow m p else [p] else paths
      let isNamed : Bool := (1 < paths.length ∨ g.has 'H' ∨ descends) ∧ !g.has 'h'
      let mut total := 0
      let mut isBroken := false
      for path in paths do
        if !(g.has 'q' ∧ 0 < total) then
          let t ← input? path fun e => do
            if !g.has 's' then complain "grep" 2 (path ++ ": ".toList ++ e.message)
          match t with
          | none => isBroken := true
          | some t =>
            let name := if path = ['-'] then "(standard input)".toList else path
            let (rows, count) := searchText g s (if isNamed then name else []) t
            total := total + count
            if g.has 'q' then pure ()
            else if g.has 'l' then writeLines (if 0 < count then [name] else [])
            else if g.has 'L' then writeLines (if count = 0 then [name] else [])
            else if g.has 'c' then
              writeLines [(if isNamed then name ++ [':'] else []) ++ Text.ofNat count]
            else if t.contains '\x00' ∧ !g.has 'a' ∧ !g.has 'z' then
              -- Lines of what is no text are not shown.
              if 0 < count then
                Action.change (·.complain ("grep: ".toList ++ name
                  ++ ": binary file matches".toList))
            else write (rows.flatMap (· ++ [if g.has 'z' then '\x00' else '\n']))
      leave (if isBroken ∧ !(g.has 'q' ∧ 0 < total) then 2 else if 0 < total then 0 else 1)

/-- Writes the lines that match patterns, which are in basic notation unless options say otherwise.
-/
def grep : Utility :=
  fun arguments => grepAs .basic (arguments.flatMap fun t =>
    -- A number among the options asks for so many lines around.
    match t with
    | '-' :: d :: ds => if (d :: ds).all Char.isDigit then [['-', 'C'], d :: ds] else [t]
    | _ => [t])

end Postroom.Shell.Utility
