import Postroom.Shell.Glob
import Postroom.Shell.Machine

/-!
# Fields

What the words of a command stand for once their expansions have been replaced: marked characters,
which are cut into fields, and fields that are replaced by the paths that they are the pattern of.

* `Marks.fields` — where expanded text is cut;
* `Marks.paths` — the fields as texts, patterns of paths replaced.
-/

namespace Postroom.Shell

/-- A part of an expanded word: a character of the word itself, a character that an expansion has
put in its place, the begin of such an expansion, which for `separate` is that of all arguments, or
a mark of quotes.  A literal character stands for itself in a pattern. -/
inductive Mark where
  | char (c : Char) (isLiteral : Bool)
  | value (c : Char) (isLiteral : Bool)
  | region (separate : Bool)
  | quotes
deriving DecidableEq, Repr

/-- An expanded word. -/
abbrev Marks := List Mark

namespace Marks

/-- The character that stands between the fields of an expansion of all arguments. -/
def separator : Char :=
  '\x00'

/-- A text that is not cut. -/
def ofText (t : Text) : Marks :=
  t.map (.char · true)

/-- A text that an expansion puts in place: one in quotes is not cut and stands for itself. -/
def ofValue (quoted : Bool) (t : Text) : Marks :=
  if quoted then ofText t else .region false :: t.map (.value · false)

/-- The text of an expanded word. -/
def text (ms : Marks) : Text :=
  ms.flatMap fun
    | .char c _ | .value c _ => [c]
    | .region _ | .quotes => []

/-- An expanded word as a pattern. -/
def glob (ms : Marks) : Glob :=
  Glob.ofMarks (ms.filterMap fun
    | .char c isLiteral | .value c isLiteral => some (c, isLiteral)
    | .region _ | .quotes => none)

/-- The characters at which fields are cut where no others are set. -/
def blanks : Text :=
  [' ', '\t', '\n']

/-- How far a word has been cut: the complete fields and the one at hand, both last part first;
whether a blank has just ended a field, and whether the expansion at hand and the one before are
those of all arguments.  When only so many fields are `left`, the last of them takes all that
remains but the blanks at its end, which `kept` is without. -/
structure Cut where
  complete : List Marks
  current : Marks
  isBehindBlank : Bool
  isSeparate : Bool
  wasSeparate : Bool
  left : Option Nat
  kept : Option Marks

namespace Cut

/-- A word that has not been cut. -/
def start (left : Option Nat) : Cut :=
  ⟨[], [], false, false, false, left, none⟩

/-- Ends the field at hand. -/
def endField (s : Cut) : Cut :=
  { s with complete := s.current.reverse :: s.complete, current := [] }

/-- Takes a character that may cut. -/
def value (separators : Text) (s : Cut) (c : Char) (isLiteral : Bool) : Cut :=
  let isEnd : Bool := c = separator ∨ (!s.isSeparate ∧ separators.contains c)
  let isBlank : Bool := isEnd ∧ (c = separator ∨ blanks.contains c)
  let longer := { s with current := .value c isLiteral :: s.current }
  if s.left = some 0 then
    if isBlank then { longer with kept := some (s.kept.getD s.current) }
    else
      { longer with
        kept := if isEnd ∧ s.isBehindBlank then s.kept else none
        isBehindBlank := false }
  else if s.isBehindBlank then
    if isBlank then s
    else if isEnd then { s with isBehindBlank := false }
    else { longer with isBehindBlank := false }
  else if isEnd then
    let behind : Bool := isBlank ∧ !(s.wasSeparate || s.isSeparate)
    if s.current.isEmpty ∧ behind then s
    else if s.left = some 1 then
      { longer with left := some 0, kept := some s.current, isBehindBlank := behind }
    else { s.endField with left := s.left.map (· - 1), isBehindBlank := behind }
  else { longer with isBehindBlank := false }

/-- Takes a part of an expanded word. -/
def step (separators : Text) (s : Cut) : Mark → Cut
  | .region separate =>
    { s with isBehindBlank := false, wasSeparate := s.isSeparate, isSeparate := separate }
  | .value c isLiteral => s.value separators c isLiteral
  | m => { s with current := m :: s.current, isBehindBlank := false }

/-- The fields: what is left is one if there is anything, and always behind all arguments. -/
def finish (s : Cut) : List Marks :=
  let s := { s with current := s.kept.getD s.current }
  (if s.isSeparate ∨ !s.current.isEmpty then s.endField else s).complete.reverse

end Cut

/-- The fields that an expanded word is cut into. -/
def fields (separators : Text) (ms : Marks) : List Marks :=
  (ms.foldl (Cut.step separators) (.start none)).finish

/-- At most so many fields of an expanded word, the last of which takes all that remains. -/
def fieldsUpTo (n : Nat) (separators : Text) (ms : Marks) : List Marks :=
  (ms.foldl (Cut.step separators) (.start (some n))).finish

/-- The steps of a path with patterns. -/
def steps : Marks → List Marks
  | [] => [[]]
  | m :: rest =>
    match m, steps rest with
    | .char '/' _, ss | .value '/' _, ss => [] :: ss
    | _, [] => [[m]]
    | _, s :: ss => (m :: s) :: ss

/-- A name that a step of a path is the pattern of: one that begins with a dot has to be asked
for. -/
def takesName (g : Glob) (name : Text) : Bool :=
  g.covers name && (name.head? ≠ some '.' || g.head? = some (.char '.'))

/-- The paths that begin as the given ones and go on as the steps ask for. -/
def pathsFrom (m : Machine) (begun : List Text) : List Marks → List Text
  | [] => begun
  | step :: rest =>
    let g := step.glob
    let next := begun.flatMap fun p =>
      if g.isOpen then
        ((m.entries (if p = [] then ['.'] else p)).filter (takesName g)).map (p ++ ·)
      else [p ++ step.text]
    match rest with
    | [] => next
    | _ :: _ => pathsFrom m ((next.filter fun p => p = [] || m.isDirectory p).map (· ++ ['/'])) rest

/-- The paths that a field is the pattern of or, if there are none, its text. -/
def paths (m : Machine) (field : Marks) : List Text :=
  if m.options.contains 'f' ∨ !field.glob.isOpen then [field.text]
  else
    let begun : Text × List Marks :=
      match field.steps with
      | [] :: rest => (['/'], rest)
      | ss => ([], ss)
    let found := (pathsFrom m [begun.1] begun.2).filter m.doesExist
    if found.isEmpty then [field.text] else Text.sorted found

end Marks

end Postroom.Shell
