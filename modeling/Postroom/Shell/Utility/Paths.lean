import Postroom.Shell.Utility.Clock
import Postroom.Shell.Utility.Files

/-!
# Utilities on paths

The utilities that list directories, tell what is known of files, and take paths apart.
-/

namespace Postroom.Shell.Utility

/-- What a path is, as `stat` and `find` tell. -/
structure Status where
  kind : String
  letter : Char
  mode : Nat
  size : Nat

/-- What is at a path, a link being something of its own unless it is followed. -/
def status? (m : Machine) (follows : Bool) (path : Text) : Option Status :=
  let link := if follows then none else m.link? path
  match link, m.file? path, m.directory? path with
  | some l, _, _ => some ⟨"symbolic link", 'l', 0o777, l.target.length⟩
  | none, some f, _ =>
    let size := (m.contents f).length
    some ⟨if size = 0 then "regular empty file" else "regular file", '-', f.mode, size⟩
  | none, none, some d => some ⟨"directory", 'd', d.mode, 4096⟩
  | none, none, none =>
    if m.doesExist path then some ⟨"regular file", '-', 0o755, 0⟩ else none

/-- A directory and, in the given order, those below it, down to a depth. -/
def directoriesBelow (m : Machine) (order : List Text → List Text) : Nat → Text → List Text
  | 0, path => [path]
  | depth + 1, path =>
    path :: (order (m.entries path)).flatMap fun n =>
      let inner := (if path.getLast? = some '/' then path else path ++ ['/']) ++ n
      if m.isDirectory inner ∧ (m.link? inner).isNone then directoriesBelow m order depth inner
      else []

/-- How many units of 1024 octets are taken. -/
def Status.blocks (s : Status) : Nat :=
  if s.letter = 'l' then 0 else (s.size + 4095) / 4096 * 4

/-- A text in front of blanks, or behind them. -/
def column (isRight : Bool) (width : Nat) (t : Text) : Text :=
  let blanks := List.replicate (width - t.length) ' '
  if isRight then blanks ++ t else t ++ blanks

/-- Paths with their names as rows with rights, sizes and times. -/
def longRows (m : Machine) (named : List (Text × Text)) : List Text :=
  let found := named.filterMap fun (p, n) => (status? m false p).map fun s => (p, n, s)
  let width := (found.map fun (_, _, s) => (Text.ofNat s.size).length).foldl max 0
  let time := Instant.now.format "%b %e %H:%M".toList
  found.map fun (p, n, s) =>
    let links := if s.letter = 'd' then ['2'] else ['1']
    let target := ((m.link? p).map fun l => " -> ".toList ++ l.target).getD []
    s.letter :: Rights.shown s.mode ++ ' ' :: links ++ " root root ".toList
      ++ column true width (Text.ofNat s.size) ++ ' ' :: time ++ ' ' :: n ++ target

/-- Lists directories. -/
def ls : Utility := fun arguments =>
  withOptions "ls" 2 "1aAdFhlrRtpqSUX" [("all", 'a'), ("almost-all", 'A'), ("reverse", 'r'),
    ("directory", 'd'), ("color", 'q')] arguments fun g => do
    let m ← get
    let isShown (n : Text) : Bool := g.has 'a' ∨ g.has 'A' ∨ n.head? ≠ some '.'
    let ordered (ts : List Text) : List Text :=
      if g.has 'r' then (Text.sorted ts).reverse else Text.sorted ts
    let mark (path name : Text) : Text :=
      if (g.has 'F' ∨ g.has 'p') ∧ m.isDirectory path ∧ (m.link? path).isNone then name ++ ['/']
      else if g.has 'F' ∧ (m.link? path).isSome then name ++ ['@']
      else if g.has 'F' ∧ (m.file? path).any (·.isExecutable) then name ++ ['*']
      else name
    let rows (named : List (Text × Text)) : List Text :=
      if g.has 'l' then longRows m (named.map fun (p, n) => (p, mark p n))
      else named.map fun (p, n) => mark p n
    let shown (path : Text) : List Text :=
      let names := (m.entries path).filter isShown
      let named := (ordered ((if g.has 'a' then [['.'], ['.', '.']] else []) ++ names)).map fun n =>
        (path ++ '/' :: n, n)
      let sizes := named.map fun (p, _) => ((status? m false p).map Status.blocks).getD 0
      (if g.has 'l' then ["total ".toList ++ Text.ofNat (total sizes)] else []) ++ rows named
    let paths := if g.operands.isEmpty then [['.']] else g.operands
    let isThere (p : Text) : Bool := m.doesExist p ∨ (m.link? p).isSome
    for path in paths do
      if !isThere path then missing "ls" 2 "cannot access" path
    let files := ordered (paths.filter fun p => isThere p ∧ (g.has 'd' ∨ !m.isDirectory p))
    let named := ordered (paths.filter fun p => !g.has 'd' ∧ m.isDirectory p)
    let directories := if g.has 'R' then
        named.flatMap (directoriesBelow m (fun ts => ordered (ts.filter isShown)) 1000)
      else named
    writeLines (rows (files.map fun p => (p, p)))
    let mut isFirst := files.isEmpty
    for d in directories do
      if 1 < paths.length ∨ g.has 'R' then
        write ((if isFirst then [] else ['\n']) ++ d ++ ":\n".toList)
      writeLines (shown d)
      isFirst := false

/-- Fills in a format of `stat`; `reads` tells that escapes in it are read. -/
def fillStatus (reads : Bool) (s : Status) (path : Text) : Text → Text
  | '%' :: c :: rest =>
    let value : Text :=
      match c with
      | 'n' => path
      | 'N' => Name.quoted path
      | 's' => Text.ofNat s.size
      | 'a' => Rights.octal s.mode
      | 'A' => s.letter :: Rights.shown s.mode
      | 'F' => s.kind.toList
      | 'U' | 'G' => "root".toList
      | 'u' | 'g' => ['0']
      | 'h' => ['1']
      | '%' => ['%']
      | _ => ['?']
    value ++ fillStatus reads s path rest
  | '\\' :: c :: rest =>
    let value : Text :=
      if !reads then ['\\', c] else if c = 'n' then ['\n'] else if c = 't' then ['\t'] else [c]
    value ++ fillStatus reads s path rest
  | c :: rest => c :: fillStatus reads s path rest
  | [] => []

/-- Writes what is known of files, in a format. -/
def stat : Utility := fun arguments =>
  withOptions "stat" 1 "c:p:Lt" [("format", 'c'), ("printf", 'p'), ("dereference", 'L')]
    arguments fun g => do
    if g.operands.isEmpty then
      complain "stat" 1 "missing operand".toList
      Action.change (·.complain "Try 'stat --help' for more information.".toList)
    for path in g.operands do
      match status? (← get) (g.has 'L') path with
      | none => missing "stat" 1 "cannot statx" path
      | some s =>
        match g.value? 'p' with
        | some form => write (fillStatus true s path form)
        | none => writeLines [fillStatus false s path ((g.value? 'c').getD "%n".toList)]

/-- The last step of a path without an ending. -/
def baseOf (path ending : Text) : Text :=
  let name := if path.all (· = '/') then (if path.isEmpty then [] else ['/']) else
    (Text.splitLast '/' (path.reverse.dropWhile (· = '/')).reverse).elim
      (path.reverse.dropWhile (· = '/')).reverse (·.2)
  if name = ending then name else (Text.stripBack ending name).getD name

/-- Writes the last steps of paths. -/
def basename : Utility := fun arguments =>
  withOptions "basename" 1 "as:z" [("multiple", 'a'), ("suffix", 's')] arguments fun g => do
    match g.operands with
    | [] =>
      complain "basename" 1 "missing operand".toList
      Action.change (·.complain "Try 'basename --help' for more information.".toList)
    | path :: rest =>
      if g.has 'a' ∨ g.has 's' then
        writeLines (g.operands.map fun p => baseOf p ((g.value? 's').getD []))
      else
        match rest with
        | [] => writeLines [baseOf path []]
        | [ending] => writeLines [baseOf path ending]
        | _ :: extra :: _ =>
          complain "basename" 1 ("extra operand ".toList ++ Name.marked extra)
          Action.change (·.complain "Try 'basename --help' for more information.".toList)

/-- Where a path lies. -/
def directoryOf (path : Text) : Text :=
  let trimmed := (path.reverse.dropWhile (· = '/')).reverse
  if trimmed.isEmpty then if path.isEmpty then ['.'] else ['/']
  else
    match Text.splitLast '/' trimmed with
    | none => ['.']
    | some (front, _) =>
      let front := (front.reverse.dropWhile (· = '/')).reverse
      if front.isEmpty then ['/'] else front

/-- Writes where paths lie. -/
def dirname : Utility := fun arguments =>
  withOptions "dirname" 1 "z" [] arguments fun g => do
    if g.operands.isEmpty then
      complain "dirname" 1 "missing operand".toList
      Action.change (·.complain "Try 'dirname --help' for more information.".toList)
    writeLines (g.operands.map directoryOf)

/-- Writes paths from the root. -/
def realpath : Utility := fun arguments =>
  withOptions "realpath" 1 "eLmPqsz" [] arguments fun g => do
    if g.operands.isEmpty then
      complain "realpath" 1 "missing operand".toList
      Action.change (·.complain "Try 'realpath --help' for more information.".toList)
    for path in g.operands do
      let m ← get
      if m.doesExist path ∨ g.has 'm' ∨ (m.hasParent path ∧ !g.has 'e') then
        writeLines [if g.has 's' then m.absolute path else m.locate path]
      else if g.has 'q' then leave 1
      else complain "realpath" 1 (Name.shown path ++ ": No such file or directory".toList)

/-- Writes where links lead to; with `-f` and its like, paths from the root. -/
def readlink : Utility := fun arguments =>
  withOptions "readlink" 1 "efmnqsvz" [("canonicalize", 'f'), ("no-newline", 'n')]
    arguments fun g => do
    if g.operands.isEmpty then
      complain "readlink" 1 "missing operand".toList
      Action.change (·.complain "Try 'readlink --help' for more information.".toList)
    for path in g.operands do
      let m ← get
      let isWhole : Bool := g.has 'e' ∨ g.has 'f' ∨ g.has 'm'
      let found : Option Text :=
        if !isWhole then (m.link? path).map (·.target)
        else if m.doesExist path ∨ g.has 'm' ∨ (m.hasParent path ∧ !g.has 'e') then
          some (m.locate path)
        else none
      match found with
      | some t => write (if g.has 'n' then t else t ++ ['\n'])
      | none => leave 1

end Postroom.Shell.Utility
