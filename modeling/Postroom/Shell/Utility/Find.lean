import Postroom.Shell.Utility.Paths

/-!
# Finding files

`find` walks through directories and evaluates an expression at each path: tests of the file, joined
by operators, and actions, which are tests as well.

* `Find.parse` — the expression of arguments;
* `Find.evaluate` — what an expression says and does at a path;
* `Utility.find`.
-/

namespace Postroom.Shell.Utility

namespace Find

/-- A number that an amount is compared with: more than it, less than it, or as much. -/
structure Bound where
  side : Ordering
  number : Nat

/-- An expression. -/
inductive Expr where
  | constant (holds : Bool)
  /-- A pattern for the last step of a path or the whole. -/
  | named (pattern : Glob) (foldsCase isWhole : Bool)
  | kind (letters : Text)
  | empty
  /-- The size in units of so many octets, rounded up. -/
  | size (bound : Bound) (unit : Nat)
  | age (bound : Bound)
  | rights (side : Ordering) (mode : Nat)
  | executable
  | print (lineEnd : Char)
  | format (t : Text)
  | delete
  | prune
  | quit
  /-- A command that is run for each path. -/
  | run (words : List Text)
  /-- A command that is run for many paths at once, with a number of its own. -/
  | gather (place : Nat) (words : List Text)
  | negation (e : Expr)
  | both (a b : Expr)
  | either (a b : Expr)
  | sequence (a b : Expr)

/-- What holds for the whole of a walk. -/
structure Walk where
  least : Nat
  most : Nat
  insideFirst : Bool
  /-- The expression has an action of its own. -/
  acts : Bool
  /-- The commands that are run for many paths at once. -/
  gathered : List (List Text)

/-- Why arguments are no expression. -/
inductive Fault where
  | unknown (t : Text)
  | missingArgument (t : Text)
  | unknownKind (t : Text)
  | badNumber (name t : Text)
  | badArgument (name t : Text)
  | unclosed
  | nothingBefore (t : Text)
  | nothingBehind (t : Text)
  | emptyGroup
  | tooManyClosed
  | path (t : Text)

/-- The wording of a complaint. -/
def Fault.message : Fault → Text
  | unknown t => "unknown predicate `".toList ++ t ++ ['\'']
  | missingArgument t => "missing argument to `".toList ++ t ++ ['\'']
  | unknownKind t => "Unknown argument to -type: ".toList ++ t
  | badNumber name t => "Expected a positive decimal integer argument to ".toList ++ name
      ++ ", but got ".toList ++ quote t
  | badArgument name t => "invalid argument `".toList ++ t ++ "' to `".toList ++ name ++ ['\'']
  | unclosed => ("invalid expression; I was expecting to find a ')' somewhere but did not see "
      ++ "one.").toList
  | nothingBefore t => "invalid expression; you have used a binary operator '".toList ++ t
      ++ "' with nothing before it.".toList
  | nothingBehind t => "expected an expression after '".toList ++ t ++ ['\'']
  | emptyGroup => "invalid expression; empty parentheses are not allowed.".toList
  | tooManyClosed => "invalid expression; you have too many ')'".toList
  | path t => "paths must precede expression: `".toList ++ t ++ ['\'']

/-- The marks of a pattern, a character behind a backslash standing for itself. -/
def marks : Text → List Glob.Mark
  | '\\' :: c :: rest => (c, true) :: marks rest
  | c :: rest => (c, false) :: marks rest
  | [] => []

/-- A pattern, in lower case if case does not matter. -/
def pattern (foldsCase : Bool) (t : Text) : Glob :=
  Glob.ofMarks ((marks t).map fun (c, quoted) => (if foldsCase then c.toLower else c, quoted))

/-- A bound such as `+5`, and what follows it. -/
def bound? (t : Text) : Option (Bound × Text) :=
  let (side, t) : Ordering × Text :=
    match t with
    | '+' :: rest => (.gt, rest)
    | '-' :: rest => (.lt, rest)
    | _ => (.eq, t)
  let ds := t.takeWhile Char.isDigit
  (Text.toNat? ds).map fun n => (⟨side, n⟩, t.drop ds.length)

/-- An amount is on the side of a bound that the bound asks for. -/
def Bound.takes (b : Bound) (n : Nat) : Bool :=
  compare n b.number == b.side

/-- The unit of a size, by its letter. -/
def unit? (t : Text) : Option Nat :=
  match String.ofList t with
  | "" | "b" => some 512
  | "c" => some 1
  | "w" => some 2
  | "k" => some 1024
  | "M" => some 1048576
  | "G" => some 1073741824
  | _ => none

/-- The words of a command up to its end, whether it takes many paths, and what follows it. -/
def commandOf? (read : List Text) : List Text → Option (List Text × Bool × List Text)
  | [] => none
  | t :: rest =>
    if t = [';'] then some (read.reverse, false, rest)
    else if t = ['+'] ∧ read.head? = some "\x7b\x7d".toList then
      some (read.tail.reverse, true, rest)
    else commandOf? (t :: read) rest

/-- A test or an action with its argument, if it is one that takes an argument. -/
def withArgument? (name v : Text) : Option (Except Fault Expr) :=
  let amount (unit? : Text → Option Nat) (make : Bound → Nat → Expr) : Except Fault Expr :=
    match bound? v with
    | some (b, rest) =>
      match unit? rest with
      | some u => .ok (make b u)
      | none => .error (.badArgument name v)
    | none => .error (.badArgument name v)
  let age : Except Fault Expr :=
    amount (fun rest => if rest.isEmpty then some 1 else none) fun b _ => .age b
  match String.ofList name with
  | "-name" => some (.ok (.named (pattern false v) false false))
  | "-iname" => some (.ok (.named (pattern true v) true false))
  | "-path" | "-wholename" => some (.ok (.named (pattern false v) false true))
  | "-ipath" | "-iwholename" => some (.ok (.named (pattern true v) true true))
  | "-type" =>
    let letters := v.filter (· ≠ ',')
    some (if letters ≠ [] ∧ letters.all fun c => "bcdflps".toList.contains c
      then .ok (.kind letters) else .error (.unknownKind v))
  | "-size" => some (amount unit? .size)
  | "-mtime" | "-atime" | "-ctime" | "-mmin" | "-amin" | "-cmin" => some age
  | "-perm" =>
    let (side, digits) : Ordering × Text :=
      match v with
      | '-' :: rest => (.lt, rest)
      | '/' :: rest => (.gt, rest)
      | _ => (.eq, v)
    some (match Rights.parse? 0 digits with
      | some cs => .ok (.rights side (Rights.change false 0 cs))
      | none => .error (.badArgument name v))
  | "-user" | "-group" =>
    some (.ok (.constant (v = "root".toList ∨ v = ['0'])))
  | "-uid" | "-gid" => some (.ok (.constant (v = ['0'])))
  | "-newer" => some (.ok (.constant false))
  | "-printf" => some (.ok (.format v))
  | _ => none

/-- A test or an action that takes no argument. -/
def withoutArgument? (name : Text) : Option Expr :=
  match String.ofList name with
  | "-print" => some (.print '\n')
  | "-print0" => some (.print '\x00')
  | "-delete" => some .delete
  | "-prune" => some .prune
  | "-quit" => some .quit
  | "-empty" => some .empty
  | "-true" | "-readable" | "-writable" | "-noleaf" | "-mount" | "-xdev" | "-daystart" =>
    some (.constant true)
  | "-false" | "-nouser" | "-nogroup" => some (.constant false)
  | "-executable" => some .executable
  | _ => none

/-- What is put between two expressions that follow one another without an operator. -/
def isPrimaryEnd (t : Text) : Bool :=
  [[')'], [','], "-o".toList, "-or".toList].contains t

/-- Reads one test, action or group. -/
abbrev Reading := Except Fault (Expr × Walk × List Text)

mutual

/-- Reads expressions of which the last one counts, up to a closing parenthesis. -/
def sequenceOf : Nat → Walk → Text → List Text → Reading
  | 0, _, before, _ => .error (.nothingBehind before)
  | fuel + 1, w, before, ts => do
    let (a, w, rest) ← eitherOf fuel w before ts
    match rest with
    | [','] :: behind =>
      let (b, w, rest) ← sequenceOf fuel w [','] behind
      return (.sequence a b, w, rest)
    | _ => return (a, w, rest)

/-- Reads expressions one of which has to hold. -/
def eitherOf : Nat → Walk → Text → List Text → Reading
  | 0, _, before, _ => .error (.nothingBehind before)
  | fuel + 1, w, before, ts => do
    let (a, w, rest) ← bothOf fuel w before ts
    match rest with
    | t :: behind =>
      if t = "-o".toList ∨ t = "-or".toList then
        let (b, w, rest) ← eitherOf fuel w t behind
        return (.either a b, w, rest)
      else return (a, w, rest)
    | [] => return (a, w, rest)

/-- Reads expressions all of which have to hold. -/
def bothOf : Nat → Walk → Text → List Text → Reading
  | 0, _, before, _ => .error (.nothingBehind before)
  | fuel + 1, w, before, ts => do
    let (a, w, rest) ← primary fuel w before ts
    match rest with
    | [] => return (a, w, [])
    | t :: behind =>
      if isPrimaryEnd t then return (a, w, rest)
      else
        let isWritten : Bool := t = "-a".toList ∨ t = "-and".toList
        let (b, w, rest) ← if isWritten then bothOf fuel w t behind else bothOf fuel w [] rest
        return (.both a b, w, rest)

/-- Reads a test, an action, a negation or a group. -/
def primary : Nat → Walk → Text → List Text → Reading
  | 0, _, before, _ => .error (.nothingBehind before)
  | _, _, before, [] => .error (.nothingBehind before)
  | fuel + 1, w, before, t :: rest =>
    if t = ['!'] ∨ t = "-not".toList then do
      let (e, w, rest) ← primary fuel w t rest
      return (.negation e, w, rest)
    else if t = ['('] then do
      if rest.head? = some [')'] then .error .emptyGroup
      if rest.isEmpty then .error .unclosed
      let (e, w, rest) ← sequenceOf fuel w t rest
      match rest with
      | [')'] :: rest => return (e, w, rest)
      | _ => .error .unclosed
    else if t = [')'] then .error (if before.isEmpty then .tooManyClosed else .nothingBehind before)
    else if isPrimaryEnd t ∨ t = "-a".toList ∨ t = "-and".toList then
      .error (if before.isEmpty then .nothingBefore t else .nothingBehind before)
    else if t.head? ≠ some '-' ∨ t = ['-'] then .error (.path t)
    else if t = "-exec".toList ∨ t = "-execdir".toList ∨ t = "-ok".toList then
      match commandOf? [] rest with
      | none | some ([], _, _) => .error (.missingArgument t)
      | some (words, false, rest) => .ok (.run words, { w with acts := true }, rest)
      | some (words, true, rest) =>
        .ok (.gather w.gathered.length words,
          { w with acts := true, gathered := w.gathered ++ [words] }, rest)
    else if t = "-maxdepth".toList ∨ t = "-mindepth".toList then
      match rest with
      | [] => .error (.missingArgument t)
      | v :: rest =>
        match if v.all Char.isDigit then Text.toNat? v else none with
        | none => .error (.badNumber t v)
        | some n =>
          let w := if t = "-maxdepth".toList then { w with most := n } else { w with least := n }
          .ok (.constant true, w, rest)
    else if t = "-depth".toList ∨ t = "-d".toList then
      .ok (.constant true, { w with insideFirst := true }, rest)
    else
      match withoutArgument? t with
      | some e =>
        let (acts, insideFirst) : Bool × Bool :=
          match e with
          | .print _ => (true, w.insideFirst)
          | .delete => (true, true)
          | .quit => (w.acts, w.insideFirst)
          | _ => (w.acts, w.insideFirst)
        .ok (e, { w with acts, insideFirst }, rest)
      | none =>
        match withArgument? t (rest.headD []) with
        | none => .error (.unknown t)
        | some e =>
          match rest, e with
          | [], _ => .error (.missingArgument t)
          | _, .error fault => .error fault
          | _ :: rest, .ok e =>
            let acts : Bool :=
              match e with
              | .format _ => true
              | _ => w.acts
            .ok (e, { w with acts }, rest)

end

/-- The expression of arguments; one without an action shows the paths for which it holds. -/
def parse (ts : List Text) : Except Fault (Expr × Walk) := do
  let w : Walk := ⟨0, 1000, false, false, []⟩
  if ts.isEmpty then return (.print '\n', w)
  let (e, w, rest) ← sequenceOf (8 * ts.length + 8) w [] ts
  if rest.isEmpty then return (if w.acts then e else .both e (.print '\n'), w)
  else .error .tooManyClosed

/-- What an evaluation leaves behind: whether the directory is left out or the walk ends, the paths
for the commands that take many, and whether something has failed. -/
structure Result where
  prunes : Bool
  quits : Bool
  kept : List (Nat × Text)
  fails : Bool

/-- A path on a walk: what it was asked for by, what follows that, and how deep it lies. -/
structure Visit where
  start : Text
  path : Text
  depth : Nat

/-- A command with a path in the places for it. -/
def fillIn (path : Text) (words : List Text) : List Text :=
  let rec go : Nat → Text → Text
    | 0, t => t
    | _, [] => []
    | fuel + 1, t =>
      match Text.stripFront "\x7b\x7d".toList t with
      | some rest => path ++ go fuel rest
      | none => t.take 1 ++ go fuel (t.drop 1)
  words.map fun t => go (t.length + 1) t

/-- The last step of a path, as it is written. -/
def nameOf (path : Text) : Text :=
  let t := (path.reverse.dropWhile (· = '/')).reverse
  if t.isEmpty then path else baseOf t []

/-- Fills in the format of `-printf`. -/
def fillFormat (m : Machine) (v : Visit) (s : Status) : Text → Text
  | '%' :: c :: rest =>
    let value : Text :=
      match c with
      | 'p' => v.path
      | 'f' => nameOf v.path
      | 'h' => directoryOf v.path
      | 'H' => v.start
      | 'P' => (v.path.drop v.start.length).dropWhile (· = '/')
      | 's' => Text.ofNat s.size
      | 'd' => Text.ofNat v.depth
      | 'm' => Rights.octal s.mode
      | 'M' => s.letter :: Rights.shown s.mode
      | 'y' => [if s.letter = '-' then 'f' else s.letter]
      | 'l' => ((m.link? v.path).map (·.target)).getD []
      | 'u' | 'g' => "root".toList
      | 'U' | 'G' => ['0']
      | 'n' => ['1']
      | '%' => ['%']
      | _ => ['%', c]
    value ++ fillFormat m v s rest
  | '\\' :: c :: rest =>
    let value : Char :=
      match c with
      | 'n' => '\n'
      | 't' => '\t'
      | '0' => '\x00'
      | _ => c
    value :: fillFormat m v s rest
  | c :: rest => c :: fillFormat m v s rest
  | [] => []

/-- What an expression says at a path, and what it does there by way of `run`. -/
def evaluate (run : List Text → Action Unit) (v : Visit) (s : Status) :
    Expr → Result → Action (Bool × Result)
  | .constant holds, r => return (holds, r)
  | .named pattern foldsCase isWhole, r =>
    let t := if isWhole then v.path else nameOf v.path
    return (pattern.covers (if foldsCase then t.map Char.toLower else t), r)
  | .kind letters, r => return (letters.contains (if s.letter = '-' then 'f' else s.letter), r)
  | .empty, r => do
    let m ← get
    return (if s.letter = 'd' then (m.entries v.path).isEmpty else s.letter = '-' ∧ s.size = 0, r)
  | .size bound unit, r => return (bound.takes ((s.size + unit - 1) / unit), r)
  | .age bound, r => return (bound.takes 0, r)
  | .rights side mode, r =>
    let holds : Bool :=
      match side with
      | .eq => s.mode = mode
      | .lt => s.mode &&& mode = mode
      | .gt => mode = 0 ∨ s.mode &&& mode ≠ 0
    return (holds, r)
  | .executable, r => return (s.mode &&& 0o111 ≠ 0, r)
  | .print lineEnd, r => do
    write (v.path ++ [lineEnd])
    return (true, r)
  | .format t, r => do
    write (fillFormat (← get) v s t)
    return (true, r)
  | .delete, r => do
    let m ← get
    if s.letter ≠ 'd' then
      set (m.removeFile v.path)
      return (true, r)
    else if v.path = ['.'] then return (true, r)
    else if (m.entries v.path).isEmpty then
      set (removeTree m v.path)
      return (true, r)
    else
      complain "find" 1 ("cannot delete ".toList ++ quote v.path
        ++ ": Directory not empty".toList)
      return (false, { r with fails := true })
  | .prune, r => return (true, { r with prunes := true })
  | .quit, r => return (true, { r with quits := true })
  | .run words, r => do
    run (fillIn v.path words)
    return ((← get).status = 0, r)
  | .gather place _, r => return (true, { r with kept := (place, v.path) :: r.kept })
  | .negation e, r => do
    let (holds, r) ← evaluate run v s e r
    return (!holds, r)
  | .both a b, r => do
    let (holds, r) ← evaluate run v s a r
    if holds ∧ !r.quits then evaluate run v s b r else return (holds, r)
  | .either a b, r => do
    let (holds, r) ← evaluate run v s a r
    if holds ∨ r.quits then return (holds, r) else evaluate run v s b r
  | .sequence a b, r => do
    let (holds, r) ← evaluate run v s a r
    if r.quits then return (holds, r) else evaluate run v s b r

/-- Visits a path and, down to a depth, what lies below it. -/
def visit (run : List Text → Action Unit) (e : Expr) (w : Walk) (start : Text) :
    Nat → Nat → Text → Result → Action Result
  | 0, _, _, r => return r
  | fuel + 1, depth, path, r => do
    match status? (← get) false path with
    | none => return r
    | some s =>
      let here (r : Result) : Action Result := do
        if depth < w.least then return r
        else return (← evaluate run ⟨start, path, depth⟩ s e r).2
      let inside (r : Result) : Action Result := do
        if s.letter ≠ 'd' ∨ w.most ≤ depth then return r
        else
          let stem := if path.getLast? = some '/' then path else path ++ ['/']
          let mut r := r
          for name in (← get).entries path do
            if !r.quits then r ← visit run e w start fuel (depth + 1) (stem ++ name) r
          return r
      if w.insideFirst then
        let r ← inside r
        if r.quits then return r else here r
      else
        let r ← here { r with prunes := false }
        if r.quits ∨ r.prunes then return r else inside r

end Find

/-- Walks through directories, with commands run by `run`. -/
def find (run : List Text → Action Unit) : Utility := fun arguments => do
  leave 0
  let arguments := arguments.dropWhile fun t => ["-H".toList, "-L".toList, "-P".toList].contains t
  let isPath (t : Text) : Bool :=
    (t.head? ≠ some '-' ∨ t = ['-']) ∧ t ≠ ['('] ∧ t ≠ ['!']
  let paths := arguments.takeWhile isPath
  match Find.parse (arguments.drop paths.length) with
  | .error fault => complain "find" 1 fault.message
  | .ok (e, w) =>
    let mut r : Find.Result := ⟨false, false, [], false⟩
    let mut isBroken := false
    for path in (if paths.isEmpty then [['.']] else paths) do
      if !r.quits then
        if (status? (← get) false path).isNone then
          let why := if (← get).passesFile path then "Not a directory" else
            "No such file or directory"
          complain "find" 1 (Name.marked path ++ ": ".toList ++ why.toList)
          isBroken := true
        else r ← Find.visit run e w path (w.most + 2) 0 path r
    for (words, i) in w.gathered.zipIdx do
      let kept := (r.kept.filter (·.1 = i)).reverse.map (·.2)
      if kept ≠ [] then
        run (words ++ kept)
        if (← get).status ≠ 0 then isBroken := true
    leave (if isBroken ∨ r.fails then 1 else 0)

end Postroom.Shell.Utility
