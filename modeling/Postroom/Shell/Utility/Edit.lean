import Postroom.Shell.Utility.Basic
import Postroom.Shell.Utility.Script

/-!
# Editing a stream of lines

The utility that runs a script over each line: it substitutes, deletes, inserts and rearranges.

* `Editor.run` — what a script makes of lines;
* `Utility.sed`.
-/

namespace Postroom.Shell.Utility

/-- A text as a change makes it. -/
def CaseChange.apply (c : CaseChange) (t : Text) : Text :=
  match c, t with
  | .upper, t => t.map Char.toUpper
  | .lower, t => t.map Char.toLower
  | .upperOne, c :: t => c.toUpper :: t
  | .lowerOne, c :: t => c.toLower :: t
  | _, t => t

/-- The state of the editing of lines. -/
structure Editor where
  /-- What ends a line. -/
  ending : Char
  rest : List (Text × Bool)
  number : Nat
  space : Text
  /-- The line at hand has an end. -/
  isEnded : Bool
  held : Text
  /-- What has been written, last piece first; whether its last line has no end yet. -/
  output : List Text
  isOpen : Bool
  /-- What is written behind the line at hand. -/
  queue : List (Bool × Text)
  hasChanged : Bool
  lastPattern : Option Regex
  /-- The line in which the range of each command that is open has begun. -/
  ranges : List (Nat × Nat)
  files : List (Text × Text)
  status : Nat
  isDone : Bool

namespace Editor

/-- Writes a text, behind an end of the last line if that has none yet. -/
def emit (s : Editor) (t : Text) (isEnded : Bool) : Editor :=
  { s with
    output := (if isEnded then [s.ending] else []) :: t :: (if s.isOpen then [s.ending] else [])
      :: s.output
    isOpen := !isEnded }

/-- Writes to a file. -/
def emitTo (s : Editor) (path t : Text) : Editor :=
  if path = "/dev/stdout".toList then s.emit t true
  else
    let before := (s.files.lookup path).getD []
    { s with files := (path, before ++ t ++ ['\n']) :: s.files.filter (·.1 ≠ path) }

/-- The text matches an expression or, without one, that which was used last. -/
def doesMatch (s : Editor) (r : Option Regex) (ignoresCase : Bool) : Bool × Editor :=
  match r <|> s.lastPattern with
  | none => (false, s)
  | some r => (r.isIn ignoresCase s.space, { s with lastPattern := some r })

/-- An address is that of the line at hand. -/
def isAt (s : Editor) : Address → Bool × Editor
  | .line n => (s.number = n, s)
  | .last => (s.rest.isEmpty, s)
  | .step first width =>
    (if width = 0 then s.number = first else first ≤ s.number ∧ (s.number - first) % width = 0, s)
  | .matching r ignoresCase => s.doesMatch r ignoresCase

/-- A command, by its place, applies to the line at hand. -/
def applies (s : Editor) (place : Nat) (c : Selector) : Bool × Editor :=
  let (found, s) : Bool × Editor :=
    match c.first, c.last with
    | none, _ => (true, s)
    | some a, none => s.isAt a
    | some a, some e =>
      let close (s : Editor) : Editor := { s with ranges := s.ranges.filter (·.1 ≠ place) }
      match s.ranges.lookup place with
      | some since =>
        -- The range is open.
        match e with
        | .address (.line n) =>
          if n < s.number then
            -- A line number that has been passed closes the range in front of this line.
            let (again, s) := (close s).isAt a
            (again, s)
          else (true, if n ≤ s.number then close s else s)
        | .address b =>
          let (ends, s) := s.isAt b
          (true, if ends then close s else s)
        | .after n => (true, if since + n ≤ s.number then close s else s)
        | .multiple n => (true, if n = 0 ∨ s.number % n = 0 then close s else s)
      | none =>
        let isZero : Bool :=
          match a with
          | .line 0 => true
          | _ => false
        if isZero ∧ s.number = 1 then
          match e with
          | .address b =>
            let (ends, s) := s.isAt b
            (true, if ends then s else { s with ranges := (place, 1) :: s.ranges })
          | _ => (true, s)
        else
          let (begins, s) := s.isAt a
          if begins then
            let opens : Bool :=
              match e with
              | .address (.line n) => s.number < n
              | .after n => 0 < n
              | .multiple n => 0 < n ∧ s.number % n ≠ 0
              | .address _ => true
            (true, if opens then { s with ranges := (place, s.number) :: s.ranges } else s)
          else (false, s)
  (found != c.isInverted, s)

/-- The text of a replacement for a match: one change of case holds for all that follows, another
for the next character. -/
def replacementFrom (subject : Regex.Subject) (m : Regex.Match) (whole one : CaseChange) :
    List Replacement → Text
  | [] => []
  | .change c :: rest =>
    match c with
    | .upperOne | .lowerOne => replacementFrom subject m whole c rest
    | c => replacementFrom subject m c .none rest
  | part :: rest =>
    let t : Text :=
      match part with
      | .text c => [c]
      | .group n => m.group subject n
      | .change _ => []
    one.apply (whole.apply t)
      ++ replacementFrom subject m whole (if t.isEmpty then one else .none) rest

/-- Substitutes matches, and tells whether there were any. -/
def substitute (s : Editor) (u : Substitution) : Editor :=
  match u.pattern <|> s.lastPattern with
  | none => s
  | some r =>
    let subject : Regex.Subject := ⟨s.space.toArray, u.ignoresCase⟩
    let found := (Regex.all subject r).drop (u.occurrence - 1)
    let found := if u.isGlobal then found else found.take 1
    let s := { s with lastPattern := some r }
    if found.isEmpty then s
    else
      let (pieces, place) := found.foldl
        (fun (done : List Text × Nat) m =>
          (replacementFrom subject m .none .none u.replacement :: subject.slice done.2 m.start
            :: done.1, m.finish))
        ([], 0)
      let space := (subject.slice place subject.text.size :: pieces).reverse.flatten
      let s := { s with space, hasChanged := true }
      let s := if u.prints then s.emit space true else s
      match u.file with
      | some path => s.emitTo path space
      | none => s

/-- A text as `l` shows it. -/
def shown (t : Text) : Text :=
  let one (c : Char) : Text :=
    match c with
    | '\\' => "\\\\".toList
    | '\x07' => "\\a".toList
    | '\x08' => "\\b".toList
    | '\x0c' => "\\f".toList
    | '\n' => "\\n".toList
    | '\r' => "\\r".toList
    | '\t' => "\\t".toList
    | '\x0b' => "\\v".toList
    | c => if ' ' ≤ c ∧ c ≤ '~' then [c] else
      let ds := Nat.toDigits 8 c.toNat
      '\\' :: List.replicate (3 - ds.length) '0' ++ ds
  let rec wrap : Nat → List Text → Text
    | _, [] => ['$']
    | n, p :: ps =>
      if 69 < n + p.length then '\\' :: '\n' :: p ++ wrap p.length ps
      else p ++ wrap (n + p.length) ps
  wrap 0 (t.map one)

/-- The place behind the end of the group that begins at a place. -/
def behindGroup (script : Script) : Nat → Nat → Nat → Nat
  | 0, i, _ => i
  | fuel + 1, i, depth =>
    match script[i]? with
    | none => i
    | some c =>
      match c.edit with
      | .begin => behindGroup script fuel (i + 1) (depth + 1)
      | .finish => if depth ≤ 1 then i + 1 else behindGroup script fuel (i + 1) (depth - 1)
      | _ => behindGroup script fuel (i + 1) depth

/-- The place of a label; none leads to the end. -/
def placeOf (script : Script) (t : Text) : Nat :=
  if t.isEmpty then script.size
  else
    (script.findIdx? fun c =>
      match c.edit with
      | .label l => l = t
      | _ => false).getD script.size

/-- Writes what is to stand behind the line at hand. -/
def flush (s : Editor) : Editor :=
  s.queue.foldl
    (fun s (isWhole, t) =>
      if isWhole then
        { s with output := t :: (if s.isOpen ∧ t ≠ [] then ['\n'] else []) :: s.output
                 isOpen := if t = [] then s.isOpen else false }
      else s.emit t true)
    { s with queue := [] }

/-- Takes the next line, if there is one. -/
def takeLine (s : Editor) : Option Editor :=
  match s.rest with
  | [] => none
  | (t, isEnded) :: rest =>
    some { s with space := t, isEnded, rest, number := s.number + 1 }

/-- The end of the work on a line. -/
def endCycle (quiet : Bool) (s : Editor) : Editor :=
  (if quiet then s else s.emit s.space s.isEnded).flush

/-- How the work on a line goes on. -/
inductive Next where
  | at (place : Nat)
  /-- The next line is taken, or the work begins again without one. -/
  | cycle
  | again

/-- Does what a command asks for. -/
def perform (quiet : Bool) (script : Script) (m : Machine) (s : Editor) (place : Nat) (c : Selector)
    (e : Edit) : Editor × Next :=
  let go (s : Editor) : Editor × Next := (s, .at (place + 1))
  let firstLine := s.space.takeWhile (· ≠ '\n')
  match e with
  | .begin | .finish | .label _ => go s
  | .branch t => (s, .at (placeOf script t))
  | .branchIf t =>
    if s.hasChanged then ({ s with hasChanged := false }, .at (placeOf script t)) else go s
  | .branchUnless t =>
    if s.hasChanged then go { s with hasChanged := false } else (s, .at (placeOf script t))
  | .substitute u => go (s.substitute u)
  | .exchange pairs => go { s with space := s.space.map fun c => (pairs.lookup c).getD c }
  | .append t => go { s with queue := s.queue ++ [(false, t.dropLast)] }
  | .insert t => go (s.emit t.dropLast true)
  | .replace t =>
    let isLast : Bool := c.last.isNone ∨ c.isInverted ∨ !(s.ranges.any (·.1 = place))
    (if isLast then (s.emit t.dropLast true).flush else s.flush, .cycle)
  | .read path =>
    let t := ((m.file? path).map m.contents).getD []
    go { s with queue := s.queue ++ [(true, t)] }
  | .write path => go (s.emitTo path s.space)
  | .delete => (s.flush, .cycle)
  | .deleteFirst =>
    if s.space.contains '\n' then
      ({ s with space := s.space.drop (firstLine.length + 1) }.flush, .again)
    else (s.flush, .cycle)
  | .print => go (s.emit s.space true)
  | .printFirst => go (s.emit firstLine true)
  | .next =>
    if s.rest.isEmpty then ({ endCycle quiet s with isDone := true }, .cycle)
    else
      let s := endCycle quiet s
      go ((s.takeLine).getD s)
  | .appendNext =>
    if s.rest.isEmpty then ({ endCycle quiet s with isDone := true }, .cycle)
    else
      let before := s.space
      let s := s.flush
      let s := (s.takeLine).getD s
      go { s with space := before ++ '\n' :: s.space }
  | .hold => go { s with held := s.space }
  | .holdAppend => go { s with held := s.held ++ '\n' :: s.space }
  | .get => go { s with space := s.held }
  | .getAppend => go { s with space := s.space ++ '\n' :: s.held }
  | .swap => go { s with space := s.held, held := s.space }
  | .number => go (s.emit (Text.ofNat s.number) true)
  | .list => go (s.emit (shown s.space) true)
  | .clear => go { s with space := [] }
  | .quit n => ({ endCycle quiet s with isDone := true, status := n }, .cycle)
  | .quitSilently n => ({ s with isDone := true, status := n }, .cycle)

/-- Runs commands from a place on, with the given fuel, and tells whether the work begins again
without a new line. -/
def runFrom (quiet : Bool) (script : Script) (m : Machine) : Nat → Nat → Editor → Editor × Bool
  | 0, _, s => ({ s with isDone := true }, false)
  | fuel + 1, place, s =>
    match script[place]? with
    | none => (endCycle quiet s, false)
    | some c =>
      let (found, s) := s.applies place c.selector
      if found then
        match s.perform quiet script m place c.selector c.edit with
        | (s, .at place) => runFrom quiet script m fuel place s
        | (s, .cycle) => (s, false)
        | (s, .again) => (s, true)
      else
        match c.edit with
        | .begin => runFrom quiet script m fuel (behindGroup script (script.size + 1) place 0) s
        | _ => runFrom quiet script m fuel (place + 1) s

/-- How many commands may be run on a line. -/
def cycleLimit : Nat := 1000000

/-- Runs a script on line after line, with the given fuel. -/
def runLines (quiet : Bool) (script : Script) (m : Machine) : Nat → Bool → Editor → Editor
  | 0, _, s => s
  | fuel + 1, keeps, s =>
    if s.isDone then s
    else
      match if keeps then some s else s.takeLine with
      | none => s
      | some s =>
        let (s, again) := runFrom quiet script m cycleLimit 0 { s with hasChanged := false }
        runLines quiet script m fuel again s

/-- An editor that has not begun, on the lines of a text. -/
def start (ending : Char) (t : Text) : Editor :=
  let ps := Text.pieces (· = ending) t
  let lines := ps.dropLast.map fun l => (l, true)
  let lines := if ps.getLast? = some [] then lines else lines ++ [(ps.getLastD [], false)]
  ⟨ending, lines, 0, [], true, [], [], false, [], false, none, [], [], 0, false⟩

/-- What a script makes of a text. -/
def run (quiet : Bool) (script : Script) (m : Machine) (ending : Char) (t : Text) : Editor :=
  runLines quiet script m (2 * t.length + 10) false (start ending t)

/-- What has been written. -/
def written (s : Editor) : Text :=
  s.output.reverse.flatten

end Editor

/-- Runs a script over files or the input, or over each of the files in its place. -/
def sed : Utility := fun arguments =>
  let isLong (t : Text) : Bool := "--in-place".toList.isPrefixOf t
  let inPlace := arguments.any fun t => t.take 2 = ['-', 'i'] ∨ isLong t
  let backup : Text := ((arguments.find? fun t => t.take 2 = ['-', 'i']).map (·.drop 2)).getD []
  let arguments := arguments.filter fun t => t.take 2 ≠ ['-', 'i'] ∧ !isLong t
  withOptions "sed" 1 "nEre:f:suzl:" [("expression", 'e'), ("file", 'f'), ("quiet", 'n'),
    ("silent", 'n'), ("regexp-extended", 'E'), ("separate", 's'), ("null-data", 'z')]
    arguments fun g => do
    let mut scripts := g.values 'e'
    for path in g.values 'f' do
      let t ← input? path fun e =>
        complain "sed" 1 ("couldn't open file ".toList ++ path ++ ": ".toList ++ e.message)
      scripts := scripts ++ (t.map fun t => (Text.stripBack ['\n'] t).getD t).toList
    let given := g.has 'e' ∨ g.has 'f'
    if !given ∧ g.operands.isEmpty then
      let usage := "Usage: sed [OPTION]... \x7bscript-only-if-no-other-script\x7d [input-file]..."
      Action.change fun m => (m.complain usage.toList).withStatus 1
    else if (← get).status ≠ 0 then return ()
    else
    let source := if given then Text.join ['\n'] scripts else g.operands.headD []
    let paths := if given then g.operands else g.operands.drop 1
    match Script.parse (g.has 'E' || g.has 'r') source with
    | .error (why, place) =>
      complain "sed" 1 ("-e expression #1, char ".toList ++ Text.ofNat place ++ ": ".toList ++ why)
    | .ok script =>
      let ending := if g.has 'z' then '\x00' else '\n'
      let quiet : Bool := g.has 'n' ∨ source.take 3 = "#n\n".toList
      let mut status := 0
      if inPlace then
        for path in paths do
          let t ← input? path fun e =>
            if e = .directory then
              complain "sed" 4 ("couldn't edit ".toList ++ path ++ ": not a regular file".toList)
            else complain "sed" 2 ("can't read ".toList ++ path ++ ": ".toList ++ e.message)
          match t with
          | none => status := max status (← get).status
          | some t =>
            let done := Editor.run quiet script (← get) ending t
            let rest := done.rest.flatMap fun l => l.1 ++ (if l.2 then ['\n'] else [])
            if backup ≠ [] then Action.change (·.setFile (path ++ backup) t)
            Action.change (·.setFile path (done.written ++ rest))
            done.files.forM fun f => Action.change (·.setFile f.1 f.2)
            if done.isDone ∧ status = 0 then status := done.status
      else
        let before := (← get).unread 0
        let isStream := paths.isEmpty
        let mut texts : List Text := []
        for path in (if paths.isEmpty then [['-']] else paths) do
          let t ← if status = 4 then pure none else input? path fun e => do
            let front := if e = .directory then "read error on " else "can't read "
            complain "sed" 2 (front.toList ++ path ++ ": ".toList ++ e.message)
          match t with
          | none => status := if (← get).isDirectory path then 4 else max status 2
          | some t =>
            let isJoined := isOpenEnded t ∧ path ≠ paths.getLastD ['-']
            texts := (if isJoined then t ++ ['\n'] else t) :: texts
        let done := Editor.run quiet script (← get) ending texts.reverse.flatten
        write done.written
        done.files.forM fun f =>
          if f.1 = "/dev/stderr".toList then Action.change (·.write 2 f.2)
          else Action.change (·.setFile f.1 f.2)
        if isStream ∧ done.isDone then
          -- The rest of what has been taken in whole blocks is lost.
          let left := total (done.rest.map fun l => l.1.length + 1)
          let used := before.length - left
          Action.change (·.leaveUnread 0 (before.drop ((used + 4096) / 4096 * 4096)))
        if done.isDone ∧ status = 0 then status := done.status
      leave status

end Postroom.Shell.Utility
