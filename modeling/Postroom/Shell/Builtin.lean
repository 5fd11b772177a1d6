import Postroom.Shell.Condition
import Postroom.Shell.Expansion
import Postroom.Shell.Format

/-!
# Commands of the shell itself

What the shell does without another program: it writes, reads lines, decides conditions, changes its
directory, its variables, arguments and options, and leaves functions, loops and itself.

* `builtin?` — the command of a name.
-/

namespace Postroom.Shell

/-- What a command of the shell does with its arguments, unless there is something to complain
about. -/
abbrev Builtin := List Text → Machine → Except Text Machine

namespace Builtin

/-- Succeeds without doing anything. -/
def succeed : Builtin := fun _ m => .ok (m.withStatus 0)

/-- Fails without doing anything. -/
def fail : Builtin := fun _ m => .ok (m.withStatus 1)

/-- The number that an argument stands for. -/
def number (t : Text) : Except Text Nat :=
  match Text.toNat? t with
  | some n => if Numeral.isWord n then .ok n else .error ("Illegal number: ".toList ++ t)
  | none => .error ("Illegal number: ".toList ++ t)

/-! ## Output -/

/-- Writes its arguments on a line, with their escapes read; `-n` in front leaves the line open. -/
def echo : Builtin := fun arguments m =>
  let (isOpen, arguments) : Bool × List Text :=
    match arguments with
    | ['-', 'n'] :: rest => (true, rest)
    | _ => (false, arguments)
  let (t, goesOn) := Escape.read (Text.join [' '] arguments)
  .ok ((m.write 1 (if isOpen ∨ !goesOn then t else t ++ ['\n'])).withStatus 0)

/-- Writes its arguments by a format. -/
def printf : Builtin := fun arguments m =>
  let format (arguments : List Text) : Except Text Machine :=
    match arguments with
    | [] => .error "usage: printf format [arg ...]".toList
    | format :: arguments =>
      let w := Format.render format arguments
      let m := (m.withStatus 0).write 1 w.output
      let status := if w.isBroken then 2 else 1
      .ok (w.complaints.foldl (fun m t => (m.complainAsShell t).withStatus status) m)
  match arguments with
  | ['-', '-'] :: rest => format rest
  | ('-' :: c :: _) :: _ => .error ("Illegal option -".toList ++ [c])
  | _ => format arguments

/-! ## Input -/

/-- The marks of a line, what follows it, and whether it is complete.  Unless the line is raw, a
backslash keeps the meaning from the character behind it, and joins lines. -/
def lineMarks (isRaw : Bool) : Text → Marks × Text × Bool
  | [] => ([], [], false)
  | '\n' :: rest => ([], rest, true)
  | '\\' :: c :: rest =>
    if isRaw then
      let (ms, rest, isComplete) := lineMarks isRaw (c :: rest)
      (.value '\\' false :: ms, rest, isComplete)
    else
      let (ms, rest, isComplete) := lineMarks isRaw rest
      (if c = '\n' then ms else .char c true :: .region false :: ms, rest, isComplete)
  | c :: rest =>
    let (ms, rest, isComplete) := lineMarks isRaw rest
    (if c = '\x00' ∨ (c = '\\' ∧ !isRaw) then ms else .value c false :: ms, rest, isComplete)

/-- Sets variables to fields; those for which there is none are empty. -/
def assignFields (m : Machine) : List Text → List Marks → Except Text Machine
  | [], _ => .ok m
  | name :: names, fields =>
    if !Lexing.isName name then .error (name ++ ": bad variable name".toList)
    else if (m.variableNamed? name).any (·.isReadOnly) then .error (name ++ ": is read only".toList)
    else assignFields (m.setVariable name (Marks.text (fields.headD []))) names (fields.drop 1)

/-- The options of `read` in front of names: whether the line is raw, and the names. -/
def readOptions (isRaw : Bool) : List Text → Except Text (Bool × List Text)
  | ['-', '-'] :: rest => .ok (isRaw, rest)
  | ['-', 'r'] :: rest => readOptions true rest
  | ['-', 'p'] :: _ :: rest => readOptions isRaw rest
  | ('-' :: c :: _) :: _ => .error ("Illegal option -".toList ++ [c])
  | rest => .ok (isRaw, rest)

/-- Sets variables to the fields of a line of the input, the last one to all that is left of it. -/
def read : Builtin := fun arguments m => do
  let (isRaw, names) ← readOptions false arguments
  if names.isEmpty then .error "arg count".toList
  else
    let (ms, rest, isComplete) := lineMarks isRaw (m.unread 0)
    let fields := Marks.fieldsUpTo names.length m.separators (.region false :: ms)
    let m ← assignFields (m.leaveUnread 0 rest) names fields
    return m.withStatus (if isComplete then 0 else 1)

/-! ## Conditions -/

/-- Succeeds when a condition holds. -/
def test : Builtin := fun arguments m =>
  match Condition.holds m arguments with
  | .ok b => .ok (m.withStatus (if b then 0 else 1))
  | .error e => .error e.message

/-- Succeeds when a condition between brackets holds. -/
def bracket : Builtin := fun arguments m =>
  if arguments.getLast? = some [']'] then test arguments.dropLast m
  else .error "missing ]".toList

/-! ## Leaving -/

/-- The status that the first argument names, or the last one when there is none. -/
def statusOf (arguments : List Text) (m : Machine) : Except Text Nat :=
  match arguments with
  | [] => .ok m.status
  | t :: _ => number t

/-- Leaves the shell. -/
def exit : Builtin := fun arguments m => do
  return { m with status := (← statusOf arguments m) % 256, flow := .exiting }

/-- Leaves the function at hand. -/
def returns : Builtin := fun arguments m => do
  return { m with status := ← statusOf arguments m, flow := .returning }

/-- Leaves loops or, for `goesOn`, the body of the last of them; outside of loops there is nothing
to leave. -/
def leaveLoops (goesOn : Bool) : Builtin := fun arguments m => do
  let n ← match arguments with
    | [] => .ok 1
    | t :: _ => number t
  if n = 0 then .error ("Illegal number: ".toList ++ Text.join [] (arguments.take 1))
  else
    let n := min n m.loops
    return { m with status := 0, flow := if n = 0 then m.flow else .leaving n goesOn }

/-! ## Directories -/

/-- Goes to another directory, and tells which one when it is the one before. -/
def changeDirectory : Builtin := fun arguments m =>
  let arguments := arguments.filter (· ∉ ["-P".toList, "-L".toList, "--".toList])
  let asked : Option Text × Bool :=
    match arguments with
    | [] => (m.value? "HOME".toList, false)
    | ['-'] :: _ => (m.value? "OLDPWD".toList, true)
    | path :: _ => (some path, false)
  match asked with
  | (none, _) | (some [], _) => .ok (m.withStatus 0)
  | (some path, tells) =>
    if m.isDirectory path then
      let there := m.absolute path
      let moved := (m.setVariable "OLDPWD".toList m.directory).setVariable "PWD".toList there
      let moved := { moved with directory := there, status := 0 }
      .ok (if tells then moved.write 1 (there ++ ['\n']) else moved)
    else .error ("can't cd to ".toList ++ path)

/-- Writes the directory at hand; with `-P`, the one that it leads to. -/
def workingDirectory : Builtin := fun arguments m =>
  let here := if arguments.contains "-P".toList then m.locate m.directory else m.directory
  .ok ((m.write 1 (here ++ ['\n'])).withStatus 0)

/-! ## Variables -/

/-- A text in quotes, as variables are listed: in single ones, and the single quotes in it in double
ones. -/
def quoted (t : Text) : Text :=
  '\'' :: go true t
where
  /-- The rest of a text behind a quote; `isSingle` tells that single quotes are open. -/
  go (isSingle : Bool) : Text → Text
    | [] => [if isSingle then '\'' else '"']
    | c :: rest =>
      if c = '\'' then (if isSingle then ['\'', '"'] else []) ++ c :: go false rest
      else (if isSingle then [] else ['"', '\'']) ++ c :: go true rest

/-- Sets a variable by an argument that gives its value, and marks it. -/
def declareOne (mark : Variable → Variable) (m : Machine) (argument : Text) : Except Text Machine :=
  let name := argument.takeWhile (· ≠ '=')
  let value := (argument.drop name.length).drop 1
  if !Lexing.isName name then .error (name ++ ": bad variable name".toList)
  else
    let v := (m.variableNamed? name).getD ⟨name, none, false, false⟩
    if name.length = argument.length then .ok (m.putVariable (mark v))
    else if v.isReadOnly then .error (name ++ ": is read only".toList)
    else .ok (m.putVariable (mark { v with value := some value }))

/-- The lines that list variables with a word in front. -/
def listing (word : Text) (vs : List Variable) : Text :=
  let sorted := vs.mergeSort fun a b => Text.precedes a.name b.name
  sorted.flatMap fun v =>
    word ++ v.name ++ (v.value.elim [] fun t => '=' :: quoted t) ++ ['\n']

/-- Marks variables, or lists those that are marked. -/
def declare (word : Text) (mark : Variable → Variable) (isMarked : Variable → Bool) : Builtin :=
  fun arguments m =>
    match arguments.filter (· ≠ "-p".toList) with
    | [] => .ok ((m.write 1 (listing (word ++ [' ']) (m.settings.filter isMarked))).withStatus 0)
    | arguments => (arguments.foldlM (declareOne mark) m).map (·.withStatus 0)

/-- Gives variables to other programs. -/
def «export» : Builtin :=
  declare "export".toList (fun v => { v with isExported := true }) (·.isExported)

/-- Keeps variables from being set again. -/
def readOnly : Builtin :=
  declare "readonly".toList (fun v => { v with isReadOnly := true }) (·.isReadOnly)

/-- Keeps variables to the function at hand. -/
def «local» : Builtin := fun arguments m =>
  if m.calls = 0 then .error "not in a function".toList
  else
    (arguments.foldlM (fun m argument =>
      let name := argument.takeWhile (· ≠ '=')
      let v := (m.variableNamed? name).getD ⟨name, none, false, false⟩
      let m := if m.locals.any (·.name = name) then m else { m with locals := v :: m.locals }
      declareOne id m argument) m).map (·.withStatus 0)

/-- Forgets a variable. -/
def unsetVariable (m : Machine) (name : Text) : Except Text Machine :=
  if !Lexing.isName name then .error (name ++ ": bad variable name".toList)
  else if (m.variableNamed? name).any (·.isReadOnly) then .error (name ++ ": is read only".toList)
  else .ok { m with settings := m.settings.filter (·.name ≠ name) }

/-- Forgets a function. -/
def unsetFunction (m : Machine) (name : Text) : Except Text Machine :=
  .ok { m with functions := m.functions.filter (·.1 ≠ name) }

/-- Forgets variables and, with `-f`, functions. -/
def unset : Builtin := fun arguments m =>
  let (work, names) :=
    match arguments with
    | ['-', 'f'] :: rest => (unsetFunction, rest)
    | ['-', 'v'] :: rest => (unsetVariable, rest)
    | rest => (unsetVariable, rest)
  (names.foldlM work m).map (·.withStatus 0)

/-! ## Arguments and options -/

/-- Drops arguments from the front. -/
def shift : Builtin := fun arguments m => do
  let n ← match arguments with
    | [] => .ok 1
    | t :: _ => number t
  if n ≤ m.arguments.length then return { m with arguments := m.arguments.drop n, status := 0 }
  else .error "can't shift that many".toList

/-- The letters of the options, in the order in which they are listed. -/
def optionLetters : Text :=
  "ubaCEVvxsnmiIfe".toList

/-- The names of options. -/
def optionNames : List (Text × Char) :=
  [("errexit".toList, 'e'), ("noglob".toList, 'f'), ("ignoreeof".toList, 'I'),
    ("interactive".toList, 'i'), ("monitor".toList, 'm'), ("noexec".toList, 'n'),
    ("stdin".toList, 's'), ("xtrace".toList, 'x'), ("verbose".toList, 'v'), ("vi".toList, 'V'),
    ("emacs".toList, 'E'), ("noclobber".toList, 'C'), ("allexport".toList, 'a'),
    ("notify".toList, 'b'), ("nounset".toList, 'u')]

/-- Switches an option. -/
def setOption (m : Machine) (isOn : Bool) (c : Char) : Machine :=
  { m with
    options := optionLetters.filter fun d =>
      if d = c then isOn else m.options.contains d }

/-- The lines that list the options. -/
def optionListing (m : Machine) : Text :=
  "Current option settings\n".toList ++ optionNames.flatMap fun o =>
    o.1 ++ List.replicate (16 - o.1.length) ' '
      ++ (if m.options.contains o.2 then "on\n".toList else "off\n".toList)

/-- Switches the options of the letters of an argument, and gives the arguments that are left; `o`
takes the next of them for the name of an option. -/
def setLetters (isOn : Bool) : Text → List Text → Machine → Except Text (Machine × List Text)
  | [], rest, m => .ok (m, rest)
  | 'o' :: letters, rest, m =>
    match rest with
    | [] => setLetters isOn letters [] (m.write 1 (optionListing m))
    | name :: rest =>
      match optionNames.lookup name with
      | some c => setLetters isOn letters rest (setOption m isOn c)
      | none => .error ("Illegal option ".toList ++ [if isOn then '-' else '+', 'o', ' '] ++ name)
  | c :: letters, rest, m =>
    if optionLetters.contains c then setLetters isOn letters rest (setOption m isOn c)
    else .error ("Illegal option ".toList ++ [if isOn then '-' else '+', c])

/-- Switches options by the arguments in front, with the given fuel, and gives those that are left,
if there are to be any. -/
def setOptions : Nat → List Text → Machine → Except Text (Machine × Option (List Text))
  | 0, _, m | _, [], m => .ok (m, none)
  | fuel + 1, t :: rest, m =>
    match t with
    | ['-', '-'] => .ok (m, some rest)
    | ['-'] =>
      .ok (setOption (setOption m false 'x') false 'v', if rest.isEmpty then none else some rest)
    | '-' :: letters => do
      let (m, rest) ← setLetters true letters rest m
      setOptions fuel rest m
    | '+' :: letters => do
      let (m, rest) ← setLetters false letters rest m
      setOptions fuel rest m
    | _ => .ok (m, some (t :: rest))

/-- Switches options and sets the arguments. -/
def set : Builtin := fun arguments m =>
  if arguments.isEmpty then
    .ok ((m.write 1 (listing [] (m.settings.filter (·.value.isSome)))).withStatus 0)
  else do
    let (m, left) ← setOptions (arguments.length + 1) arguments m
    return { m with arguments := left.getD m.arguments, status := 0 }

/-- Where the letter of an option stands in its text, and whether it takes an argument. -/
def letterTakes? (letters : Text) (c : Char) : Option Bool :=
  match letters with
  | [] => none
  | d :: rest => if c = d ∧ c ≠ ':' then some (rest.head? = some ':') else letterTakes? rest c

/-- Takes the next option of arguments, from the argument and the letter that the last one has left
it at. -/
def nextOption : Builtin := fun arguments m =>
  match arguments with
  | letters :: name :: given =>
    let ts := if given.isEmpty then m.arguments else given
    let index := (((m.value? "OPTIND".toList).bind Text.toNat?).getD 1)
    let index := if index = 0 then 1 else index
    let isSilent := letters.head? = some ':'
    let inWord : Option Text :=
      match m.optionPlace with
      | some (i, place) =>
        if i = index ∧ 1 < index then
          ((ts[index - 2]?).map (·.drop place)).filter fun t => !t.isEmpty
        else none
      | none => none
    let ended (index : Nat) : Machine :=
      let m := (m.setVariable "OPTIND".toList (Text.ofNat index)).setVariable name ['?']
      { m with optionPlace := none, status := 1 }
    let take (c : Char) (rest : Text) (index : Nat) : Machine :=
      let place := ((ts[index - 2]?).map fun t => (index, t.length - rest.length))
      let finish (m : Machine) (c : Char) (index : Nat) (place : Option (Nat × Nat)) : Machine :=
        let m := (m.setVariable "OPTIND".toList (Text.ofNat index)).setVariable name [c]
        { m with optionPlace := place, status := 0 }
      let refuse (why behind : String) (mark : Char) : Machine :=
        if isSilent then finish (m.setVariable "OPTARG".toList [c]) mark index place
        else
          let m := m.complain (why.toList ++ c :: behind.toList)
          let m := { m with settings := m.settings.filter (·.name ≠ "OPTARG".toList) }
          finish m '?' index place
      match letterTakes? letters c with
      | none => refuse "Illegal option -" "" '?'
      | some false => finish (m.setVariable "OPTARG".toList []) c index place
      | some true =>
        if !rest.isEmpty then finish (m.setVariable "OPTARG".toList rest) c index none
        else
          match ts[index - 1]? with
          | some t => finish (m.setVariable "OPTARG".toList t) c (index + 1) none
          | none => refuse "No arg for -" " option" ':'
    match inWord with
    | some (c :: rest) => .ok (take c rest index)
    | _ =>
      match ts[index - 1]? with
      | some ['-', '-'] => .ok (ended (index + 1))
      | some ('-' :: c :: rest) => .ok (take c rest (index + 1))
      | _ => .ok (ended index)
  | _ => .error "Usage: getopts optstring var [arg...]".toList

/-! ## Signals -/

/-- The names of the signals, by their numbers; the first one stands for the end of the shell. -/
def signalNames : List Text :=
  ["EXIT".toList, "HUP".toList, "INT".toList, "QUIT".toList, "ILL".toList, "TRAP".toList,
    "ABRT".toList, "BUS".toList, "FPE".toList, "KILL".toList, "USR1".toList, "SEGV".toList,
    "USR2".toList, "PIPE".toList, "ALRM".toList, "TERM".toList, "STKFLT".toList, "CHLD".toList,
    "CONT".toList, "STOP".toList, "TSTP".toList, "TTIN".toList, "TTOU".toList, "URG".toList,
    "XCPU".toList, "XFSZ".toList, "VTALRM".toList, "PROF".toList, "WINCH".toList, "IO".toList,
    "PWR".toList, "SYS".toList]

/-- The number of the signal that an argument names. -/
def signal? (t : Text) : Option Nat :=
  match Text.toNat? t with
  | some n => if n < 65 then some n else none
  | none => signalNames.findIdx? (Text.sameName t)

/-- The name of a signal. -/
def signalName (n : Nat) : Text :=
  signalNames.getD n (Text.ofNat n)

/-- Sets what is done at a signal, one after the other. -/
def setTraps (action : Option Text) : List Text → Machine → Machine
  | [], m => m.withStatus 0
  | t :: ts, m =>
    match signal? t with
    | none => (m.complain ("trap: ".toList ++ t ++ ": bad trap".toList)).withStatus 1
    | some n =>
      let others := m.traps.filter (·.1 ≠ signalName n)
      let own := (action.map fun a => (signalName n, a)).toList
      setTraps action ts { m with traps := others ++ own }

/-- Sets what is done at signals, or lists it. -/
def trap : Builtin := fun arguments m =>
  match if arguments.head? = some "--".toList then arguments.drop 1 else arguments with
  | [] =>
    let lines := signalNames.flatMap fun name =>
      match m.traps.lookup name with
      | some action => "trap -- ".toList ++ quoted action ++ ' ' :: name ++ ['\n']
      | none => []
    .ok ((m.write 1 lines).withStatus 0)
  | [t] => .ok (setTraps none [t] m)
  | action :: signals =>
    if (Text.toNat? action).any (· < 65) then .ok (setTraps none (action :: signals) m)
    else .ok (setTraps (if action = ['-'] then none else some action) signals m)

/-- The signals that a process that does nothing about them ignores. -/
def harmless : List Nat :=
  [0, 17, 18, 23, 28]

/-- The signals about which a process can do nothing. -/
def fatal : List Nat :=
  [9, 19]

/-- Sends a signal to a process.  Only the shell itself is there to get it. -/
def signalTo (signal : Nat) (m : Machine) (target : Text) : Except Text Machine := do
  let process ← number target
  if process ≠ m.process then
    return (m.complainAsShell "No such process\n".toList).withStatus 1
  else if signal = 0 then return m
  else
    match ((m.outerTraps.getD m.traps).lookup (signalName signal)).filter fun _ =>
      !fatal.contains signal with
    | some [] => return m
    | some action =>
      return if m.outerTraps.isSome then { m with sent := m.sent ++ [action] }
        else { m with pending := m.pending ++ [action] }
    | none =>
      return if harmless.contains signal then m
        else { m with flow := .killed, status := 128 + signal }

/-- What a shell says of a program that a signal has killed, by the status. -/
def endOf (status : Nat) : Text :=
  match status - 128 with
  | 1 => "Hangup".toList
  | 3 => "Quit".toList
  | 6 => "Aborted".toList
  | 9 => "Killed".toList
  | 10 => "User defined signal 1".toList
  | 11 => "Segmentation fault".toList
  | 12 => "User defined signal 2".toList
  | 14 => "Alarm clock".toList
  | 15 => "Terminated".toList
  | _ => []

/-- Sends a signal to processes, or names one. -/
def kill : Builtin := fun arguments m =>
  let send (signal : Nat) (targets : List Text) : Except Text Machine :=
    if targets.isEmpty then
      .error ("Usage: kill [-s sigspec | -signum | -sigspec] [pid | job]... or\n".toList
        ++ "kill -l [exitstatus]".toList)
    else targets.foldlM (signalTo signal) (m.withStatus 0)
  match arguments with
  | ['-', 'l'] :: [] =>
    let lines := "0\n".toList ++ (signalNames.drop 1).flatMap (· ++ ['\n'])
    .ok ((m.write 1 lines).withStatus 0)
  | ['-', 'l'] :: t :: _ => do
    return (m.write 1 (signalName ((← number t) % 128) ++ ['\n'])).withStatus 0
  | ['-', 's'] :: t :: targets =>
    match signal? t with
    | some n => send n targets
    | none => .error ("invalid signal number or name: ".toList ++ t)
  | ['-', '-'] :: targets => send 15 targets
  | ('-' :: c :: t) :: targets =>
    match signal? (c :: t) with
    | some n => send n (if targets.head? = some "--".toList then targets.drop 1 else targets)
    | none => .error ("Illegal option -".toList ++ [c])
  | targets => send 15 targets

/-! ## What a shell without terminal has little of -/

/-- Writes or sets the rights that new files are not given. -/
def umask : Builtin := fun arguments m =>
  match arguments with
  | [] =>
    let ds := Nat.toDigits 8 m.mask
    .ok ((m.write 1 (List.replicate (4 - ds.length) '0' ++ ds ++ ['\n'])).withStatus 0)
  | ['-', 'S'] :: _ =>
    let rights (who : Char) (shift : Nat) : Text :=
      let left := m.mask / shift % 8
      let right (value : Nat) (c : Char) : Text := if left / value % 2 = 0 then [c] else []
      who :: '=' :: right 4 'r' ++ right 2 'w' ++ right 1 'x'
    let t := Text.join [','] [rights 'u' 64, rights 'g' 8, rights 'o' 1]
    .ok ((m.write 1 (t ++ ['\n'])).withStatus 0)
  | t :: _ =>
    if t.all fun c => (Numeral.digit? 8 c).isSome then
      let mask := t.foldl (fun n c => 8 * n + (Numeral.digit? 8 c).getD 0) 0
      .ok { m with mask := mask % 512, status := 0 }
    else .error ((if t.all Char.isDigit then "Illegal number: " else "Illegal mode: ").toList ++ t)

/-- Complains about jobs, of which a shell without terminal has none. -/
def jobs (needsOne : Bool) : Builtin := fun arguments m =>
  match arguments with
  | t :: _ => .error ("No such job: ".toList ++ t)
  | [] => if needsOne then .error "No current job".toList else .ok (m.withStatus 0)

/-- Writes the times that the shell and its commands have taken. -/
def times : Builtin := fun _ m =>
  .ok ((m.write 1 "0m0.000000s 0m0.000000s\n0m0.000000s 0m0.000000s\n".toList).withStatus 0)

/-- Writes that there is no limit. -/
def ulimit : Builtin := fun _ m =>
  .ok ((m.write 1 "unlimited\n".toList).withStatus 0)

end Builtin

/-- The command of the shell itself that has the given name. -/
def builtin? (name : Text) : Option Builtin :=
  match String.ofList name with
  | ":" | "true" => some Builtin.succeed
  | "jobs" => some (Builtin.jobs false)
  | "fg" | "bg" => some (Builtin.jobs true)
  | "times" => some Builtin.times
  | "false" => some Builtin.fail
  | "echo" => some Builtin.echo
  | "printf" => some Builtin.printf
  | "read" => some Builtin.read
  | "test" => some Builtin.test
  | "[" => some Builtin.bracket
  | "exit" => some Builtin.exit
  | "return" => some Builtin.returns
  | "break" => some (Builtin.leaveLoops false)
  | "continue" => some (Builtin.leaveLoops true)
  | "cd" | "chdir" => some Builtin.changeDirectory
  | "pwd" => some Builtin.workingDirectory
  | "export" => some Builtin.export
  | "readonly" => some Builtin.readOnly
  | "local" => some Builtin.local
  | "unset" => some Builtin.unset
  | "shift" => some Builtin.shift
  | "set" => some Builtin.set
  | "getopts" => some Builtin.nextOption
  | "trap" => some Builtin.trap
  | "kill" => some Builtin.kill
  | "umask" => some Builtin.umask
  | "ulimit" => some Builtin.ulimit
  | _ => none

/-- The commands of the shell that run others. -/
def runnerNames : List Text :=
  ["eval".toList, ".".toList, "exec".toList, "command".toList, "type".toList, "wait".toList,
    "hash".toList, "alias".toList, "unalias".toList]

end Postroom.Shell
