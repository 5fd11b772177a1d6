import Postroom.Shell.Alias
import Postroom.Shell.Awk.Run
import Postroom.Shell.Utility
import Postroom.Shell.Utility.Batch
import Postroom.Shell.Utility.Find

/-!
# Running a command line

`Shell.exec` runs a command by its structure.  Its fuel is spent once for each command within
another, and once for each call of a function.

* `Shell.runText` — runs the lines of a text in the shell at hand;
* `Shell.run` — runs a line on an input, with given directories and files.
-/

namespace Postroom.Shell

open Postroom.Shell.Action

/-- Runs a command; `isTested` tells that its failure is looked at, so that it never ends the shell.
-/
abbrev Executor := Bool → Command → Action Unit

/-! ## Lines -/

/-- Leaves the shell because the rest of its lines cannot be read. -/
def refuseLines (last : Nat) (r : Refusal) : Action Unit :=
  change fun m =>
    let line := (r.found.head?.map (·.line)).getD last
    { m with line }.abort r.message

/-- Runs the commands of tokens line by line, with the given fuel: what stands on a line that cannot
be read is complained about once the lines in front of it have run. -/
def runTokens (exec : Executor) (isTested : Bool) (last : Nat) : Nat → List Token → Action Unit
  | 0, _ | _, [] => return ()
  | fuel + 1, ts => do
    match Alias.nextLine (← get).aliases ts with
    | .error r => refuseLines last r
    | .ok (c, rest) =>
      if !(← get).options.contains 'n' then exec isTested c
      if ← isRunning then runTokens exec isTested last fuel rest

/-- Runs the lines of a text in the shell at hand. -/
def runText (exec : Executor) (isTested : Bool) (t : Text) : Action Unit := do
  let ts := Command.tokens t
  runTokens exec isTested (t.count '\n' + 1) (ts.length + 1) ts

/-- Does what is to be done at the end of a shell.  Its status stays as it is, unless it is left
with another. -/
def endShell (exec : Executor) : Action Unit := do
  let m ← get
  match m.traps.lookup "EXIT".toList with
  | some (c :: action) =>
    if m.flow ≠ .killed ∧ m.flow ≠ .stopped then
      set { m with traps := m.traps.filter (·.1 ≠ "EXIT".toList), flow := .running, caller := none }
      runText exec false (c :: action)
      change fun after => if after.flow = .exiting then after else after.withStatus m.status
  | _ => return ()

/-- Does what is to be done at the signals that have come. -/
def answerSignals (exec : Executor) : Action Unit := do
  let m ← get
  if m.flow = .running ∧ m.pending ≠ [] then
    set { m with pending := [] }
    m.pending.forM fun action => do
      if ← isRunning then runText exec false action
    change fun after => if after.flow = .running then after.withStatus m.status else after

/-! ## Parts that run apart -/

/-- Runs something apart from the shell at hand. -/
def apart (exec : Executor) (work : Action Unit) : Action Unit := do
  let m ← get
  set m.forked
  work
  endShell exec
  change m.afterApart

/-- Runs something apart with its output led to a new stream, and gives what it has written. -/
def capture (exec : Executor) (bound : Option Nat) (work : Action Unit) : Action Text := do
  let m ← get
  let (n, m) := m.addBody ⟨[], 0, bound⟩
  set m
  apart exec do
    change (·.setChannel 1 (some (.sink n)))
    work
  return ((← get).bodies[n]?.map Body.text).getD []

/-- A text without the line ends at its end. -/
def dropLineEnds (t : Text) : Text :=
  (t.reverse.dropWhile (· = '\n')).reverse

/-- Runs a command line within a word. -/
def substitute (exec : Executor) : LineRunner := fun line => do
  let before ← get
  let t ← capture exec none do
    match Command.ofText before.line line with
    | .error r => refuseLines before.line r
    | .ok c => exec false c
  change fun m => { m with status := before.status, substituted := m.status }
  return dropLineEnds (t.filter (· ≠ '\x00'))

/-! ## Redirections -/

/-- Why a descriptor cannot be led elsewhere: nothing can be opened, or what should be a number is
none, which ends the shell. -/
inductive RedirectError where
  | cannot (t : Text)
  | noNumber

/-- The wording of the cause. -/
def RedirectError.message : RedirectError → Text
  | .cannot t => t
  | .noNumber => "Syntax error: Bad fd number".toList

/-- Leads a descriptor elsewhere, unless there is something to complain about. -/
def Machine.redirect (m : Machine) (r : Redirect Text) : Except RedirectError Machine :=
  match r.target with
  | .file opening path =>
    match m.openPath opening path with
    | .ok (c, m) => .ok (m.setChannel r.descriptor (some c))
    | .error t => .error (.cannot t)
  | .document body _ =>
    let (c, m) := m.addText body
    .ok (m.setChannel r.descriptor (some c))
  | .duplicate t =>
    if t = ['-'] then .ok (m.setChannel r.descriptor none)
    else
      match Text.toNat? t, t.length with
      | some n, 1 =>
        match m.channel? n with
        | some c => .ok (m.setChannel r.descriptor (some c))
        | none => .error (.cannot (t ++ ": Bad file descriptor".toList))
      | _, _ => .error .noNumber

/-- Leads descriptors elsewhere in order; what has been done before something to complain about
stays. -/
def Machine.redirectAll (m : Machine) : List (Redirect Text) → Machine × Option RedirectError
  | [] => (m, none)
  | r :: rs =>
    match m.redirect r with
    | .ok m => m.redirectAll rs
    | .error e => (m, some e)

/-- Lets descriptors stand for what they stood for in another state. -/
def Machine.restoreChannels (m before : Machine) (rs : List (Redirect Text)) : Machine :=
  rs.foldl (fun m r => m.setChannel r.descriptor (before.channel? r.descriptor)) m

/-- Runs something with redirections, and gives whether they could be done. -/
def withRedirects (run : LineRunner) (rs : List (Redirect Word)) (work : Action Unit) :
    Action Bool := do
  let rs ← targetsOf run rs
  if !(← isRunning) then return false
  let before ← get
  let (m, complaint) := before.redirectAll rs
  match complaint with
  | some e =>
    let m := m.restoreChannels before rs
    set (match e with
      | .cannot t => (m.complainAsShell t).withStatus 2
      | .noNumber => m.abort e.message)
    return false
  | none =>
    set m
    work
    change (·.restoreChannels before rs)
    return true

/-! ## Variables for one command -/

/-- Sets a variable that other programs are given as well. -/
def give (name value : Text) : Action Unit :=
  change fun m =>
    let m := m.assign name value
    if m.flow = .running then m.putVariable ⟨name, some value, true, false⟩ else m

/-- Gives variables back what they have been before. -/
def Machine.restoreVariables (m before : Machine) (assigned : List (Text × Text)) : Machine :=
  assigned.foldl
    (fun m a =>
      match before.variableNamed? a.1 with
      | some v => m.putVariable v
      | none => { m with settings := m.settings.filter (·.name ≠ a.1) })
    m

/-- Runs something with variables set that other programs are given as well; behind it they are as
they were. -/
def withVariables (assigned : List (Text × Text)) (work : Action Unit) : Action Unit := do
  let before ← get
  assigned.forM fun (name, value) => give name value
  if ← isRunning then work
  change (·.restoreVariables before assigned)

/-- Sets variables that other programs are given as well, one after the other, so that each may
refer to those before it. -/
def giveAll (run : LineRunner) : List (Text × Word) → Action (List (Text × Text))
  | [] => return []
  | (name, w) :: rest => do
    let t ← valueOf run w
    if ← isRunning then give name t
    let others ← giveAll run rest
    return (name, t) :: others

/-- Runs something with variables set to what words stand for; behind it they are as they were. -/
def withAssignments (run : LineRunner) (assignments : List (Text × Word))
    (work : List (Text × Text) → Action Unit) : Action Unit := do
  let before ← get
  let assigned ← giveAll run assignments
  if ← isRunning then work assigned
  change (·.restoreVariables before assigned)

/-- Sets variables one after the other, so that each may refer to those before it. -/
def assignAll (run : LineRunner) : List (Text × Word) → Action (List (Text × Text))
  | [] => return []
  | (name, w) :: rest => do
    let t ← valueOf run w
    if ← isRunning then change (·.assign name t)
    if !(← isRunning) then return []
    let others ← assignAll run rest
    return (name, t) :: others

/-! ## Programs -/

/-- What the name of a program leads to. -/
inductive Program where
  | utility (work : Utility)
  | script (contents : Text)
  | missing
  | refused

/-- The program at a path. -/
def Machine.programAt (m : Machine) (path : Text) : Program :=
  match m.file? path with
  | some f => if f.isExecutable then .script (m.contents f) else .refused
  | none =>
    let p := m.locate path
    if m.isDirectory path then .refused
    else
      match if Machine.isAmongPrograms p then utility? (Machine.lastStep p)
        else none with
      | some work => .utility work
      | none => .missing

/-- The directories in which programs are looked for. -/
def Machine.searchPath (m : Machine) : List Text :=
  Text.pieces (· = ':') ((m.value? "PATH".toList).getD [])

/-- The path of the program of a name, where it is looked for. -/
def Machine.pathOf? (m : Machine) (name : Text) : Option Text :=
  if name.contains '/' then some name
  else
    (m.searchPath.map fun d => d ++ '/' :: name).find? fun path =>
      match m.programAt path with
      | .utility _ | .script _ => true
      | _ => false

/-- The program of a name. -/
def Machine.program (m : Machine) (name : Text) : Program :=
  if name.isEmpty then .missing
  else
    match m.pathOf? name with
    | some path => m.programAt path
    | none => .missing

/-- The name of a shell as a program. -/
def isShellName (name : Text) : Bool :=
  ["sh".toList, "dash".toList, "bash".toList].contains (Machine.lastStep name)
    && (!name.contains '/' || Machine.isAmongPrograms name)

/-- Where a name leads, if it is that of a program. -/
def Machine.placeOf? (m : Machine) (name : Text) : Option Text :=
  if isShellName name then
    if name.contains '/' then some name
    else (m.searchPath.map fun d => d ++ '/' :: name).find? Machine.isAmongPrograms
  else
    (m.pathOf? name).filter fun path =>
      match m.programAt path with
      | .missing => false
      | _ => true

/-- Remembers that a program has been looked for, if it has been found. -/
def Machine.track (m : Machine) (name : Text) : Machine :=
  if name.contains '/' ∨ m.tracked.contains name ∨ (m.placeOf? name).isNone then m
  else { m with tracked := m.tracked ++ [name] }

/-- The variables that a new shell sets by itself, where it is not given them. -/
def newVariables (m : Machine) : List Variable :=
  (ownVariables m.directory).filter fun v => !m.exported.any fun w => w.name = v.name

/-- Runs a text in a shell of its own, which knows nothing of the one at hand but what programs are
given. -/
def inShell (exec : Executor) (options : Options) (name : Text) (arguments : List Text) (t : Text) :
    Action Unit := do
  let m ← get
  set { m with
    name, arguments, options, process := m.process + 1, line := 1, caller := none, functions := []
    aliases := [], tracked := []
    settings := m.exported ++ newVariables m
    locals := [], status := 0, traps := m.traps.filter (·.2 = []), pending := [], outerTraps := none
    optionPlace := none, asides := [], loops := 0, calls := 0 }
  runText exec false t
  endShell exec
  change fun inner =>
    let after := m.afterApart inner
    if inner.flow = .killed then
      let words := Builtin.endOf inner.status
      { (if words.isEmpty then after else after.complain words) with
        status := inner.status, flow := m.flow }
    else after.withStatus (inner.status % 256)

/-- How a shell is begun as a program: whether the text is among its arguments, the state with the
options, and the arguments that are left. -/
structure Invocation where
  isLine : Bool
  state : Machine
  rest : List Text

/-- Reads the options of a shell that is begun as a program, with the given fuel. -/
def invocationOf : Nat → Bool → Machine → List Text → Except Text Invocation
  | 0, isLine, m, ts => .ok ⟨isLine, m, ts⟩
  | _, isLine, m, [] => .ok ⟨isLine, m, []⟩
  | fuel + 1, isLine, m, t :: rest =>
    match t with
    | ['-', '-'] | ['-'] => .ok ⟨isLine, m, rest⟩
    | '-' :: letters => do
      let (m, rest) ← Builtin.setLetters true (letters.filter fun c => c ≠ 'c' ∧ c ≠ 'l') rest m
      invocationOf fuel (isLine || letters.contains 'c') m rest
    | '+' :: letters => do
      let (m, rest) ← Builtin.setLetters false letters rest m
      invocationOf fuel isLine m rest
    | _ => .ok ⟨isLine, m, t :: rest⟩

/-- Runs a shell as a program. -/
def runShell (exec : Executor) (name : Text) (arguments : List Text) : Action Unit := do
  let m ← get
  let refuse (t : Text) : Action Unit :=
    change fun m => (m.complain (name ++ ": 0: ".toList ++ t)).withStatus 2
  match invocationOf (arguments.length + 1) false { m with options := [] } arguments with
  | .error t => refuse t
  | .ok ⟨isLine, state, rest⟩ =>
    match rest with
    | line :: rest =>
      if isLine then inShell exec state.options (rest.headD name) (rest.drop 1) line
      else if state.options.contains 's' then
        let (t, m) := m.readAll 0
        set m
        inShell exec state.options name (line :: rest) t
      else
        match m.file? line with
        | some f => inShell exec state.options line rest (m.contents f)
        | none => refuse ("cannot open ".toList ++ line ++ ": No such file".toList)
    | [] =>
      if isLine then refuse "-c requires an argument".toList
      else
        let (t, m) := m.readAll 0
        set m
        inShell exec state.options name [] t

/-! ### Programs that run other programs -/

/-- Takes the assignments at the front of arguments. -/
def argumentAssignments (arguments : List Text) : List (Text × Text) × List Text :=
  let isAssignment (t : Text) : Bool := t.contains '='
  ((arguments.takeWhile isAssignment).map fun t =>
    (t.takeWhile (· ≠ '='), (t.dropWhile (· ≠ '=')).drop 1), arguments.dropWhile isAssignment)

/-- The lines that give the variables of other programs. -/
def environmentLines (m : Machine) : Text :=
  m.exported.reverse.flatMap fun v => v.name ++ '=' :: v.value.getD [] ++ ['\n']

/-- Changes the variables of other programs as the options of `env` ask for, and gives the arguments
behind them. -/
def environmentOptions (m : Machine) : List Text → Machine × List Text
  | ['-', 'i'] :: rest | ['-'] :: rest =>
    environmentOptions { m with settings := m.settings.map ({ · with isExported := false }) } rest
  | ['-', 'u'] :: name :: rest =>
    environmentOptions { m with settings := m.settings.filter (·.name ≠ name) } rest
  | ['-', '-'] :: rest => (m, rest)
  | rest => (m, rest)

/-- How a record program has command lines run. -/
def commands (exec : Executor) : Awk.Commands :=
  let line (t : Text) : Action Unit := inShell exec [] "sh".toList [] t
  { run := fun t => apart exec (line t)
    feed := fun t input => apart exec do
      let (c, m) := (← get).addText input
      set (m.setChannel 0 (some c))
      line t
    capture := fun t => capture exec none (line t) }

/-- Runs a program apart from the shell.  The complaint about a missing one is that of the shell, or
of the program that asks for it. -/
def launch (exec : Executor) (asker : Option Text) : Nat → List Text → Action Unit
  | 0, _ | _, [] => return ()
  | fuel + 1, name :: arguments => do
    let m ← get
    let missing (status : Nat) (why whyAsker : String) : Action Unit :=
      change fun m =>
        (match asker with
        | some who =>
          let quotes := ["env".toList, "find".toList].contains who
          m.complain (who ++ ": ".toList ++ (if quotes then quote name else name) ++ ": ".toList
            ++ whyAsker.toList)
        | none => m.complainAsShell (name ++ ": ".toList ++ why.toList)).withStatus status
    -- A program that asks for another one looks in two places if it knows of none.
    let seeker := if asker.isSome ∧ (m.value? "PATH".toList).isNone then
        m.setVariable "PATH".toList "/bin:/usr/bin".toList
      else m
    if isShellName name ∧ (m.file? name).isNone then
      apart exec (runShell exec name arguments)
    else
      match seeker.program name, String.ofList name with
      | _, "" => missing 127 "Permission denied" "No such file or directory"
      | .missing, _ => missing 127 "not found" "No such file or directory"
      | .refused, _ => missing 126 "Permission denied" "Permission denied"
      | .script t, _ =>
        apart exec (inShell exec [] ((seeker.pathOf? name).getD name) arguments t)
      | .utility _, "env" =>
        apart exec do
          let (m, rest) := environmentOptions (← get) arguments
          set m
          let (assigned, rest) := argumentAssignments rest
          withVariables assigned do
            if rest.isEmpty then change fun m => (m.write 1 (environmentLines m)).withStatus 0
            else launch exec (some "env".toList) fuel rest
      | .utility _, "xargs" =>
        Utility.xargs (launch exec (some "xargs".toList) fuel) arguments
      | .utility _, "awk" | .utility _, "mawk" => apart exec (Utility.awk (commands exec) arguments)
      | .utility _, "find" =>
        apart exec (Utility.find (launch exec (some "find".toList) fuel) arguments)
      | .utility _, "which" =>
        let found := arguments.map m.pathOf?
        change fun m => (m.write 1 ((found.filterMap id).flatMap (· ++ ['\n']))).withStatus
          (if found.all Option.isSome then 0 else 1)
      | .utility work, _ =>
        if ["nohup".toList, "nice".toList, "setsid".toList, "stdbuf".toList].contains name then
          launch exec (some name) fuel (arguments.dropWhile fun t => t.head? = some '-')
        else if name = "timeout".toList then
          launch exec (some name) fuel ((arguments.dropWhile fun t => t.head? = some '-').drop 1)
        else
          apart exec do
            change ({ · with hasLost := false })
            work arguments
            change fun m =>
              if m.hasLost then
                let place := if name = "cat".toList then ": standard output" else ": write error"
                (m.complain (name ++ place.toList ++ ": Bad file descriptor".toList)).withStatus 1
              else m

/-- How many programs may begin one another. -/
def launchDepth : Nat := 64

/-! ## Commands of the shell that run others -/

/-- The keywords and commands as `type` and `command -v` name them. -/
def describe (m : Machine) (isBrief : Bool) (name : Text) : Text × Bool :=
  let say (brief long : Text) : Text × Bool :=
    ((if isBrief then brief else name ++ " is ".toList ++ long) ++ ['\n'], true)
  if Command.keywords.contains name then say name "a shell keyword".toList
  else if let some (_, value) := m.aliases.find? (·.1 = name) then
    say ("alias ".toList ++ name ++ '=' :: Builtin.quoted value) ("an alias for ".toList ++ value)
  else if Command.specialNames.contains name then say name "a special shell builtin".toList
  else if (m.functions.lookup name).isSome then say name "a shell function".toList
  else if (builtin? name).isSome ∨ runnerNames.contains name then say name "a shell builtin".toList
  else
    match m.placeOf? name with
    | some path =>
      say path ((if m.tracked.contains name then "a tracked alias for ".toList else []) ++ path)
    | none => (if isBrief then [] else name ++ ": not found\n".toList, false)

/-- The name is one that leads to a program, not to the shell itself. -/
def isForeign (m : Machine) (name : Text) : Bool :=
  (m.functions.lookup name).isNone && (builtin? name).isNone
    && !(runnerNames ++ Command.specialNames).contains name

/-- Tells what names lead to. -/
def describeAll (isBrief : Bool) (names : List Text) : Action Unit :=
  change fun m =>
    names.foldl (fun m name =>
      let (t, isThere) := describe m isBrief name
      let m := if isForeign m name then m.track name else m
      (m.write 1 t).withStatus (if isThere then m.status else 127)) (m.withStatus 0)

/-- Runs a file in the shell at hand. -/
def runFile (exec : Executor) (isTested : Bool) (name : Text) : Action Unit := do
  let m ← get
  let path? : Option Text :=
    if name.contains '/' then some name
    else (m.searchPath.map fun d => d ++ '/' :: name).find? fun p => (m.file? p).isSome
  match path? with
  | none => change (·.abort (name ++ ": not found".toList))
  | some path =>
    match ((m.file? path).map m.contents).or (Machine.device? (m.locate path)) with
    | none => change (·.abort ("cannot open ".toList ++ path ++ ": No such file".toList))
    | some t =>
      set { m with caller := some path, status := 0 }
      runText exec isTested t
      change fun after => if after.flow = .returning then { after with flow := .running } else after

/-- How deep calls of functions may be. -/
def callLimit : Nat := 1000

/-- Runs the body of a function on arguments. -/
def inFunction (arguments : List Text) (work : Action Unit) : Action Unit := do
  let m ← get
  if callLimit ≤ m.calls then
    change (·.abort ("Maximum function recursion depth (".toList ++ Text.ofNat callLimit
      ++ ") reached".toList))
  else
    set { m with arguments, locals := [], loops := 0, calls := m.calls + 1, optionPlace := none }
    work
    change fun after =>
      let after := after.locals.foldl
        (fun after v =>
          if v.value.isNone ∧ !v.isExported then
            { after with settings := after.settings.filter (·.name ≠ v.name) }
          else after.putVariable v)
        after
      { after with
        arguments := m.arguments, locals := m.locals, loops := m.loops, calls := m.calls
        optionPlace := m.optionPlace
        flow := if after.flow = .returning then .running else after.flow }

/-- Runs a command of the shell itself; a complaint about a special one ends the shell. -/
def runBuiltin (work : Builtin) (isSpecial : Bool) (arguments : List Text) : Action Unit :=
  change fun m =>
    match work arguments { m with hasLost := false } with
    | .ok m =>
      if m.hasLost then
        (m.complainAsShell (m.caller.getD [] ++ ": I/O error".toList)).withStatus 1
      else m
    | .error t => if isSpecial then m.abort t else (m.complainAsShell t).withStatus 2

/-- Waits for a command that has not been waited for; it has ended. -/
def waitFor : Builtin := fun arguments m =>
  match arguments with
  | [] => .ok (m.withStatus 0)
  | ('%' :: t) :: _ => .error ("No such job: %".toList ++ t)
  | t :: _ => do
    let place := (← Builtin.number t) - m.process
    return m.withStatus (if 0 < place then ((m.asides.reverse[place - 1]?).getD 127) else 127)

/-- Looks for programs, or lists those that have been found. -/
def remember : Builtin := fun arguments m =>
  match arguments with
  | ['-', 'r'] :: _ => .ok { m with tracked := [], status := 0 }
  | ('-' :: c :: _) :: _ => .error ("Illegal option -".toList ++ [c])
  | [] =>
    let sorted := m.tracked.mergeSort fun a b =>
      Alias.compartment 31 a ≤ Alias.compartment 31 b
    .ok ((m.write 1 ((sorted.filterMap m.placeOf?).flatMap (· ++ ['\n']))).withStatus 0)
  | names =>
    .ok (names.foldl (fun m name =>
      if !(describe m true name).2 then
        (m.complainAsShell (name ++ ": not found".toList)).withStatus 1
      else if isForeign m name then { m with tracked := m.tracked.erase name }.track name
      else m) (m.withStatus 0))

/-- Runs a named command on arguments. -/
def dispatch (exec : Executor) (isTested : Bool) : Nat → Bool → Text → List Text → Action Unit
  | 0, _, _, _ => return ()
  | fuel + 1, isPlain, name, arguments => do
    let m ← get
    let isSpecial := !isPlain && Command.specialNames.contains name
    let asCaller (work : Action Unit) : Action Unit := do
      change ({ · with caller := some name })
      work
      change ({ · with caller := m.caller })
    match if isPlain ∨ isSpecial then none else m.functions.lookup name with
    | some body => inFunction arguments (exec isTested body)
    | none =>
      match String.ofList name with
      | "eval" => asCaller do
        change (·.withStatus 0)
        runText exec isTested (Text.join [' '] arguments)
      | "." => asCaller do
        match arguments with
        | [] => return ()
        | path :: _ => runFile exec false path
      | "exec" =>
        match arguments with
        | [] => change (·.withStatus 0)
        | _ => asCaller do
          let traps := (← get).traps
          change ({ · with traps := [] })
          launch exec none launchDepth arguments
          change fun m =>
            { m with
              traps := if m.status = 126 ∨ m.status = 127 then traps else []
              flow := if m.flow = .running then .exiting else m.flow }
      | "command" =>
        match arguments with
        | ['-', 'v'] :: names => describeAll true (names.take 1)
        | ['-', 'V'] :: names => describeAll false (names.take 1)
        | ['-', 'p'] :: other :: rest | ['-', '-'] :: other :: rest | other :: rest =>
          dispatch exec isTested fuel true other rest
        | [] => change (·.withStatus 0)
      | "type" => describeAll false arguments
      | "wait" => asCaller (runBuiltin waitFor false arguments)
      | "hash" => asCaller (runBuiltin remember false arguments)
      | "alias" => asCaller (runBuiltin Alias.define false arguments)
      | "unalias" => asCaller (runBuiltin Alias.forget false arguments)
      | _ =>
        match builtin? name with
        | some work => asCaller (runBuiltin work isSpecial arguments)
        | none => do
          change (·.track name)
          launch exec none launchDepth (name :: arguments)

/-! ## Commands -/

/-- How often the body of a loop may be run. -/
def loopLimit : Nat := 10000000

/-- Does something again and again as long as it asks for that; it is given a status and gives the
one that the loop has by then. -/
def again (work : Nat → Action (Bool × Nat)) : Nat → Nat → Action Nat
  | 0, status => do
    change ({ · with flow := .killed, status := 137 })
    return status
  | n + 1, status => do
    let (goesOn, status) ← work status
    if goesOn then again work n status else return status

/-- Goes on behind the body of a loop, and tells whether the loop goes on. -/
def afterBody : Action Bool := do
  let m ← get
  match m.flow with
  | .running => return true
  | .leaving 1 goesOn =>
    set { m with flow := .running }
    return goesOn
  | .leaving (n + 2) goesOn =>
    set { m with flow := .leaving (n + 1) goesOn }
    return false
  | _ => return false

/-- Runs something as a loop, which gives the status. -/
def inLoop (work : Action Nat) : Action Unit := do
  change fun m => { m with loops := m.loops + 1 }
  let status ← work
  change fun m =>
    let m := { m with loops := m.loops - 1 }
    if m.flow = .running then m.withStatus status else m

/-- Runs something once for each field. -/
def overFields (name : Text) (work : Action Unit) : Nat → List Text → Action Nat
  | status, [] => return status
  | _, field :: fields => do
    change (·.assign name field)
    if !(← isRunning) then return 2
    work
    let status := (← get).status
    if ← afterBody then overFields name work status fields else return status

/-- Leaves the shell after a failure nobody has looked at, if it is to be left then. -/
def leaveAfterFailure (isTested : Bool) : Action Unit :=
  change fun m =>
    if !isTested ∧ m.status ≠ 0 ∧ m.flow = .running ∧ m.options.contains 'e' then
      { m with flow := .exiting }
    else m

/-- Writes what is about to be run, where the given state leads complaints to. -/
def trace (before : Machine) (assigned : List (Text × Text)) (fields : List Text) : Action Unit :=
  change fun m =>
    if m.options.contains 'x' then
      let words := assigned.map (fun a => a.1 ++ '=' :: a.2) ++ fields
      let line := (m.value? "PS4".toList).getD [] ++ Text.join [' '] words
      ((m.setChannel 2 (before.channel? 2)).complain line).setChannel 2 (m.channel? 2)
    else m

/-- Runs a simple command. -/
def runSimple (exec : Executor) (isTested : Bool) (assignments : List (Text × Word))
    (words : List Word) (rs : List (Redirect Word)) : Action Unit := do
  let run := substitute exec
  change ({ · with substituted := 0 })
  let fields ← expand run words
  if !(← isRunning) then return ()
  let before ← get
  match fields with
  | [] =>
    let isDone ← withRedirects run rs do
      let assigned ← assignAll run assignments
      if (← isRunning) ∧ !assigned.isEmpty then trace before assigned []
    if isDone ∧ (← isRunning) then change fun m => m.withStatus m.substituted
  | name :: arguments =>
    let isSpecial := Command.specialNames.contains name
    let work : Action Unit := do
      if isSpecial then
        let assigned ← assignAll run assignments
        trace before assigned fields
        if ← isRunning then dispatch exec isTested launchDepth false name arguments
      else
        withAssignments run assignments fun assigned => do
          trace before assigned fields
          dispatch exec isTested launchDepth false name arguments
    if name = "exec".toList then
      -- Redirections of the shell itself stay.
      let rs ← targetsOf run rs
      if ← isRunning then
        let (m, complaint) := (← get).redirectAll rs
        match complaint with
        | some e => set (m.abort e.message)
        | none =>
          set m
          work
    else
      let isDone ← withRedirects run rs work
      if !isDone ∧ isSpecial ∧ (← isRunning) then change ({ · with flow := .exiting })

/-- The first of the bodies one of whose patterns matches. -/
def clauseFor (run : LineRunner) (subject : Text) :
    List (List Word × Command) → Action (Option Command)
  | [] => return none
  | (patterns, body) :: rest => do
    for p in patterns do
      let g ← globOf run p
      if g.covers subject then return some body
    clauseFor run subject rest

/-- Runs a command. -/
def exec : Nat → Executor
  | 0, _, _ => change ({ · with flow := .killed, status := 139 })
  | fuel + 1, isTested, c => do
    let go := exec fuel
    let run := substitute go
    if !(← isRunning) ∨ (← get).options.contains 'n' then return ()
    match c with
    | .skip => return ()
    | .seq a b =>
      go isTested a
      go isTested b
    | .cond onFailure a b =>
      go true a
      let m ← get
      if m.flow = .running ∧ (m.status = 0) ≠ onFailure then go isTested b
    | .negate a =>
      go true a
      if ← isRunning then change fun m => m.withStatus (if m.status = 0 then 1 else 0)
    | .pipe a b =>
      change fun m => ((Command.pipe a b).heads.filter (isForeign m)).foldl Machine.track m
      let m ← get
      let t ← capture go (some pipeBound) (go isTested a)
      if (← get).flow = .running then
        let (source, after) := (← get).addText t
        set after
        apart go do
          change (·.setChannel 0 (some source))
          change fun m =>
            match m.source? 0 with
            | some (n, s) =>
              { m with sources := m.sources.setIfInBounds n { s with isSeekable := false } }
            | none => m
          go isTested b
        change fun after => { after with line := m.line }
        leaveAfterFailure isTested
    | .aside a =>
      apart go do
        change (·.setChannel 0 (some .null))
        go isTested a
      change fun m =>
        { m with asides := m.status :: m.asides }
          |>.setVariable ['!'] (Text.ofNat (m.process + m.asides.length + 1))
          |>.withStatus 0
    | .branch test yes no =>
      go true test
      let m ← get
      if m.flow = .running then go isTested (if m.status = 0 then yes else no)
    | .choose line subject clauses =>
      change ({ · with line })
      let t ← textOf run subject
      if ← isRunning then
        change (·.withStatus 0)
        match ← clauseFor run t clauses with
        | some body => go isTested body
        | none => return ()
    | .loop onFailure test body =>
      let round (status : Nat) : Action (Bool × Nat) := do
        go true test
        let m ← get
        if m.flow ≠ .running then return (← afterBody, status)
        else if (m.status = 0) = onFailure then return (false, status)
        else
          go isTested body
          let status := (← get).status
          return (← afterBody, status)
      inLoop (again round loopLimit 0)
    | .each line name words body =>
      change ({ · with line })
      let fields ← match words with
        | some words => expand run words
        | none => pure (← get).arguments
      if ← isRunning then inLoop (overFields name (go isTested body) 0 fields)
    | .group line isApart body rs =>
      change ({ · with line })
      let _ ← withRedirects run rs
        (if isApart then apart go (go isTested body) else go isTested body)
      if isApart then
        answerSignals go
        leaveAfterFailure isTested
    | .define name body =>
      change fun m =>
        { m with functions := (name, body) :: m.functions.filter (·.1 ≠ name), status := 0 }
    | .simple line assignments words rs =>
      change ({ · with line })
      runSimple go isTested assignments words rs
      answerSignals go
      leaveAfterFailure isTested

/-! ## Shells -/

/-- What is left of the run of a line: the status, unless the shell was killed, what it wrote, how
much of its input it did not read, and the files. -/
structure Outcome where
  status : Option Nat
  output : Text
  errors : Text
  unread : Nat
  files : List (Text × Text)

/-- How many commands may be within one another while a line runs. -/
def depth : Nat := 20000

/-- Runs a line on an input.  A line with a NUL cannot be handed to a shell. -/
def run (directories : List Text) (files : List (Text × Text)) (line input : Text) :
    Option Outcome :=
  if line.contains '\x00' then none
  else
    let exec := exec depth
    let programs := utilities.map fun u => u.1.toList
    let ((), m) := (do runText exec false line; endShell exec : Action Unit).run
      (Machine.initial programs directories files input)
    let textOf (n : Nat) : Text := (m.bodies[n]?.map Body.text).getD []
    some
      { status := if m.flow = .killed then none else some (m.status % 256)
        output := textOf 1
        errors := textOf 2
        unread := ((m.sources[0]?.map m.restOf).getD []).length
        files := m.files.map (fun f => (f.path, m.contents f)) ++
          m.links.filterMap fun l => (m.file? l.path).map fun f => (l.path, m.contents f) }

end Postroom.Shell
