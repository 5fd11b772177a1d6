import Postroom.Shell.Expansion
import Postroom.Shell.Utility.Name

/-!
# Utilities

A utility is a program of the system: what it does with its arguments, its input and its
output.  Here is what they share: options, operands, and lines.

* `Options.read` — the options and the operands of arguments;
* `Utility.eachInput` — work on each of the files that operands name.
-/

namespace Postroom.Shell

/-- What a utility does with its arguments. -/
abbrev Utility := List Text → Action Unit

/-- The options that a utility takes: letters, each with a colon behind it if it takes an argument,
and long names with the letters that they stand for; and whether options may stand behind operands.
-/
structure OptionSpec where
  letters : Text
  names : List (String × Char)
  areFree : Bool

/-- Why arguments are no options. -/
inductive OptionError where
  | unknownLetter (c : Char)
  | unknownName (t : Text)
  | missingArgument (c : Char)
deriving DecidableEq, Repr

/-- The wording of the cause. -/
def OptionError.message : OptionError → Text
  | .unknownLetter c => "invalid option -- '".toList ++ [c, '\'']
  | .unknownName t => "unrecognized option '".toList ++ t ++ ['\'']
  | .missingArgument c => "option requires an argument -- '".toList ++ [c, '\'']

/-- Options with their arguments, in order, and operands. -/
structure Options.Given where
  options : List (Char × Text)
  operands : List Text

namespace Options.Given

/-- An option has been given. -/
def has (g : Given) (c : Char) : Bool :=
  g.options.any (·.1 = c)

/-- The argument of the last option of a letter. -/
def value? (g : Given) (c : Char) : Option Text :=
  (g.options.reverse.find? (·.1 = c)).map (·.2)

/-- The arguments of the options of a letter. -/
def values (g : Given) (c : Char) : List Text :=
  (g.options.filter (·.1 = c)).map (·.2)

/-- Adds an option in front. -/
def add (g : Given) (c : Char) (t : Text) : Given :=
  { g with options := (c, t) :: g.options }

end Options.Given

namespace Options

/-- Whether a letter is an option, and whether it takes an argument. -/
def letter? (letters : Text) (c : Char) : Option Bool :=
  match letters with
  | [] => none
  | d :: rest => if c = d ∧ c ≠ ':' then some (rest.head? = some ':') else letter? rest c

/-- Reads the letters of an argument. -/
def readLetters (spec : OptionSpec) : Text → List Text →
    Except OptionError (List (Char × Text) × List Text)
  | [], rest => .ok ([], rest)
  | c :: letters, rest =>
    match letter? spec.letters c with
    | none => .error (.unknownLetter c)
    | some false => do
      let (more, rest) ← readLetters spec letters rest
      return ((c, []) :: more, rest)
    | some true =>
      match letters, rest with
      | _ :: _, _ => .ok ([(c, letters)], rest)
      | [], t :: rest => .ok ([(c, t)], rest)
      | [], [] => .error (.missingArgument c)

/-- Reads arguments with the given fuel. -/
def readFrom (spec : OptionSpec) : Nat → List Text → Except OptionError Given
  | 0, ts => .ok ⟨[], ts⟩
  | _, [] => .ok ⟨[], []⟩
  | fuel + 1, t :: rest =>
    match t with
    | ['-', '-'] => .ok ⟨[], rest⟩
    | '-' :: '-' :: long =>
      let name := long.takeWhile (· ≠ '=')
      let found := spec.names.filter fun n => name.isPrefixOf n.1.toList
      let only := if found.length = 1 then found.head? else none
      match found.find? (fun n => n.1.toList = name) <|> only with
      | none => .error (.unknownName t)
      | some (_, c) =>
        if letter? spec.letters c = some true then
          if name.length < long.length then do
            return (← readFrom spec fuel rest).add c (long.drop (name.length + 1))
          else
            match rest with
            | v :: rest => do return (← readFrom spec fuel rest).add c v
            | [] => .error (.missingArgument c)
        else do return (← readFrom spec fuel rest).add c (long.drop (name.length + 1))
    | '-' :: c :: letters => do
      let (options, rest) ← readLetters spec (c :: letters) rest
      let g ← readFrom spec fuel rest
      return { g with options := options ++ g.options }
    | _ =>
      if spec.areFree then do
        let g ← readFrom spec fuel rest
        return { g with operands := t :: g.operands }
      else .ok ⟨[], t :: rest⟩

/-- The options and the operands of arguments. -/
def read (spec : OptionSpec) (arguments : List Text) : Except OptionError Given :=
  readFrom spec (arguments.length + 1) arguments

end Options

namespace Utility

/-- Writes to the output. -/
def write (t : Text) : Action Unit :=
  Action.change (·.write 1 t)

/-- Writes lines to the output. -/
def writeLines (lines : List Text) : Action Unit :=
  write (lines.flatMap (· ++ ['\n']))

/-- Ends with a status. -/
def leave (status : Nat) : Action Unit :=
  Action.change (·.withStatus status)

/-- Complains, and ends with a status unless something else goes on. -/
def complain (name : String) (status : Nat) (t : Text) : Action Unit :=
  Action.change fun m => (m.complain (name.toList ++ ": ".toList ++ t)).withStatus status

/-- Reads the options of a utility, and goes on with them. -/
def withSpec (name : String) (status : Nat) (spec : OptionSpec) (arguments : List Text)
    (work : Options.Given → Action Unit) : Action Unit :=
  match Options.read spec arguments with
  | .ok g => do
    leave 0
    work g
  | .error e => do
    complain name status e.message
    Action.change (·.complain ("Try '".toList ++ name.toList
      ++ " --help' for more information.".toList))

/-- Reads the options of a utility, which may stand behind operands, and goes on with them. -/
def withOptions (name : String) (status : Nat) (letters : String) (names : List (String × Char))
    (arguments : List Text) (work : Options.Given → Action Unit) : Action Unit :=
  withSpec name status ⟨letters.toList, names, true⟩ arguments work

/-- Reads the options of a utility, all of which stand in front of the operands, and goes on with
them. -/
def withLeadingOptions (name : String) (status : Nat) (letters : String)
    (names : List (String × Char)) (arguments : List Text) (work : Options.Given → Action Unit) :
    Action Unit :=
  withSpec name status ⟨letters.toList, names, false⟩ arguments work

/-- The rows of a text, which end with a character. -/
def rowsOf (lineEnd : Char) (t : Text) : List Text :=
  let ps := Text.pieces (· = lineEnd) t
  if ps.getLast? = some [] then ps.dropLast else ps

/-- The lines of a text, without their ends. -/
def linesOf (t : Text) : List Text :=
  rowsOf '\n' t

/-- The text ends within a line. -/
def isOpenEnded (t : Text) : Bool :=
  t.getLast?.any (· ≠ '\n')

/-- Why a file cannot be read. -/
inductive ReadError where
  | missing
  | directory
  | notDirectory
  | noDevice
deriving DecidableEq, Repr

/-- The wording of the cause. -/
def ReadError.message : ReadError → Text
  | .missing => "No such file or directory".toList
  | .directory => "Is a directory".toList
  | .notDirectory => "Not a directory".toList
  | .noDevice => "No such device or address".toList

/-- What an operand holds; `-` is the input. -/
def contentsOf (m : Machine) (path : Text) : Except ReadError (Text × Machine) :=
  if path = ['-'] ∨ path = "/dev/stdin".toList then .ok (m.readAll 0)
  else if path = [] then .error .missing
  else if let some t := Machine.device? (m.locate path) then .ok (t, m)
  else if Machine.isTerminal (m.locate path) then .error .noDevice
  else
    match m.file? path with
    | some f => .ok (m.contents f, m)
    | none =>
      if m.isDirectory path then .error .directory
      else if m.passesFile path then .error .notDirectory
      else .error .missing

/-- Reads an operand, or complains about it. -/
def input? (path : Text) (complaint : ReadError → Action Unit) : Action (Option Text) := do
  match contentsOf (← get) path with
  | .ok (t, m) =>
    set m
    return some t
  | .error e =>
    complaint e
    return none

/-- Works on each of the files that operands name, or on the input if there are none; what cannot be
read is complained about in words of its own, and sets the status. -/
def eachInputOr (name : String) (status : Nat) (operands : List Text)
    (wording : Text → ReadError → Text) (work : Text → Text → Action Unit) : Action Unit := do
  for path in (if operands.isEmpty then [['-']] else operands) do
    let t ← input? path fun e => complain name status (wording path e)
    match t with
    | some t => work path t
    | none => pure ()

/-- The usual wording of a complaint about a file. -/
def usualWording (path : Text) (e : ReadError) : Text :=
  Name.shown path ++ ": ".toList ++ e.message

/-- Works on each of the files that operands name, or on the input if there are none; what cannot be
read is complained about, and sets the status. -/
def eachInput (name : String) (status : Nat) (operands : List Text)
    (work : Text → Text → Action Unit) : Action Unit :=
  eachInputOr name status operands usualWording work

/-- All that the operands hold, one after the other. -/
def allInput (name : String) (status : Nat) (operands : List Text) : Action Text := do
  let mut all : List Text := []
  for path in (if operands.isEmpty then [['-']] else operands) do
    let t ← input? path fun e => complain name status (Name.shown path ++ ": ".toList ++ e.message)
    all := t.getD [] :: all
  return all.reverse.flatten

/-- Puts a file in place of what is at a path, or complains. -/
def output (name : String) (path contents : Text) : Action Bool := do
  let m ← get
  match m.openPath .write path with
  | .ok (c, m) =>
    set (m.writeTo (some c) contents)
    return true
  | .error _ =>
    let why := if m.isDirectory path then "Is a directory" else
      if m.passesFile path then "Not a directory" else "No such file or directory"
    complain name 1 (Name.shown path ++ ": ".toList ++ why.toList)
    return false

end Utility

end Postroom.Shell
