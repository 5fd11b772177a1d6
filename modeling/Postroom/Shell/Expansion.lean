import Postroom.Shell.Arithmetic
import Postroom.Shell.Fields

/-!
# Expansion

How parameters, command lines and arithmetic expressions within words are replaced.  What goes wrong
there leaves the shell.

* `Braced.ofText?` — what a parameter between braces asks for;
* `Action.expand` — the fields that words stand for;
* `Action.textOf` — the one text that a word stands for where it is not cut.
-/

namespace Postroom.Shell

/-- What is done with the value of a parameter between braces. -/
inductive BracedOp where
  | plain
  | length
  /-- Another text for a value that is missing, or for `alsoEmpty` is empty. -/
  | otherwise (alsoEmpty : Bool) (word : Text)
  | assign (alsoEmpty : Bool) (word : Text)
  | demand (alsoEmpty : Bool) (word : Text)
  /-- Another text for a value that is there. -/
  | instead (alsoEmpty : Bool) (word : Text)
  | dropFront (longest : Bool) (pattern : Text)
  | dropBack (longest : Bool) (pattern : Text)
deriving DecidableEq, Repr

/-- A parameter between braces. -/
structure Braced where
  name : Text
  op : BracedOp
deriving DecidableEq, Repr

namespace Braced

/-- Takes the name of a parameter off the front. -/
def name? (t : Text) : Option (Text × Text) :=
  match t with
  | [] => none
  | c :: rest =>
    let all (p : Char → Bool) : Text × Text := (t.takeWhile p, t.dropWhile p)
    if c.isDigit then some (all Char.isDigit)
    else if Lexing.isNameChar c then some (all Lexing.isNameChar)
    else if Lexing.isSpecial c then some ([c], rest)
    else none

/-- What is done with a value, by the text behind the name. -/
def opOf? (t : Text) : Option BracedOp :=
  let conditional (alsoEmpty : Bool) (t : Text) : Option BracedOp :=
    match t with
    | '-' :: word => some (.otherwise alsoEmpty word)
    | '=' :: word => some (.assign alsoEmpty word)
    | '?' :: word => some (.demand alsoEmpty word)
    | '+' :: word => some (.instead alsoEmpty word)
    | _ => none
  match t with
  | [] => some .plain
  | ':' :: rest => conditional true rest
  | '%' :: '%' :: pattern => some (.dropBack true pattern)
  | '%' :: pattern => some (.dropBack false pattern)
  | '#' :: '#' :: pattern => some (.dropFront true pattern)
  | '#' :: pattern => some (.dropFront false pattern)
  | _ => conditional false t

/-- What a parameter between braces asks for. -/
def ofText? (t : Text) : Option Braced :=
  let plain := (name? t).bind fun (name, rest) => (opOf? rest).map fun op => ⟨name, op⟩
  match t with
  | '#' :: c :: rest =>
    match name? (c :: rest) with
    | some (name, []) => some ⟨name, .length⟩
    | _ => plain
  | _ => plain

end Braced

namespace Machine

/-- The value of a parameter, if it is set; the list of all arguments is joined by a blank. -/
def parameter? (m : Machine) (name : Text) : Option Text :=
  match name with
  | ['#'] => some (Text.ofNat m.arguments.length)
  | ['?'] => some (Text.ofNat m.status)
  | ['$'] => some (Text.ofNat m.process)
  | ['-'] => some m.options
  | ['*'] | ['@'] => if m.arguments.isEmpty then none else some (Text.join [' '] m.arguments)
  | _ =>
    match Text.toNat? name with
    | some 0 => some m.name
    | some (n + 1) => m.arguments[n]?
    | none => m.value? name

/-- The characters at which fields are cut. -/
def separators (m : Machine) : Text :=
  (m.value? "IFS".toList).getD Marks.blanks

/-- All arguments where they are not fields each. -/
def joinedArguments (m : Machine) : Text :=
  Text.join (match m.value? "IFS".toList with
    | none => [' ']
    | some t => t.take 1) m.arguments

/-- What a parameter stands for; `isCut` tells that fields are asked for. -/
def marksOf (m : Machine) (isCut quoted : Bool) (name value : Text) : Marks :=
  let isAll := name = ['@'] ∨ name = ['*']
  if isAll ∧ isCut ∧ quoted ∧ name = ['@'] then
    if m.arguments.isEmpty then []
    else .region true :: (Text.join [Marks.separator] m.arguments).map (.value · true)
  else if isAll ∧ isCut ∧ !quoted then
    let joint := if (m.value? "IFS".toList).isSome then Marks.separator else ' '
    Marks.ofValue false (Text.join [joint] m.arguments)
  else if isAll then Marks.ofValue quoted m.joinedArguments
  else Marks.ofValue quoted value

/-- Sets a variable, unless it cannot be set. -/
def assign (m : Machine) (name value : Text) : Machine :=
  if !Lexing.isName name then m.abort (name ++ ": bad variable name".toList)
  else if (m.variableNamed? name).any (·.isReadOnly) then m.abort (name ++ ": is read only".toList)
  else m.setVariable name value

end Machine

/-- The directory that a tilde with a name behind it stands for. -/
def Machine.home? (m : Machine) (user : Text) : Option Text :=
  if user.isEmpty then m.value? "HOME".toList
  else if user = "root".toList then some homeDirectory
  else none

/-- Replaces a tilde at the front of a word. -/
def Machine.tilde (m : Machine) (inValue : Bool) (w : Word) : Word :=
  match w with
  | .char '~' false :: rest =>
    let isEnd (c : Char) : Bool := c == '/' || inValue && c == ':'
    let user := rest.takeWhile fun
      | .char c false => !isEnd c
      | _ => false
    let behind := rest.drop user.length
    let isName : Bool :=
      match behind with
      | [] | .char _ false :: _ => true
      | _ => false
    match if isName then (Word.bare? user).bind m.home? else none with
    | some home => .quotes :: Word.ofText home ++ .quotes :: behind
    | none => w
  | _ => w

/-- Replaces the tildes of a value: at its front and behind colons. -/
def Machine.tildes (m : Machine) (w : Word) : Word :=
  let rec behindColons : Word → Word
    | [] => []
    | .char ':' false :: rest => .char ':' false :: m.tilde true (behindColons rest)
    | p :: rest => p :: behindColons rest
  m.tilde true (behindColons w)

namespace Action

/-- Goes on as a function of the state says. -/
def change (f : Machine → Machine) : Action Unit :=
  modify f

/-- The shell goes on. -/
def isRunning : Action Bool := do
  return (← get).flow = .running

/-- Runs a command line within a word, and gives what it writes. -/
abbrev LineRunner := Text → Action Text

/-- What is asked of the words to expand: whether fields are to be cut, and whether the text of the
word itself may be cut as well. -/
structure Manner where
  isCut : Bool
  isInner : Bool

/-- The manner of a word that is not cut. -/
def whole : Manner :=
  ⟨false, false⟩

/-- Leaves the shell because a parameter is missing. -/
def demandParameter (name : Text) (alsoEmpty : Bool) (why : Text) : Action Unit :=
  let why :=
    if why.isEmpty then
      "parameter not set".toList ++ (if alsoEmpty then " or null".toList else [])
    else why
  change (·.abort (name ++ ": ".toList ++ why))

mutual

/-- What the pieces of a word stand for, with fuel for words within words.  `isBehind` tells that a
piece of the same kind is in front. -/
def resolve (run : LineRunner) : Nat → Manner → Bool → Word → Action Marks
  | 0, _, _, _ => return []
  | _, _, _, [] => return []
  | fuel + 1, manner, isBehind, p :: rest => do
    if !(← isRunning) then return []
    match p, rest with
    | .quotes, .param ['@'] true :: .quotes :: rest =>
      let m ← get
      let marks := m.marksOf manner.isCut true ['@'] []
      return marks ++ (← resolve run fuel manner false rest)
    | .char c false, _ =>
      let marks : Marks :=
        if !manner.isInner then [.char c false]
        else if isBehind then [.value c false]
        else [.region false, .value c false]
      return marks ++ (← resolve run fuel manner true rest)
    | p, _ =>
      let marks ← piece run fuel manner p
      return marks ++ (← resolve run fuel manner false rest)
termination_by structural fuel => fuel

/-- What a piece of a word stands for. -/
def piece (run : LineRunner) : Nat → Manner → Piece → Action Marks
  | 0, _, _ => return []
  | fuel + 1, manner, p =>
    match p with
    | .char c quoted => return [.char c quoted]
    | .quotes => return [.quotes]
    | .param name quoted => do
      let m ← get
      match m.parameter? name with
      | some value => return m.marksOf manner.isCut quoted name value
      | none =>
        if m.options.contains 'u' ∧ name ≠ ['@'] ∧ name ≠ ['*'] then
          demandParameter name false []
          return []
        else return m.marksOf manner.isCut quoted name []
    | .braced content quoted => do
      match Braced.ofText? content with
      | none =>
        change (·.abort "Bad substitution".toList)
        return []
      | some b => braced run fuel manner quoted b
    | .command line _ quoted => do
      let t ← run line
      return Marks.ofValue quoted t
    | .arithmetic expression quoted => do
      let ms ← resolve run fuel whole false (Word.inner .document expression)
      if !(← isRunning) then return []
      let t := ms.text
      match Sum.ofText t with
      | .error e =>
        change (·.abort (e.message t))
        return []
      | .ok e =>
        match e.eval (← get) with
        | .error e =>
          change (·.abort (e.message t))
          return []
        | .ok (n, m) =>
          set m
          return Marks.ofValue quoted (Text.ofInt n)
termination_by structural fuel => fuel

/-- What a parameter between braces stands for. -/
def braced (run : LineRunner) : Nat → Manner → Bool → Braced → Action Marks
  | 0, _, _, _ => return []
  | fuel + 1, manner, quoted, b => do
    let m ← get
    let value := m.parameter? b.name
    let isMissing (alsoEmpty : Bool) : Bool := value.isNone || alsoEmpty && value == some []
    let asIs : Marks := m.marksOf manner.isCut quoted b.name (value.getD [])
    let within (manner : Manner) (t : Text) : Action Marks := do
      let w := Word.inner (if quoted then .quotedWord else .word) t
      resolve run fuel manner false (m.tilde false w)
    let checked (f : Text → Marks) : Action Marks := do
      if value.isNone ∧ m.options.contains 'u' then
        demandParameter b.name false []
        return []
      else return f (value.getD [])
    match b.op with
    | .plain => checked fun _ => asIs
    | .length => checked fun t => Marks.ofValue quoted (Text.ofNat t.length)
    | .otherwise alsoEmpty word =>
      if isMissing alsoEmpty then within ⟨manner.isCut, true⟩ word else return asIs
    | .instead alsoEmpty word =>
      if isMissing alsoEmpty then return [] else within ⟨manner.isCut, true⟩ word
    | .assign alsoEmpty word =>
      if isMissing alsoEmpty then
        let ms ← within whole word
        if !(← isRunning) then return []
        change (·.assign b.name ms.text)
        return Marks.ofValue quoted ms.text
      else return asIs
    | .demand alsoEmpty word =>
      if isMissing alsoEmpty then
        let ms ← within whole word
        if !(← isRunning) then return []
        demandParameter b.name alsoEmpty ms.text
        return []
      else return asIs
    | .dropFront longest pattern => do
      let ms ← resolve run fuel whole false (m.tilde false (Word.inner .word pattern))
      checked fun t => Marks.ofValue quoted (ms.glob.dropFront longest t)
    | .dropBack longest pattern => do
      let ms ← resolve run fuel whole false (m.tilde false (Word.inner .word pattern))
      checked fun t => Marks.ofValue quoted (ms.glob.dropBack longest t)
termination_by structural fuel => fuel

end

/-- How many pieces of a word, and of words within it, are looked at. -/
def resolveFuel (w : Word) : Nat :=
  2 * w.length + 10 + total (w.map fun
    | .braced t _ | .arithmetic t _ => 4 * t.length
    | _ => 0)

/-- What a word stands for. -/
def marks (run : LineRunner) (manner : Manner) (w : Word) : Action Marks :=
  resolve run (resolveFuel w) manner false w

/-- The one text that a word stands for where it is not cut. -/
def textOf (run : LineRunner) (w : Word) : Action Text := do
  return (← marks run whole ((← get).tilde false w)).text

/-- The text that a word sets a variable to. -/
def valueOf (run : LineRunner) (w : Word) : Action Text := do
  return (← marks run whole ((← get).tildes w)).text

/-- The pattern that a word is. -/
def globOf (run : LineRunner) (w : Word) : Action Glob := do
  return (← marks run whole ((← get).tilde false w)).glob

/-- The fields that words stand for. -/
def expand (run : LineRunner) : List Word → Action (List Text)
  | [] => return []
  | w :: ws => do
    let ms ← marks run ⟨true, false⟩ ((← get).tilde false w)
    let m ← get
    let fields := (ms.fields m.separators).flatMap (Marks.paths m)
    return fields ++ (← expand run ws)

/-- The target of a redirection with the text that its word stands for. -/
def targetOf (run : LineRunner) : Target Word → Action (Target Text)
  | .file opening w => return .file opening (← textOf run w)
  | .duplicate w => return .duplicate (← textOf run w)
  | .document body true => return .document body true
  | .document body false => do
    return .document (← marks run whole (Word.inner .document body)).text true

/-- The redirections with the texts that their words stand for. -/
def targetsOf (run : LineRunner) : List (Redirect Word) → Action (List (Redirect Text))
  | [] => return []
  | r :: rs => do
    let target ← targetOf run r.target
    return ⟨r.descriptor, target⟩ :: (← targetsOf run rs)

end Action

end Postroom.Shell
