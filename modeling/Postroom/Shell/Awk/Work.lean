import Postroom.Shell.Awk.Program
import Postroom.Shell.Awk.Value
import Postroom.Shell.Utility.Basic

/-!
# The state of a record program

What a record program reads and changes while it runs: names, the record and its fields, the files
and commands that it reads and writes.

* `Awk.Run` — what reads and changes the state;
* `Awk.nextRecord` — takes the next record of the input;
* `Awk.emit`, `Awk.emitTo` — output, by blocks.
-/

namespace Postroom.Shell.Awk

/-- What a name stands for.  A parameter that has not been used yet may become a table or a scalar.
-/
inductive Slot where
  | scalar (v : Value)
  | table (n : Nat)
  | either (n : Nat)
deriving Inhabited

/-- What output of a program goes to, by the text that names it: a channel, or a command line, which
is run once all of its input is there. -/
inductive Writer where
  | channel (c : Channel)
  | command (pieces : List Text)

/-- The state of a program that runs. -/
structure Work where
  globals : List (Text × Slot)
  locals : List (Text × Slot)
  tables : Array Table
  record : Value
  fields : Array Value
  /-- The record has to be made of the fields again. -/
  isStale : Bool
  /-- The number of the operand that is read next. -/
  operand : Nat
  /-- What is left of the file at hand. -/
  source : Option Text
  /-- Some operand was a file. -/
  hasFile : Bool
  /-- The source is the input of the program. -/
  readsInput : Bool
  readers : List (Text × Text)
  writers : List (Text × Writer)
  /-- Output that has not been written yet, last piece first, and its size. -/
  pending : List Text
  pendingSize : Nat
  /-- The rules whose ranges are open. -/
  ranges : List Nat
  seed : Nat
  status : Nat

/-- How a statement is left. -/
inductive Leave where
  | loop
  | round
  | next
  | nextFile
  | exit
  | function (v : Value)
  | failed (t : Text)

/-- What a program does. -/
abbrev Run := ExceptT Leave (StateT Work Action)

/-- How a program has command lines run: with its input and output, with a text as the input, or
with the output as a text. -/
structure Commands where
  run : Text → Action Unit
  feed : Text → Text → Action Unit
  capture : Text → Action Text

/-- How many rounds a loop may take. -/
def roundLimit : Nat := 10000000

/-- How many octets are read, and written, at once. -/
def blockSize : Nat := 4096

namespace Run

/-- Does something with the state of the shell. -/
def act {α : Type} (a : Action α) : Run α :=
  liftM (n := Run) (liftM (n := StateT Work Action) a)

/-- Changes the state of the program. -/
def update (f : Work → Work) : Run Unit :=
  modify f

/-- Fails. -/
def fail {α : Type} (t : Text) : Run α :=
  throw (.failed t)

end Run

open Run

/-! ## Names -/

/-- Binds a name in a list. -/
def bind (name : Text) (s : Slot) : List (Text × Slot) → List (Text × Slot)
  | [] => [(name, s)]
  | (n, t) :: rest => if n = name then (n, s) :: rest else (n, t) :: bind name s rest

namespace Work

/-- What a name stands for. -/
def slot? (w : Work) (name : Text) : Option Slot :=
  w.locals.lookup name <|> w.globals.lookup name

/-- Lets a name stand for something. -/
def setSlot (w : Work) (name : Text) (s : Slot) : Work :=
  if (w.locals.lookup name).isSome then { w with locals := bind name s w.locals }
  else { w with globals := bind name s w.globals }

/-- The value of a name that belongs to the language. -/
def global (w : Work) (name : String) : Value :=
  match w.globals.lookup name.toList with
  | some (.scalar v) => v
  | _ => .none

/-- The text of a name that belongs to the language. -/
def globalText (w : Work) (name : String) : Text :=
  Format.text "%.6g".toList (w.global name)

/-- Sets a name that belongs to the language. -/
def setGlobal (w : Work) (name : String) (v : Value) : Work :=
  { w with globals := bind name.toList (.scalar v) w.globals }

/-- A value as text. -/
def text (w : Work) (v : Value) : Text :=
  match v with
  | .none => []
  | .text t | .given t => t
  | .number x => Format.number (w.globalText "CONVFMT") x

/-- A value as text that is written. -/
def outputText (w : Work) (v : Value) : Text :=
  match v with
  | .number x => Format.number (w.globalText "OFMT") x
  | v => w.text v

end Work

/-- The number of the table that a name stands for. -/
def tableOf (name : Text) : Run Nat := do
  let w ← get
  match w.slot? name with
  | some (.table n) => return n
  | some (.either n) =>
    set (w.setSlot name (.table n))
    return n
  | none | some (.scalar .none) =>
    let n := w.tables.size
    set ({ w with tables := w.tables.push .empty }.setSlot name (.table n))
    return n
  | some (.scalar _) => fail ("illegal reference to variable ".toList ++ name)

/-- The table of a number. -/
def tableAt (n : Nat) : Run Table :=
  return ((← get).tables[n]?).getD .empty

/-- Puts a table in place of the one of a number. -/
def setTable (n : Nat) (t : Table) : Run Unit :=
  update fun w => { w with tables := w.tables.setIfInBounds n t }

/-! ## Records and fields -/

/-- The pieces of a text by a text that divides it: blanks, a character, or an expression. -/
def pieces (separator : Text) (t : Text) : Except RegexError (List Text) :=
  match separator with
  | [' '] => .ok ((Text.pieces (fun c => c = ' ' ∨ c = '\t' ∨ c = '\n') t).filter (· ≠ []))
  | [] => .ok (t.map fun c => [c])
  | [c] => .ok (if t.isEmpty then [] else Text.pieces (· = c) t)
  | _ => do
    let r ← Regex.parse .records separator
    return if t.isEmpty then [] else cut r t
where
  /-- The pieces between matches that are not empty. -/
  cut (r : Regex) (t : Text) : List Text :=
    let s : Regex.Subject := ⟨t.toArray, false⟩
    let found := (Regex.all s r).filter fun m => m.start < m.finish
    let (done, place) := found.foldl
      (fun (done : List Text × Nat) m => (s.slice done.2 m.start :: done.1, m.finish)) ([], 0)
    (s.slice place t.length :: done).reverse

/-- The fields of a record. -/
def fieldsOf (t : Text) : Run (Array Value) := do
  let w ← get
  let separator := w.globalText "FS"
  let byLine := w.globalText "RS" = []
  match pieces separator t with
  | .ok ps =>
    let ps := if byLine ∧ separator ≠ [' '] then ps.flatMap (Text.pieces (· = '\n')) else ps
    return (ps.map Value.given).toArray
  | .error e => fail ((Flaw.badRegex e separator).message 1)

/-- Takes a text as the record. -/
def setRecord (v : Value) : Run Unit := do
  let w ← get
  let fields ← fieldsOf (w.text v)
  update fun w => { w with record := v, fields, isStale := false }

/-- The record. -/
def recordOf : Run Value := do
  let w ← get
  if w.isStale then
    let t := Text.join (w.globalText "OFS") (w.fields.toList.map w.text)
    set { w with record := .given t, isStale := false }
    return .given t
  else return w.record

/-- The number of a field. -/
def fieldNumber (x : Float) : Run Nat :=
  if x < 0 then fail ("negative field index $".toList ++ Text.ofInt (truncated x))
  else return (truncated x).toNat

/-- A field. -/
def fieldAt (n : Nat) : Run Value := do
  if n = 0 then recordOf else return ((← get).fields[n - 1]?).getD .none

/-- Lets the record have so many fields. -/
def resize (n : Nat) : Run Unit :=
  update fun w =>
    { w with
      fields := if n ≤ w.fields.size then w.fields.extract 0 n
        else w.fields ++ Array.replicate (n - w.fields.size) (.text [])
      isStale := true }

/-- Sets a field. -/
def setField (n : Nat) (v : Value) : Run Unit := do
  if n = 0 then
    let t := (← get).text v
    setRecord (match v with
      | .number _ | .none => .given t
      | v => v)
  else
    if (← get).fields.size < n then resize n
    update fun w => { w with fields := w.fields.setIfInBounds (n - 1) v, isStale := true }

/-- The value of a variable. -/
def valueOf (name : Text) : Run Value := do
  let w ← get
  if name = "NF".toList then return .ofNat w.fields.size
  else
    match w.slot? name with
    | some (.scalar v) => return v
    | some (.table _) => fail ("illegal reference to array ".toList ++ name)
    | _ => return .none

/-- Sets a variable. -/
def setValue (name : Text) (v : Value) : Run Unit := do
  if name = "NF".toList then resize (truncated v.toNumber).toNat
  else update (·.setSlot name (.scalar v))

/-! ## Reading -/

/-- A record at the front of a text, and what follows it. -/
def takeRecord (separator : Text) (t : Text) : Except RegexError (Text × Text) :=
  match separator with
  | [] =>
    let t := t.dropWhile (· = '\n')
    match Text.splitAtInfix ['\n', '\n'] t with
    | some (front, back) => .ok (front, back.dropWhile (· = '\n'))
    | none => .ok ((Text.stripBack ['\n'] t).getD t, [])
  | [c] =>
    let front := t.takeWhile (· ≠ c)
    .ok (front, t.drop (front.length + 1))
  | _ => do
    let r ← Regex.parse .records separator
    let s : Regex.Subject := ⟨t.toArray, false⟩
    match (Regex.all s r).find? fun m => m.start < m.finish with
    | some m => return (t.take m.start, t.drop m.finish)
    | none => return (t, [])

/-- Takes a record from a text, if anything is left of it. -/
def recordFrom (t : Text) : Run (Option (Text × Text)) := do
  let separator := (← get).globalText "RS"
  let t := if separator.isEmpty then t.dropWhile (· = '\n') else t
  if t.isEmpty then return none
  else
    match takeRecord separator t with
    | .ok found => return some found
    | .error e => fail ((Flaw.badRegex e separator).message 1)

/-- The name of a variable and the value that an operand gives to it. -/
def assignmentOf? (t : Text) : Option (Text × Text) :=
  let name := t.takeWhile Token.isNameChar
  match t.drop name.length with
  | '=' :: value =>
    if name.isEmpty ∨ (name.headD ' ').isDigit then none else some (name, Token.unescape value)
  | _ => none

/-- Opens the input of the program. -/
def openInput : Run Unit := do
  let m ← act get
  update fun w => ({ w with source := some (m.unread 0), readsInput := true }.setGlobal "FILENAME"
    (.text ['-'])).setGlobal "FNR" (.number 0)

/-- What is said about a file that cannot be read. -/
def unreadable (path : Text) (e : Utility.ReadError) : Text :=
  if e = .directory then "read error (Is a directory)".toList
  else "cannot open \"".toList ++ path ++ "\" (".toList ++ e.message ++ [')']

/-- Opens the next file that an operand names, with the given fuel, or the input if none does; tells
whether there is one. -/
def openNext : Nat → Run Bool
  | 0 => return false
  | fuel + 1 => do
    let w ← get
    let n ← tableOf "ARGV".toList
    let operands ← tableAt n
    if truncated (w.global "ARGC").toNumber ≤ w.operand then
      if w.hasFile then return false
      else
        update ({ · with hasFile := true })
        openInput
        return true
    else
      update ({ · with operand := w.operand + 1 })
      let path := w.text ((operands.get? (Text.ofNat w.operand)).getD .none)
      if path.isEmpty then openNext fuel
      else
        match assignmentOf? path with
        | some (name, value) =>
          setValue name (.given value)
          openNext fuel
        | none =>
          update ({ · with hasFile := true })
          if path = ['-'] ∨ path = "/dev/stdin".toList then
            openInput
            return true
          else
            match Utility.contentsOf (← act get) path with
            | .ok (t, _) =>
              update fun w => ({ w with source := some t, readsInput := false }.setGlobal "FILENAME"
                (.text path)).setGlobal "FNR" (.number 0)
              return true
            | .error e =>
              act (Utility.complain "awk" 2 (unreadable path e))
              update ({ · with status := 2 })
              throw .exit

/-- Takes the next record of the operands, with the given fuel. -/
def nextRecord : Nat → Run (Option Text)
  | 0 => return none
  | fuel + 1 => do
    match (← get).source with
    | none => if ← openNext 100000 then nextRecord fuel else return none
    | some t =>
      match ← recordFrom t with
      | none =>
        update ({ · with source := none })
        if (← get).readsInput then act (Action.change (·.leaveUnread 0 []))
        nextRecord fuel
      | some (front, rest) =>
        update fun w =>
          let step (name : String) (w : Work) : Work :=
            w.setGlobal name (.number ((w.global name).toNumber + 1))
          step "NR" (step "FNR" { w with source := some rest })
        return some front

/-! ## Writing -/

/-- Writes what is pending. -/
def flush : Run Unit := do
  let w ← get
  set { w with pending := [], pendingSize := 0 }
  act (Utility.write w.pending.reverse.flatten)
  if (← act get).flow ≠ .running then throw .exit

/-- Writes to the output, once a block of it is there. -/
def emit (t : Text) : Run Unit := do
  update fun w =>
    { w with pending := t :: w.pending, pendingSize := w.pendingSize + t.length }
  if blockSize ≤ (← get).pendingSize then flush

/-- Writes to what a name stands for, which is opened by that. -/
def emitTo (isCommand appends : Bool) (name t : Text) : Run Unit := do
  let put (writer : Writer) : Run Unit :=
    update fun w => { w with writers := (name, writer) :: w.writers.filter (·.1 ≠ name) }
  if !isCommand ∧ (name = ['-'] ∨ name = "/dev/stdout".toList) then emit t
  else
    match (← get).writers.lookup name with
    | some (.channel c) => act (Action.change (·.writeTo (some c) t))
    | some (.command pieces) => put (.command (t :: pieces))
    | none =>
      if isCommand then
        flush
        put (.command [t])
      else
        match (← act get).openPath (if appends then .append else .write) name with
        | .ok (c, m) =>
          act (set (m.writeTo (some c) t))
          put (.channel c)
        | .error _ =>
          let m ← act get
          let why := if m.isDirectory name then "Is a directory" else "No such file or directory"
          act (Utility.complain "awk" 2 ("cannot open \"".toList ++ name
            ++ "\" for output (".toList ++ why.toList ++ [')']))
          update ({ · with status := 2 })
          throw .exit

/-- Ends the output to a name, and gives the status. -/
def closeWriter (c : Commands) (name : Text) (writer : Writer) : Run Int := do
  update fun w => { w with writers := w.writers.filter (·.1 ≠ name) }
  match writer with
  | .channel _ => return 0
  | .command pieces =>
    act (c.feed name pieces.reverse.flatten)
    return ((← act get).status : Int)

end Postroom.Shell.Awk
