import Postroom.Shell.Awk.Work

/-!
# Running record programs

* `Awk.evaluate`, `Awk.perform` — what expressions and statements of a program do;
* `Utility.awk` — runs a program over files or the input.
-/

namespace Postroom.Shell.Awk

open Run

/-! ## Functions of the language -/

/-- The expression that a text is. -/
def regexOf (t : Text) : Run Regex :=
  match Regex.parse .records t with
  | .ok r => return r
  | .error e => fail ((Flaw.badRegex e t).message 1)

/-- A text that replaces a match, where `&` stands for the match. -/
def replacement (found : Text) : Text → Text
  | '\\' :: '&' :: rest => '&' :: replacement found rest
  | '\\' :: '\\' :: rest => '\\' :: replacement found rest
  | '&' :: rest => found ++ replacement found rest
  | c :: rest => c :: replacement found rest
  | [] => []

/-- A text with the first match or all matches replaced, and how many there were. -/
def substituted (all : Bool) (r : Regex) (new t : Text) : Text × Nat :=
  let s : Regex.Subject := ⟨t.toArray, false⟩
  let found := if all then Regex.all s r else (Regex.find? s r 0).toList
  let (done, place) := found.foldl
    (fun (done : List Text × Nat) m =>
      (replacement (s.slice m.start m.finish) new :: s.slice done.2 m.start :: done.1, m.finish))
    ([], 0)
  ((s.slice place t.length :: done).reverse.flatten, found.length)

/-- The part of a text from a place on, counted from one, of a length.  A place in front of zero
makes the part longer, as it counts from zero on. -/
def part (t : Text) (start : Float) (length : Option Float) : Text :=
  let start := truncated start
  match length with
  | some n =>
    if n.isNaN then [] else (t.drop (start - 1).toNat).take (truncated n - min start 0).toNat
  | none => t.drop (start - 1).toNat

/-- The value of a function of numbers. -/
def numberFunction (name : String) (x y : Float) : Float :=
  match name with
  | "sin" => x.sin
  | "cos" => x.cos
  | "atan2" => Float.atan2 x y
  | "exp" => x.exp
  | "log" => x.log
  | "sqrt" => x.sqrt
  | "int" => floating (truncated x)
  | _ => x

/-- The result of an operation on numbers. -/
def operate (op : Operation) (x y : Float) : Float :=
  match op with
  | .add => x + y
  | .sub => x - y
  | .mul => x * y
  | .div => x / y
  | .mod => if y == 0 then 0 / 0 else remainder x y
  | .power => Float.pow x y
where
  /-- What is left of a number by the division by another, with the sign of the first. -/
  remainder (x y : Float) : Float :=
    match whole? x, whole? y with
    | some a, some b => floating (a.tmod b)
    | _, _ => x - y * floating (truncated (x / y))

/-- How two values are ordered: as numbers if both are, as texts otherwise. -/
def comparison (c : Comparison) (w : Work) (a b : Value) : Bool :=
  if a.isNumeric ∧ b.isNumeric then
    let x := a.toNumber
    let y := b.toNumber
    match c with
    | .lt => x < y
    | .le => x ≤ y
    | .eq => x == y
    | .ne => x != y
    | .gt => y < x
    | .ge => y ≤ x
  else
    let s := w.text a
    let t := w.text b
    match c with
    | .lt => s < t
    | .le => !(t < s)
    | .eq => s = t
    | .ne => s ≠ t
    | .gt => t < s
    | .ge => !(s < t)

/-- Fails for a format. -/
def formatFailure {α : Type} (name : String) (f : Text) (flaw : FormatFlaw) : Run α :=
  fail (match flaw with
    | .tooFew => "not enough arguments passed to ".toList ++ name.toList ++ "(\"".toList ++ f
      ++ "\")".toList
    | .badConversion => "bad conversion".toList)

/-- Repeats rounds as long as they ask for it, with the given fuel. -/
def rounds (round : Run Bool) : Nat → Run Unit
  | 0 => return ()
  | fuel + 1 => do
    if ← round then rounds round fuel

/-- The body of a loop; tells whether the loop goes on. -/
def inLoop (body : Run Unit) : Run Bool :=
  tryCatch (do body; return true) fun l =>
    match l with
    | .loop => return false
    | .round => return true
    | l => throw l

/-! ## Expressions and statements -/

/-- What a program consists of and what it asks the shell for. -/
structure Setting where
  functions : List Function
  commands : Commands

mutual

/-- The value of an expression. -/
def evaluate (s : Setting) : Nat → Expr → Run Value
  | 0, _ => fail "function call nesting too deep".toList
  | fuel + 1, e => do
    match e with
    | .number x => return .number x
    | .text t => return .text t
    | .regex r => return .ofBool (r.isIn false ((← get).text (← recordOf)))
    | .field e => fieldAt (← fieldNumber (← evaluate s fuel e).toNumber)
    | .variable name => valueOf name
    | .element table index =>
      let n ← tableOf table
      let i ← indexOf s fuel index
      let t ← tableAt n
      match t.get? i with
      | some v => return v
      | none =>
        setTable n (t.put i .none)
        return .none
    | .assign none target value =>
      let v ← evaluate s fuel value
      assign s fuel target v
      return v
    | .assign (some op) target value =>
      let v ← evaluate s fuel value
      let old ← evaluate s fuel target
      let v := Value.number (operate op old.toNumber v.toNumber)
      assign s fuel target v
      return v
    | .choice test yes no =>
      if (← evaluate s fuel test).isTrue then evaluate s fuel yes else evaluate s fuel no
    | .or a b =>
      if (← evaluate s fuel a).isTrue then return .number 1
      else return .ofBool (← evaluate s fuel b).isTrue
    | .and a b =>
      if (← evaluate s fuel a).isTrue then return .ofBool (← evaluate s fuel b).isTrue
      else return .number 0
    | .not a => return .ofBool !(← evaluate s fuel a).isTrue
    | .member index table =>
      let i ← indexOf s fuel index
      let t ← tableAt (← tableOf table)
      return .ofBool (t.get? i).isSome
    | .isMatch negated a b =>
      let t := (← get).text (← evaluate s fuel a)
      let r ← pattern s fuel b
      return .ofBool (r.isIn false t != negated)
    | .compare c a b =>
      let x ← evaluate s fuel a
      let y ← evaluate s fuel b
      return .ofBool (comparison c (← get) x y)
    | .join a b =>
      let x ← evaluate s fuel a
      let y ← evaluate s fuel b
      let w ← get
      return .text (w.text x ++ w.text y)
    | .operate op a b =>
      let x ← evaluate s fuel a
      let y ← evaluate s fuel b
      return .number (operate op x.toNumber y.toNumber)
    | .negate a => return .number (-(← evaluate s fuel a).toNumber)
    | .plus a => return .number (← evaluate s fuel a).toNumber
    | .step up givesNew target =>
      let old := (← evaluate s fuel target).toNumber
      let new := if up then old + 1 else old - 1
      assign s fuel target (.number new)
      return .number (if givesNew then new else old)
    | .builtin name es => builtin s fuel name es
    | .call name es => call s fuel name es
    | .line o target source => takeLine s fuel o target source
    | .several [e] => evaluate s fuel e
    | .several es => return .text (← indexOf s fuel es)

/-- The text of an index. -/
def indexOf (s : Setting) : Nat → List Expr → Run Text
  | 0, _ => return []
  | fuel + 1, es => do
    let vs ← es.mapM (evaluate s fuel)
    let w ← get
    return Text.join (w.globalText "SUBSEP") (vs.map w.text)

/-- The expression to match that an operand stands for. -/
def pattern (s : Setting) : Nat → Expr → Run Regex
  | 0, _ => return .empty
  | fuel + 1, e => do
    match e with
    | .regex r => return r
    | e =>
      let v ← evaluate s fuel e
      regexOf ((← get).text v)

/-- Gives a value to something. -/
def assign (s : Setting) : Nat → Expr → Value → Run Unit
  | 0, _, _ => return ()
  | fuel + 1, e, v => do
    match e with
    | .variable name => setValue name v
    | .field e => setField (← fieldNumber (← evaluate s fuel e).toNumber) v
    | .element table index =>
      let n ← tableOf table
      let i ← indexOf s fuel index
      setTable n ((← tableAt n).put i v)
    | .several [e] => assign s fuel e v
    | _ => return ()

/-- Takes a line from somewhere. -/
def takeLine (s : Setting) : Nat → Origin → Option Expr → Option Expr → Run Value
  | 0, _, _, _ => return .none
  | fuel + 1, o, target, source => do
    let found : Option (Except Unit Text) ← (match o, source with
      | .records, _ => do return (← nextRecord 100000).map .ok
      | o, source => do
        let name ← (match source with
          | some e => do
            let v ← evaluate s fuel e
            return (← get).text v
          | none => return [])
        let opened : Option Text ← (match (← get).readers.lookup name with
          | some t => return some t
          | none =>
            if o = .command then do
              flush
              return some (← act (s.commands.capture name))
            else do
              match Utility.contentsOf (← act get) name with
              | .ok (t, m) =>
                act (set m)
                return some t
              | .error _ => return none)
        match opened with
        | none => return some (.error ())
        | some t =>
          let put (rest : Text) : Run Unit :=
            update fun w => { w with readers := (name, rest) :: w.readers.filter (·.1 ≠ name) }
          match ← recordFrom t with
          | some (front, rest) =>
            put rest
            if o = .command then
              update fun w => w.setGlobal "NR" (.number ((w.global "NR").toNumber + 1))
            return some (.ok front)
          | none =>
            put []
            return none)
    match found with
    | none => return .number 0
    | some (.error ()) => return .number (-1)
    | some (.ok t) =>
      match target with
      | some target => assign s fuel target (.given t)
      | none => setRecord (.given t)
      return .number 1

/-- Calls a function of the program. -/
def call (s : Setting) : Nat → Text → List Expr → Run Value
  | 0, _, _ => fail "function call nesting too deep".toList
  | fuel + 1, name, es => do
    match s.functions.find? (·.name = name) with
    | none => return .none
    | some f =>
      let slots ← es.mapM fun e => do
        match e with
        | .variable name =>
          let w ← get
          match if name = "NF".toList then some (.scalar (.ofNat w.fields.size))
            else w.slot? name with
          | none | some (.scalar .none) =>
            let n := w.tables.size
            set { w with tables := w.tables.push .empty }
            return (Slot.either n, some (name, n))
          | some (.either n) => return (Slot.either n, some (name, n))
          | some slot => return (slot, none)
        | e => return (Slot.scalar (← evaluate s fuel e), none)
      let missing := List.replicate (f.parameters.length - slots.length) (Slot.scalar .none)
      let outer := (← get).locals
      update ({ · with locals := f.parameters.zip (slots.map (·.1) ++ missing) })
      let v ← tryCatch (do perform s fuel f.body; return Value.none) fun l => do
        match l with
        | .function v => return v
        | l => throw l
      update ({ · with locals := outer })
      -- What has become a table within the function is one outside, too.
      (slots.filterMap (·.2)).forM fun (name, n) => do
        if (← tableAt n).size ≠ 0 then update (·.setSlot name (.table n))
      return v

/-- Calls a function of the language. -/
def builtin (s : Setting) : Nat → String → List Expr → Run Value
  | 0, _, _ => return .none
  | fuel + 1, name, es => do
    let text (e : Expr) : Run Text := do
      let v ← evaluate s fuel e
      return (← get).text v
    match name, es with
    | "length", [] => return .ofNat ((← get).text (← recordOf)).length
    | "length", [.variable name] =>
      match (← get).slot? name with
      | some (.table n) => return .ofNat (← tableAt n).size
      | some (.either n) => return .ofNat (← tableAt n).size
      | _ => return .ofNat (← text (.variable name)).length
    | "length", e :: _ => return .ofNat (← text e).length
    | "substr", e :: start :: rest =>
      let t ← text e
      let start := (← evaluate s fuel start).toNumber
      let size ← rest.head?.mapM fun e => do return (← evaluate s fuel e).toNumber
      return .text (part t start size)
    | "index", [a, b] =>
      let t ← text a
      let u ← text b
      if u.isEmpty then return .number 0
      return .ofNat (((Text.splitAtInfix u t).map fun p => p.1.length + 1).getD 0)
    | "split", e :: .variable table :: rest =>
      let t ← text e
      let ps ← (match rest with
        | [.regex r] => return if t.isEmpty then [] else pieces.cut r t
        | separator :: _ => do
          let u ← text separator
          match pieces u t with
          | .ok ps => return ps
          | .error e => fail ((Flaw.badRegex e u).message 1)
        | [] => do
          match pieces ((← get).globalText "FS") t with
          | .ok ps => return ps
          | .error _ => return [])
      setTable (← tableOf table) (.ofPieces ps)
      return .ofNat ps.length
    | "sub", r :: new :: rest | "gsub", r :: new :: rest =>
      let r ← pattern s fuel r
      let new ← text new
      let target := rest.headD (.field (.number 0))
      let (t, count) := substituted (name = "gsub") r new (← text target)
      if count ≠ 0 then assign s fuel target (.text t)
      return .ofNat count
    | "match", [e, r] =>
      let t ← text e
      let r ← pattern s fuel r
      let (start, length) : Nat × Int :=
        match Regex.find? ⟨t.toArray, false⟩ r 0 with
        | some m => (m.start + 1, m.finish - m.start)
        | none => (0, -1)
      update fun w =>
        (w.setGlobal "RSTART" (.ofNat start)).setGlobal "RLENGTH" (.number (floating length))
      return .ofNat start
    | "sprintf", f :: es =>
      let f ← text f
      let vs ← es.mapM (evaluate s fuel)
      match Format.values ((← get).globalText "CONVFMT") f vs with
      | (t, none) => return .text t
      | (_, some flaw) => formatFailure "sprintf" f flaw
    | "tolower", [e] => return .text ((← text e).map Char.toLower)
    | "toupper", [e] => return .text ((← text e).map Char.toUpper)
    | "system", [e] =>
      let line ← text e
      flush
      act (s.commands.run line)
      return .ofNat (← act get).status
    | "close", e :: _ =>
      let name ← text e
      let w ← get
      match w.readers.lookup name, w.writers.lookup name with
      | some _, _ =>
        set { w with readers := w.readers.filter (·.1 ≠ name) }
        return .number 0
      | none, some writer =>
        flush
        return .number (floating (← closeWriter s.commands name writer))
      | none, none => return .number (-1)
    | "fflush", _ =>
      flush
      return .number 0
    | "rand", _ =>
      let n := ((← get).seed * 1103515245 + 12345) % 0x80000000
      update ({ · with seed := n })
      return .number (floating n / floating 0x80000000)
    | "srand", es =>
      let old := (← get).seed
      let new ← (match es.head? with
        | some e => do return (truncated (← evaluate s fuel e).toNumber).toNat
        | none => return 0)
      update ({ · with seed := new })
      return .ofNat old
    | name, es =>
      let vs ← es.mapM (evaluate s fuel)
      let x := (vs.headD .none).toNumber
      let y := ((vs.drop 1).headD .none).toNumber
      return .number (numberFunction name x y)

/-- Does what a statement asks for. -/
def perform (s : Setting) : Nat → Statement → Run Unit
  | 0, _ => fail "function call nesting too deep".toList
  | fuel + 1, st => do
    let send (t : Text) (d : Destination) : Run Unit := do
      match d with
      | .output => emit t
      | .file appends path =>
        let v ← evaluate s fuel path
        emitTo false appends ((← get).text v) t
      | .command line =>
        let v ← evaluate s fuel line
        emitTo true false ((← get).text v) t
    match st with
    | .expr e =>
      let _ ← evaluate s fuel e
    | .print es d =>
      let vs ← if es.isEmpty then (do return [← recordOf]) else es.mapM (evaluate s fuel)
      let w ← get
      send (Text.join (w.globalText "OFS") (vs.map w.outputText) ++ w.globalText "ORS") d
    | .format es d =>
      let vs ← es.mapM (evaluate s fuel)
      let w ← get
      let f := w.text (vs.headD .none)
      match Format.values (w.globalText "CONVFMT") f (vs.drop 1) with
      | (t, none) => send t d
      | (t, some flaw) =>
        send t d
        formatFailure "printf" f flaw
    | .branch test yes no =>
      if (← evaluate s fuel test).isTrue then perform s fuel yes
      else
        match no with
        | some no => perform s fuel no
        | none => return ()
    | .loop test body after =>
      rounds (do
        let holds ← (match test with
          | some e => do return (← evaluate s fuel e).isTrue
          | none => return true)
        if !holds then return false
        else if !(← inLoop (perform s fuel body)) then return false
        else
          match after with
          | some a => perform s fuel a
          | none => pure ()
          return true) roundLimit
    | .loopLate body test =>
      rounds (do
        if !(← inLoop (perform s fuel body)) then return false
        else return (← evaluate s fuel test).isTrue) roundLimit
    | .each name table body =>
      let keys := (← tableAt (← tableOf table)).keys
      let _ ← keys.foldlM
        (fun (goesOn : Bool) k => do
          if !goesOn then return false
          else
            setValue name (.given k)
            inLoop (perform s fuel body)) true
    | .block ss => ss.forM (perform s fuel)
    | .next => throw .next
    | .nextFile => throw .nextFile
    | .exit status =>
      match status with
      | some e =>
        let n := truncated (← evaluate s fuel e).toNumber
        update ({ · with status := (n % 256).toNat })
      | none => pure ()
      throw .exit
    | .leaveLoop => throw .loop
    | .goOn => throw .round
    | .return value =>
      match value with
      | some e => throw (.function (← evaluate s fuel e))
      | none => throw (.function .none)
    | .delete table index =>
      let n ← tableOf table
      let i ← indexOf s fuel index
      setTable n ((← tableAt n).erase i)
    | .clear table => setTable (← tableOf table) .empty

end

/-! ## Programs -/

/-- How deep expressions, statements and calls may be within one another. -/
def depth : Nat := 20000

/-- Runs the action of a rule. -/
def act? (s : Setting) (action : Option Statement) : Run Unit :=
  match action with
  | some a => perform s depth a
  | none => perform s depth (.print [] .output)

/-- Runs the rules of a kind. -/
def runRules (s : Setting) (p : Program) (isOfKind : Pattern → Bool) : Run Unit :=
  (p.rules.filter fun r => isOfKind r.pattern).forM fun r => act? s r.action

/-- The rule of a number is for the record at hand. -/
def applies (s : Setting) (number : Nat) (p : Pattern) : Run Bool := do
  match p with
  | .begin | .finish => return false
  | .always => return true
  | .test e => return (← evaluate s depth e).isTrue
  | .range first last =>
    let isOpen ← (if (← get).ranges.contains number then return true
      else return (← evaluate s depth first).isTrue : Run Bool)
    if !isOpen then return false
    else
      let ends := (← evaluate s depth last).isTrue
      update fun w =>
        let others := w.ranges.filter (· ≠ number)
        { w with ranges := if ends then others else number :: others }
      return true

/-- Runs the rules for records over all records. -/
def runRecords (s : Setting) (p : Program) : Run Unit :=
  rounds (do
    match ← nextRecord 100000 with
    | none => return false
    | some t =>
      setRecord (.given t)
      tryCatch (p.rules.zipIdx.forM fun (r, i) => do
          if ← applies s i r.pattern then act? s r.action) fun l => do
        match l with
        | .next => return ()
        | .nextFile => update ({ · with source := some [] })
        | l => throw l
      return true) roundLimit

/-- A rule is for the end, or for records. -/
def isLate (p : Pattern) : Bool :=
  match p with
  | .begin => false
  | _ => true

/-- Goes on after an exit. -/
def untilExit (r : Run Unit) : Run Bool :=
  tryCatch (do r; return false) fun l => do
    match l with
    | .exit => return true
    | l => throw l

/-- Runs a program. -/
def runProgram (s : Setting) (p : Program) : Run Unit := do
  let isLeft ← untilExit (runRules s p (· matches .begin))
  let isLeft ← (if isLeft then return true
    else if p.rules.any fun r => isLate r.pattern then untilExit (runRecords s p)
    else return false : Run Bool)
  if (← act get).flow = .running ∧ !(isLeft ∧ (← get).status = 2 ∧ (← get).source.isNone) then
    let _ ← untilExit (runRules s p (· matches .finish))

/-- The state in which a program begins. -/
def start (m : Machine) (operands : List Text) : Work :=
  let arguments := ("awk".toList :: operands).zipIdx.foldl
    (fun (t : Table) p => t.put (Text.ofNat p.2) (.given p.1)) .empty
  let environment := m.exported.foldl
    (fun (t : Table) v => t.put v.name (.given (v.value.getD []))) .empty
  let texts : List (String × String) :=
    [("FS", " "), ("OFS", " "), ("ORS", "\n"), ("RS", "\n"), ("SUBSEP", "\x1c"),
      ("CONVFMT", "%.6g"), ("OFMT", "%.6g"), ("FILENAME", "")]
  let numbers : List (String × Int) :=
    [("NR", 0), ("FNR", 0), ("RSTART", 0), ("RLENGTH", -1), ("ARGC", operands.length + 1)]
  { globals := texts.map (fun p => (p.1.toList, Slot.scalar (.text p.2.toList)))
      ++ numbers.map (fun p => (p.1.toList, Slot.scalar (.number (floating p.2))))
      ++ [("ARGV".toList, .table 0), ("ENVIRON".toList, .table 1)]
    locals := []
    tables := #[arguments, environment]
    record := .none
    fields := #[]
    isStale := false
    operand := 1
    source := none
    hasFile := false
    readsInput := false
    readers := []
    writers := []
    pending := []
    pendingSize := 0
    ranges := []
    seed := 0
    status := 0 }

/-- Ends a program: its commands get their input, then its output is written. -/
def finish (c : Commands) : Run Unit := do
  (← get).writers.reverse.forM fun (name, writer) => do
    let _ ← closeWriter c name writer
  let _ ← untilExit flush

/-- Leaves unread what is behind the block that has been taken of the input. -/
def leaveRest (before : Text) (w : Work) : Action Unit :=
  match w.source with
  | some rest =>
    if w.readsInput then
      let used := before.length - rest.length
      Action.change (·.leaveUnread 0 (before.drop ((used + blockSize - 1) / blockSize * blockSize)))
    else return ()
  | none => return ()

/-- The options in front of a program: the files that hold it, and what is set. -/
structure Given where
  files : List Text
  assigned : List (Text × Text)
  rest : List Text

/-- Reads the options, or tells the one that is none. -/
def optionsOf (g : Given) : List Text → Except Text Given
  | [] => .ok g
  | t :: rest =>
    match t with
    | ['-', '-'] => .ok { g with rest }
    | ['-', c] =>
      match c, rest with
      | 'F', v :: rest =>
        optionsOf { g with assigned := g.assigned ++ [("FS".toList, Token.unescape v)] } rest
      | 'v', v :: rest =>
        optionsOf { g with assigned := g.assigned ++ (assignmentOf? v).toList } rest
      | 'f', v :: rest => optionsOf { g with files := g.files ++ [v] } rest
      | 'W', _ :: rest => optionsOf g rest
      | _, _ => .error t
    | '-' :: 'F' :: v =>
      optionsOf { g with assigned := g.assigned ++ [("FS".toList, Token.unescape v)] } rest
    | '-' :: 'v' :: v =>
      optionsOf { g with assigned := g.assigned ++ (assignmentOf? v).toList } rest
    | '-' :: 'f' :: v => optionsOf { g with files := g.files ++ [v] } rest
    | '-' :: _ :: _ => .error t
    | _ => .ok { g with rest := t :: rest }

end Postroom.Shell.Awk

namespace Postroom.Shell.Utility

open Awk

/-- Runs a record program over the files that operands name, or over the input. -/
def awk (c : Commands) : Utility := fun arguments => do
  leave 0
  match optionsOf ⟨[], [], []⟩ arguments with
  | .error t => complain "awk" 2 ("not an option: ".toList ++ t)
  | .ok g =>
    let mut texts : List Text := []
    for path in g.files do
      let t ← input? path fun e => complain "awk" 2 (unreadable path e)
      texts := texts ++ t.toList
    if g.files.isEmpty ∧ g.rest.isEmpty then
      Action.change fun m =>
        (m.complain "Usage: awk [Options] [Program] [file ...]".toList).withStatus 2
    else if texts.length ≠ g.files.length then return ()
    else
    let source := if g.files.isEmpty then g.rest.headD [] else Text.join ['\n'] texts
    let operands := if g.files.isEmpty then g.rest.drop 1 else g.rest
    match Program.parse source with
    | .error (flaw, line) => complain "awk" 2 (flaw.message line)
    | .ok p =>
      let m ← get
      let before := m.unread 0
      let program : Run Unit := do
        g.assigned.forM fun (name, value) => setValue name (.given value)
        runProgram ⟨p.functions, c⟩ p
        finish c
      let (answer, w) ← (program.run).run (start m operands)
      match answer with
      | .ok () | .error .exit =>
        leaveRest before w
        leave w.status
      | .error (.failed t) =>
        let (_, w) ← ((finish c).run).run w
        let place (name : String) : Text := w.outputText (w.global name)
        complain "awk" 2 ("run time error: ".toList ++ t)
        Action.change (·.complain ("\tFILENAME=\"".toList ++ place "FILENAME" ++ "\" FNR=".toList
          ++ place "FNR" ++ " NR=".toList ++ place "NR"))
        leave 2
      | .error _ =>
        let (_, w) ← ((finish c).run).run w
        leave w.status

end Postroom.Shell.Utility
