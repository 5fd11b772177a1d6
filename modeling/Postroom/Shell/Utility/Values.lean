import Postroom.Shell.Builtin
import Postroom.Shell.Regex
import Postroom.Shell.Utility.Basic

/-!
# Utilities on values

The utilities that compute with numbers and texts among their arguments, and that tell about the
system.

* `Term.parse`, `Term.eval` — the expressions of `expr`;
* `Utility.seq` — rows of numbers.
-/

namespace Postroom.Shell

/-- An operation of `expr`. -/
inductive TermOp where
  | or | and | lt | le | eq | ne | ge | gt | add | sub | mul | div | mod | «match»
deriving DecidableEq, Repr

/-- An expression of `expr`. -/
inductive Term where
  | text (t : Text)
  | binary (op : TermOp) (a b : Term)
  | length (a : Term)
  | index (a chars : Term)
  | substring (a place size : Term)
deriving Repr

/-- Why arguments are no expression, or an expression has no value. -/
inductive TermError where
  | missingOperand
  | missingArgument (behind : Text)
  | unexpected (t : Text)
  | unexpectedClosing
  | expectingClosing (behind : Text)
  | notInteger
  | divisionByZero
  | badPattern (e : RegexError)
deriving DecidableEq, Repr

namespace TermError

/-- The wording of the cause. -/
def message : TermError → Text
  | .missingOperand => "missing operand\nTry 'expr --help' for more information.".toList
  | .missingArgument t => "syntax error: missing argument after '".toList ++ t ++ ['\'']
  | .unexpected t => "syntax error: unexpected argument '".toList ++ t ++ ['\'']
  | .unexpectedClosing => "syntax error: unexpected ')'".toList
  | .expectingClosing t => "syntax error: expecting ')' after '".toList ++ t ++ ['\'']
  | .notInteger => "non-integer argument".toList
  | .divisionByZero => "division by zero".toList
  | .badPattern e => e.message

end TermError

namespace Term

/-- The operation of an argument, and how tightly it binds, tightest last. -/
def op? (t : Text) : Option (Nat × TermOp) :=
  match String.ofList t with
  | "|" => some (0, .or)
  | "&" => some (1, .and)
  | "<" => some (2, .lt)
  | "<=" => some (2, .le)
  | "=" | "==" => some (2, .eq)
  | "!=" => some (2, .ne)
  | ">=" => some (2, .ge)
  | ">" => some (2, .gt)
  | "+" => some (3, .add)
  | "-" => some (3, .sub)
  | "*" => some (4, .mul)
  | "/" => some (4, .div)
  | "%" => some (4, .mod)
  | ":" => some (5, .match)
  | _ => none

/-- What reading gives: an expression, the argument read last, and those that are left. -/
abbrev Reading := Except TermError (Term × Text × List Text)

mutual

/-- Reads operations that bind at least so tightly. -/
def operations : Nat → Nat → Text → List Text → Reading
  | 0, _, last, _ => .error (.missingArgument last)
  | fuel + 1, level, last, ts =>
    match operand fuel last ts with
    | .ok (a, last, rest) => operationsFrom fuel level a last rest
    | .error e => .error e

/-- Goes on with operations behind the first operand. -/
def operationsFrom : Nat → Nat → Term → Text → List Text → Reading
  | 0, _, a, last, ts => .ok (a, last, ts)
  | fuel + 1, level, a, last, ts =>
    match ts with
    | [] => .ok (a, last, [])
    | t :: rest =>
      match op? t with
      | some (tightness, op) =>
        if level ≤ tightness then
          match operations fuel (tightness + 1) t rest with
          | .ok (b, last, rest) => operationsFrom fuel level (.binary op a b) last rest
          | .error e => .error e
        else .ok (a, last, ts)
      | none => .ok (a, last, ts)

/-- Reads an operand. -/
def operand : Nat → Text → List Text → Reading
  | 0, last, _ | _, last, [] => .error (.missingArgument last)
  | fuel + 1, _, t :: rest =>
    match String.ofList t with
    | "+" =>
      match rest with
      | u :: rest => .ok (.text u, u, rest)
      | [] => .error (.missingArgument t)
    | "(" =>
      match operations fuel 0 t rest with
      | .ok (a, _, [')'] :: rest) => .ok (a, [')'], rest)
      | .ok (_, last, []) => .error (.expectingClosing last)
      | .ok (_, _, u :: _) => .error (.unexpected u)
      | .error e => .error e
    | ")" => .error .unexpectedClosing
    | "length" =>
      match operand fuel t rest with
      | .ok (a, last, rest) => .ok (.length a, last, rest)
      | .error e => .error e
    | "match" =>
      match operand fuel t rest with
      | .ok (a, last, rest) =>
        match operand fuel last rest with
        | .ok (b, last, rest) => .ok (.binary .match a b, last, rest)
        | .error e => .error e
      | .error e => .error e
    | "index" =>
      match operand fuel t rest with
      | .ok (a, last, rest) =>
        match operand fuel last rest with
        | .ok (b, last, rest) => .ok (.index a b, last, rest)
        | .error e => .error e
      | .error e => .error e
    | "substr" =>
      match operand fuel t rest with
      | .ok (a, last, rest) =>
        match operand fuel last rest with
        | .ok (b, last, rest) =>
          match operand fuel last rest with
          | .ok (c, last, rest) => .ok (.substring a b c, last, rest)
          | .error e => .error e
        | .error e => .error e
      | .error e => .error e
    | _ => .ok (.text t, t, rest)

end

/-- Reads all arguments as an expression. -/
def parse (ts : List Text) : Except TermError Term :=
  if ts.isEmpty then .error .missingOperand
  else
    match operations (10 * ts.length + 10) 0 [] ts with
    | .ok (a, _, []) => .ok a
    | .ok (_, _, [')'] :: _) => .error .unexpectedClosing
    | .ok (_, _, t :: _) => .error (.unexpected t)
    | .error e => .error e

/-- The integer that a text is. -/
def integer? (t : Text) : Option Int :=
  match t with
  | '-' :: ds => (Text.toNat? ds).map fun n => -(n : Int)
  | ds => (Text.toNat? ds).map fun n => (n : Int)

/-- A text is nothing: it is empty or zero. -/
def isNull (t : Text) : Bool :=
  t.isEmpty || integer? t == some 0

/-- The value of a pattern at the front of a text: what its group has matched, or the length. -/
def matched (t pattern : Text) : Except TermError Text :=
  match Regex.parse (.search false) pattern with
  | .error e => .error (.badPattern e)
  | .ok r =>
    let s : Regex.Subject := ⟨t.toArray, false⟩
    let hasGroup := Text.hasInfix "\\(".toList pattern
    match Regex.matchAt? s r 0 with
    | some m => .ok (if hasGroup then m.group s 1 else Text.ofNat m.finish)
    | none => .ok (if hasGroup then [] else ['0'])

/-- The value of an operation. -/
def apply (op : TermOp) (a b : Text) : Except TermError Text :=
  let compare (p : Ordering → Bool) : Except TermError Text :=
    let o :=
      match integer? a, integer? b with
      | some x, some y => Ord.compare x y
      | _, _ => if a = b then .eq else if a < b then .lt else .gt
    .ok (if p o then ['1'] else ['0'])
  let compute (f : Int → Int → Except TermError Int) : Except TermError Text :=
    match integer? a, integer? b with
    | some x, some y => (f x y).map Text.ofInt
    | _, _ => .error .notInteger
  match op with
  | .or => .ok (if !isNull a then a else if !isNull b then b else ['0'])
  | .and => .ok (if isNull a ∨ isNull b then ['0'] else a)
  | .lt => compare (· = .lt)
  | .le => compare (· ≠ .gt)
  | .eq => compare (· = .eq)
  | .ne => compare (· ≠ .eq)
  | .ge => compare (· ≠ .lt)
  | .gt => compare (· = .gt)
  | .add => compute fun x y => .ok (x + y)
  | .sub => compute fun x y => .ok (x - y)
  | .mul => compute fun x y => .ok (x * y)
  | .div => compute fun x y => if y = 0 then .error .divisionByZero else .ok (x.tdiv y)
  | .mod => compute fun x y => if y = 0 then .error .divisionByZero else .ok (x.tmod y)
  | .match => matched a b

/-- The value of an expression. -/
def eval : Term → Except TermError Text
  | .text t => .ok t
  | .binary op a b => do apply op (← a.eval) (← b.eval)
  | .length a => do return Text.ofNat (← a.eval).length
  | .index a chars => do
    let cs ← chars.eval
    return Text.ofNat (((← a.eval).findIdx? cs.contains).elim 0 (· + 1))
  | .substring a place size => do
    let t ← a.eval
    match integer? (← place.eval), integer? (← size.eval) with
    | some p, some n =>
      return if p ≤ 0 ∨ n ≤ 0 then [] else (t.drop (p.toNat - 1)).take n.toNat
    | _, _ => return []

end Term

namespace Utility

/-- Computes an expression. -/
def expr : Utility := fun arguments =>
  let arguments := if arguments.head? = some "--".toList then arguments.drop 1 else arguments
  match Term.parse arguments >>= Term.eval with
  | .ok t => do
    writeLines [t]
    leave (if Term.isNull t then 1 else 0)
  | .error e => complain "expr" 2 e.message

/-- A decimal numeral: a whole number, and how many of its digits stand behind the point. -/
def decimal? (t : Text) : Option (Int × Nat) :=
  let (negative, t) : Bool × Text :=
    match t with
    | '-' :: rest => (true, rest)
    | '+' :: rest => (false, rest)
    | _ => (false, t)
  let whole := t.takeWhile Char.isDigit
  let rest := t.drop whole.length
  let part? : Option Text :=
    match rest with
    | [] => some []
    | '.' :: part => if part.all Char.isDigit then some part else none
    | _ => none
  part?.bind fun part =>
    if whole.isEmpty ∧ part.isEmpty then none
    else
      (Text.toNat? (whole ++ part)).map fun n => (if negative then -(n : Int) else n, part.length)

/-- The numeral of a whole number with so many digits behind the point. -/
def decimalText (n : Int) (places : Nat) : Text :=
  (if n < 0 then ['-'] else []) ++ Binary.withPoint n.natAbs places false

/-- A numeral filled up with zeros to a width. -/
def zeroFilled (width : Nat) (t : Text) : Text :=
  match t with
  | '-' :: ds => '-' :: List.replicate (width - 1 - ds.length) '0' ++ ds
  | _ => List.replicate (width - t.length) '0' ++ t

/-- Writes the numbers from one to another. -/
def seq : Utility := fun arguments =>
  let isNumber (t : Text) : Bool := t.head? = some '-' && (decimal? t).isSome
  let split := arguments.span fun t => !isNumber t
  let hint : Action Unit :=
    Action.change (·.complain "Try 'seq --help' for more information.".toList)
  withOptions "seq" 1 "f:s:w" [("separator", 's'), ("format", 'f'), ("equal-width", 'w')]
    (split.1 ++ (if split.2.isEmpty then [] else "--".toList :: split.2)) fun g => do
    match g.operands.find? fun t => (decimal? t).isNone with
    | some t =>
      complain "seq" 1 ("invalid floating point argument: ".toList ++ Name.marked t)
      hint
    | none =>
      let ns := g.operands.filterMap decimal?
      let one : Int × Nat := (1, 0)
      match (match ns with
        | [b] => some (one, one, b)
        | [a, b] => some (a, one, b)
        | [a, s, b] => some (a, s, b)
        | _ => none) with
      | none =>
        complain "seq" 1 (if ns.isEmpty then "missing operand".toList
          else "extra operand ".toList ++ Name.marked (g.operands.getD 3 []))
        hint
      | some (a, s, b) =>
        let places := max a.2 (max s.2 b.2)
        let scale (n : Int × Nat) : Int := n.1 * Nat.pow 10 (places - n.2)
        let shownPlaces := max a.2 s.2
        if s.1 = 0 then
          complain "seq" 1
            ("invalid Zero increment value: ".toList ++ Name.marked (g.operands.getD 1 []))
          hint
        else
          let count := ((scale b - scale a).fdiv (scale s) + 1).toNat
          let values := (List.range count).map fun (i : Nat) => scale a + (i : Int) * scale s
          let unit := Nat.pow 10 (places - shownPlaces)
          let plain := values.map fun v => decimalText (v / unit) shownPlaces
          let width := (plain.map List.length).foldl max 0
          let rows :=
            match g.value? 'f' with
            | some f => values.map fun v =>
              (Format.render f [decimalText v places]).output
            | none => if g.has 'w' then plain.map (zeroFilled width) else plain
          if !rows.isEmpty then
            write (Text.join ((g.value? 's').getD ['\n']) rows ++ ['\n'])

/-- Writes the values of variables. -/
def printenv : Utility := fun arguments => do
  let m ← get
  match arguments.filter fun t => t.head? ≠ some '-' with
  | [] =>
    writeLines (m.exported.reverse.map fun v => v.name ++ '=' :: v.value.getD [])
    leave 0
  | names =>
    let values := names.map fun n => (m.exported.find? (·.name = n)).bind (·.value)
    writeLines (values.filterMap id)
    leave (if values.all Option.isSome then 0 else 1)

/-- The texts of arguments with the escapes that `echo -e` knows. -/
def echo : Utility := fun arguments => do
  let isOption (t : Text) : Bool :=
    t.head? = some '-' && 1 < t.length && (t.drop 1).all fun c => "neE".toList.contains c
  let options := (arguments.takeWhile isOption).flatten
  let t := Text.join [' '] (arguments.dropWhile isOption)
  let isEscaped := (options.reverse.find? fun c => c = 'e' ∨ c = 'E') = some 'e'
  let (t, goesOn) := if isEscaped then Escape.read t else (t, true)
  write (if options.contains 'n' ∨ !goesOn then t else t ++ ['\n'])
  leave 0

/-- A command of the shell as a program. -/
def ofBuiltin (name : Text) (work : Builtin) : Utility := fun arguments =>
  Action.change fun m =>
    match work arguments m with
    | .ok m => m
    | .error t => (m.complain (name ++ ": ".toList ++ t)).withStatus 2

/-- Tells who the user is. -/
def identify : Utility := fun arguments =>
  withOptions "id" 1 "gGnru" [("user", 'u'), ("group", 'g'), ("name", 'n'), ("groups", 'G')]
    arguments fun g =>
    if g.has 'u' ∨ g.has 'g' ∨ g.has 'G' then
      writeLines [if g.has 'n' then "root".toList else ['0']]
    else writeLines ["uid=0(root) gid=0(root) groups=0(root)".toList]

/-- Writes a line that is always the same. -/
def constant (t : String) : Utility := fun _ => do
  writeLines [t.toList]
  leave 0

/-- Tells that the input comes from no terminal. -/
def tty : Utility := fun arguments => do
  if arguments.isEmpty then writeLines ["not a tty".toList]
  leave 1

/-- Tells what the system is. -/
def uname : Utility := fun arguments =>
  withOptions "uname" 1 "amnrsvpio" [] arguments fun g =>
    writeLines [if g.has 'm' ∨ g.has 'p' ∨ g.has 'i' then "x86_64".toList
      else if g.has 'o' then "GNU/Linux".toList else "Linux".toList]

/-- Ends at once with a status. -/
def only (status : Nat) : Utility := fun _ => leave status

end Utility

end Postroom.Shell
