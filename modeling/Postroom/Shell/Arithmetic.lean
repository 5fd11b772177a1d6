import Postroom.Shell.Machine

/-!
# Arithmetic

Integer expressions over the variables of a shell, on signed words of 64 bits.

* `Numeral.read` — the number at the front of a text;
* `Sum.ofText` — reads an expression;
* `Sum.eval` — its value, and the variables that it sets.
-/

namespace Postroom.Shell

namespace Numeral

/-- The signed word that an integer wraps around to. -/
def wrap (n : Int) : Int :=
  Int.bmod n 0x10000000000000000

/-- The largest signed word. -/
def largest : Int :=
  0x7FFFFFFFFFFFFFFF

/-- The smallest signed word. -/
def smallest : Int :=
  -0x8000000000000000

/-- The value of a digit in a base. -/
def digit? (base : Nat) (c : Char) : Option Nat :=
  let v :=
    if c.isDigit then some (c.toNat - '0'.toNat)
    else if c.isAlpha then some (c.toLower.toNat - 'a'.toNat + 10)
    else none
  v.filter (· < base)

/-- The value of the digits at the front of a text, how many there are, and what follows. -/
def digits (base : Nat) : Nat → Nat → Text → Nat × Nat × Text
  | value, count, c :: rest =>
    match digit? base c with
    | some d => digits base (value * base + d) (count + 1) rest
    | none => (value, count, c :: rest)
  | value, count, [] => (value, count, [])

/-- The number at the front of a text without a sign, in decimal notation or, after `0x` and `0`, in
hexadecimal and octal, and what follows it. -/
def unsigned? (t : Text) : Option (Nat × Text) :=
  let plain (base : Nat) : Option (Nat × Text) :=
    let (value, count, rest) := digits base 0 0 t
    if count = 0 then none else some (value, rest)
  match t with
  | '0' :: x :: d :: rest =>
    if (x = 'x' ∨ x = 'X') ∧ (digit? 16 d).isSome then
      let (value, _, rest) := digits 16 0 0 (d :: rest)
      some (value, rest)
    else plain 8
  | '0' :: _ => plain 8
  | _ => plain 10

/-- The characters that may stand in front of a number and behind it. -/
def isSpace (c : Char) : Bool :=
  c == ' ' || '\t' ≤ c && c ≤ '\r'

/-- The number at the front of a text, and what follows it. -/
def read? (t : Text) : Option (Int × Text) :=
  match t.dropWhile isSpace with
  | '-' :: rest => (unsigned? rest).map fun (n, rest) => (-(n : Int), rest)
  | '+' :: rest => (unsigned? rest).map fun (n, rest) => ((n : Int), rest)
  | rest => (unsigned? rest).map fun (n, rest) => ((n : Int), rest)

/-- The number is a signed word. -/
def isWord (n : Int) : Bool :=
  smallest ≤ n && n ≤ largest

/-- The signed word that is nearest to a number. -/
def clamp (n : Int) : Int :=
  max smallest (min largest n)

/-- The number that the value of a variable stands for; no text is zero. -/
def ofValue? (t : Text) : Option Int :=
  if (t.dropWhile isSpace).isEmpty then some 0
  else
    match read? t with
    | some (n, rest) => if rest.all isSpace ∧ isWord n then some n else none
    | none => none

end Numeral

/-- An operation on two numbers. -/
inductive BinaryOp where
  | mul | div | mod | add | sub | shl | shr
  | lt | le | gt | ge | eq | ne
  | bitAnd | bitXor | bitOr
deriving DecidableEq, Repr

/-- An operation on one number. -/
inductive UnaryOp where
  | plus | minus | lnot | bitNot
deriving DecidableEq, Repr

/-- An arithmetic expression. -/
inductive Sum where
  | number (n : Int)
  | variable (name : Text)
  | unary (op : UnaryOp) (e : Sum)
  | binary (op : BinaryOp) (a b : Sum)
  | and (a b : Sum)
  | or (a b : Sum)
  | cond (test yes no : Sum)
  /-- Sets a variable, to what an operation makes of its value if there is one. -/
  | assign (name : Text) (op : Option BinaryOp) (e : Sum)
deriving Repr

/-- Why a text is no expression, or an expression has no value. -/
inductive SumError where
  | expectingPrimary
  | expectingEnd
  | expectingColon
  | expectingParenthesis
  | divisionByZero
  | illegalNumber (t : Text)
  | readOnly (name : Text)
deriving DecidableEq, Repr

/-- The complaint about an expression. -/
def SumError.message (expression : Text) : SumError → Text
  | .illegalNumber t => "Illegal number: ".toList ++ t
  | .readOnly name => name ++ ": is read only".toList
  | e =>
    let why :=
      match e with
      | .expectingPrimary => "expecting primary"
      | .expectingEnd => "expecting EOF"
      | .expectingColon => "expecting ':'"
      | .expectingParenthesis => "expecting ')'"
      | _ => "division by zero"
    "arithmetic expression: ".toList ++ why.toList ++ ": \"".toList ++ expression ++ ['"']

namespace Sum

/-- A token of an expression. -/
inductive Symbol where
  | number (n : Int)
  | name (t : Text)
  | op (t : Text)
  | unknown
deriving DecidableEq, Repr

/-- The operators, the longer ones first. -/
def operators : List Text :=
  ["<<=".toList, ">>=".toList, "<<".toList, ">>".toList, "<=".toList, ">=".toList, "==".toList,
    "!=".toList, "&&".toList, "||".toList, "*=".toList, "/=".toList, "%=".toList, "+=".toList,
    "-=".toList, "&=".toList, "^=".toList, "|=".toList, ['*'], ['/'], ['%'], ['+'], ['-'], ['<'],
    ['>'], ['&'], ['^'], ['|'], ['='], ['!'], ['~'], ['?'], [':'], ['('], [')']]

/-- The tokens of an expression, with the given fuel. -/
def symbolsFrom : Nat → Text → List Symbol
  | 0, _ | _, [] => []
  | fuel + 1, c :: rest =>
    if Numeral.isSpace c then symbolsFrom fuel rest
    else if c.isDigit then
      match Numeral.unsigned? (c :: rest) with
      | some (n, rest) => .number (Numeral.clamp n) :: symbolsFrom fuel rest
      | none => [.unknown]
    else if Lexing.isNameChar c then
      let name := (c :: rest).takeWhile Lexing.isNameChar
      .name name :: symbolsFrom fuel ((c :: rest).drop name.length)
    else
      match operators.find? (·.isPrefixOf (c :: rest)) with
      | some op => .op op :: symbolsFrom fuel ((c :: rest).drop op.length)
      | none => [.unknown]

/-- The operation of an operator between two operands, and how tightly it binds, tightest last. -/
def binaryOf? (t : Text) : Option (Nat × BinaryOp) :=
  match String.ofList t with
  | "*" => some (7, .mul)
  | "/" => some (7, .div)
  | "%" => some (7, .mod)
  | "+" => some (6, .add)
  | "-" => some (6, .sub)
  | "<<" => some (5, .shl)
  | ">>" => some (5, .shr)
  | "<" => some (4, .lt)
  | "<=" => some (4, .le)
  | ">" => some (4, .gt)
  | ">=" => some (4, .ge)
  | "==" => some (3, .eq)
  | "!=" => some (3, .ne)
  | "&" => some (2, .bitAnd)
  | "^" => some (1, .bitXor)
  | "|" => some (0, .bitOr)
  | _ => none

/-- The operation of an operator in front of an operand. -/
def unaryOf? (t : Text) : Option UnaryOp :=
  match t with
  | ['+'] => some .plus
  | ['-'] => some .minus
  | ['!'] => some .lnot
  | ['~'] => some .bitNot
  | _ => none

/-- The operation by which an operator sets a variable. -/
def assignOf? (t : Text) : Option (Option BinaryOp) :=
  if t = ['='] then some none
  else
    match Text.stripBack ['='] t with
    | some op => ((binaryOf? op).filter fun o => o.1 ∈ [7, 6, 5, 2, 1, 0]).map fun o => some o.2
    | none => none

mutual

/-- Reads an assignment or what binds tighter. -/
def assignment : Nat → List Symbol → Except SumError (Sum × List Symbol)
  | 0, _ => .error .expectingPrimary
  | fuel + 1, ss =>
    match ss with
    | .name x :: .op o :: rest =>
      match assignOf? o with
      | some op => do
        let (e, rest) ← assignment fuel rest
        return (.assign x op e, rest)
      | none => choice fuel ss
    | _ => choice fuel ss

/-- Reads a choice between two expressions, or what binds tighter. -/
def choice : Nat → List Symbol → Except SumError (Sum × List Symbol)
  | 0, _ => .error .expectingPrimary
  | fuel + 1, ss => do
    let (test, rest) ← disjunction fuel ss
    match rest with
    | .op ['?'] :: rest =>
      let (yes, rest) ← assignment fuel rest
      match rest with
      | .op [':'] :: rest =>
        let (no, rest) ← choice fuel rest
        return (.cond test yes no, rest)
      | _ => .error .expectingColon
    | _ => return (test, rest)

/-- Reads expressions one of which has to hold. -/
def disjunction : Nat → List Symbol → Except SumError (Sum × List Symbol)
  | 0, _ => .error .expectingPrimary
  | fuel + 1, ss => do
    let (a, rest) ← conjunction fuel ss
    match rest with
    | .op ['|', '|'] :: rest =>
      let (b, rest) ← disjunction fuel rest
      return (.or a b, rest)
    | _ => return (a, rest)

/-- Reads expressions all of which have to hold. -/
def conjunction : Nat → List Symbol → Except SumError (Sum × List Symbol)
  | 0, _ => .error .expectingPrimary
  | fuel + 1, ss => do
    let (a, rest) ← operations fuel 0 ss
    match rest with
    | .op ['&', '&'] :: rest =>
      let (b, rest) ← conjunction fuel rest
      return (.and a b, rest)
    | _ => return (a, rest)

/-- Reads operations that bind at least so tightly. -/
def operations : Nat → Nat → List Symbol → Except SumError (Sum × List Symbol)
  | 0, _, _ => .error .expectingPrimary
  | fuel + 1, level, ss => do
    let (a, rest) ← primary fuel ss
    operationsFrom fuel level a rest

/-- Goes on with operations behind the first operand. -/
def operationsFrom : Nat → Nat → Sum → List Symbol → Except SumError (Sum × List Symbol)
  | 0, _, _, _ => .error .expectingPrimary
  | fuel + 1, level, a, ss =>
    match ss with
    | .op o :: rest =>
      match binaryOf? o with
      | some (tightness, op) =>
        if level ≤ tightness then do
          let (b, rest) ← operations fuel (tightness + 1) rest
          operationsFrom fuel level (.binary op a b) rest
        else .ok (a, ss)
      | none => .ok (a, ss)
    | _ => .ok (a, ss)

/-- Reads an operand. -/
def primary : Nat → List Symbol → Except SumError (Sum × List Symbol)
  | 0, _ => .error .expectingPrimary
  | fuel + 1, ss =>
    match ss with
    | .number n :: rest => .ok (.number n, rest)
    | .name x :: rest => .ok (.variable x, rest)
    | .op ['('] :: rest => do
      let (e, rest) ← assignment fuel rest
      match rest with
      | .op [')'] :: rest => return (e, rest)
      | _ => .error .expectingParenthesis
    | .op o :: rest =>
      match unaryOf? o with
      | some op => do
        let (e, rest) ← primary fuel rest
        return (.unary op e, rest)
      | none => .error .expectingPrimary
    | _ => .error .expectingPrimary

end

/-- Reads an expression. -/
def ofText (t : Text) : Except SumError Sum := do
  let ss := symbolsFrom (t.length + 1) t
  let (e, rest) ← assignment (12 * ss.length + 12) ss
  if rest.isEmpty then return e else .error .expectingEnd

/-- The number that stands for a truth value. -/
def ofBool (b : Bool) : Int :=
  if b then 1 else 0

/-- The bits of a signed word, as a natural number. -/
def bits (n : Int) : Nat :=
  (n % 0x10000000000000000).toNat

/-- The value of an operation on two numbers. -/
def apply (op : BinaryOp) (a b : Int) : Except SumError Int :=
  let word (n : Int) : Except SumError Int := .ok (Numeral.wrap n)
  let shift := bits b % 64
  match op with
  | .mul => word (a * b)
  | .div => if b = 0 then .error .divisionByZero else word (a.tdiv b)
  | .mod => if b = 0 then .error .divisionByZero else word (a.tmod b)
  | .add => word (a + b)
  | .sub => word (a - b)
  | .shl => word (a * Nat.pow 2 shift)
  | .shr => word (a / Nat.pow 2 shift)
  | .lt => .ok (ofBool (a < b))
  | .le => .ok (ofBool (a ≤ b))
  | .gt => .ok (ofBool (b < a))
  | .ge => .ok (ofBool (b ≤ a))
  | .eq => .ok (ofBool (a = b))
  | .ne => .ok (ofBool (a ≠ b))
  | .bitAnd => word (bits a &&& bits b : Nat)
  | .bitXor => word (bits a ^^^ bits b : Nat)
  | .bitOr => word (bits a ||| bits b : Nat)

/-- The number that a variable holds. -/
def lookup (m : Machine) (name : Text) : Except SumError Int :=
  let t := (m.value? name).getD []
  match Numeral.ofValue? t with
  | some n => .ok n
  | none => .error (.illegalNumber t)

/-- The value of an expression, and the state with the variables that it sets. -/
def eval : Sum → Machine → Except SumError (Int × Machine)
  | .number n, m => .ok (n, m)
  | .variable name, m => do return (← lookup m name, m)
  | .unary op e, m => do
    let (n, m) ← e.eval m
    return (match op with
      | .plus => n
      | .minus => Numeral.wrap (-n)
      | .lnot => ofBool (n = 0)
      | .bitNot => -n - 1, m)
  | .binary op a b, m => do
    let (x, m) ← a.eval m
    let (y, m) ← b.eval m
    return (← apply op x y, m)
  | .and a b, m => do
    let (x, m) ← a.eval m
    if x = 0 then return (0, m)
    else
      let (y, m) ← b.eval m
      return (ofBool (y ≠ 0), m)
  | .or a b, m => do
    let (x, m) ← a.eval m
    if x ≠ 0 then return (1, m)
    else
      let (y, m) ← b.eval m
      return (ofBool (y ≠ 0), m)
  | .cond test yes no, m => do
    let (x, m) ← test.eval m
    if x ≠ 0 then yes.eval m else no.eval m
  | .assign name op e, m => do
    let (n, m) ← e.eval m
    let n ← match op with
      | none => pure n
      | some op => do apply op (← lookup m name) n
    if (m.variableNamed? name).any (·.isReadOnly) then .error (.readOnly name)
    else return (n, m.setVariable name (Text.ofInt n))

end Sum

end Postroom.Shell
