import Postroom.Shell.Arithmetic

/-!
# Conditions

The conditions on texts, numbers and files that the command `test` decides.

* `Condition.holds` — whether the condition that arguments are holds.
-/

namespace Postroom.Shell

/-- Why arguments are no condition. -/
inductive ConditionError where
  | unexpectedOperator (t : Text)
  | argumentExpected (operator : Text)
  | parenthesisExpected
  | illegalNumber (t : Text)
deriving DecidableEq, Repr

/-- The wording of the cause. -/
def ConditionError.message : ConditionError → Text
  | .unexpectedOperator t =>
    (if t.isEmpty then [] else t ++ ": ".toList) ++ "unexpected operator".toList
  | .argumentExpected op => op ++ ": argument expected".toList
  | .parenthesisExpected => "closing paren expected".toList
  | .illegalNumber t => "Illegal number: ".toList ++ t

namespace Condition

/-- What an argument may be within a condition. -/
inductive Role where
  | unary
  | binary
  | negation
  | conjunction
  | disjunction
  | opening
  | closing
  | operand
  | ending
deriving DecidableEq, Repr

/-- The letters of the operators on one operand. -/
def unaryLetters : Text :=
  "rwxefdcbpugkstznhLOGS".toList

/-- The operators on two operands. -/
def binaryOperators : List Text :=
  [['='], "!=".toList, ['<'], ['>'], "-eq".toList, "-ne".toList, "-ge".toList, "-gt".toList,
    "-le".toList, "-lt".toList, "-nt".toList, "-ot".toList, "-ef".toList]

/-- What an argument is as an operator. -/
def operator? (t : Text) : Option Role :=
  match t with
  | ['!'] => some .negation
  | ['('] => some .opening
  | [')'] => some .closing
  | ['-', 'a'] => some .conjunction
  | ['-', 'o'] => some .disjunction
  | ['-', c] => if unaryLetters.contains c then some .unary else none
  | _ => if binaryOperators.contains t then some .binary else none

/-- What the first of the arguments is: an operator on one operand is itself an operand where it is
the last argument or one of two operands. -/
def role (ts : List Text) : Role :=
  match ts with
  | [] => .ending
  | t :: rest =>
    match operator? t with
    | none => .operand
    | some .unary =>
      match rest with
      | [] => .operand
      | [_] => .unary
      | next :: _ => if operator? next = some .binary then .operand else .unary
    | some .opening => if rest.isEmpty then .operand else .opening
    | some r => r

/-- The number that an argument stands for in decimal notation. -/
def number (t : Text) : Except ConditionError Int :=
  let (isNegative, behind) : Bool × Text :=
    match t.dropWhile Numeral.isSpace with
    | '-' :: behind => (true, behind)
    | '+' :: behind => (false, behind)
    | behind => (false, behind)
  let (value, count, rest) := Numeral.digits 10 0 0 behind
  let n : Int := if isNegative then -value else value
  if count = 0 ∨ !rest.all Numeral.isSpace ∨ !Numeral.isWord n then .error (.illegalNumber t)
  else .ok n

/-- Decides a condition on one operand. -/
def unary (m : Machine) (op operand : Text) : Bool :=
  match op with
  | ['-', 'z'] => operand.isEmpty
  | ['-', 'n'] => !operand.isEmpty
  | ['-', 'f'] => (m.file? operand).isSome || m.isProgram operand
  | ['-', 'd'] => m.isDirectory operand
  | ['-', 's'] => (m.file? operand).any (fun f => m.contents f ≠ []) || m.isDirectory operand
    || m.isProgram operand
  | ['-', 'x'] => (m.file? operand).any (·.isExecutable) || m.isDirectory operand
    || m.isProgram operand
  | ['-', 'L'] | ['-', 'h'] => (m.link? operand).isSome
  | ['-', 'c'] => m.isDevice operand || Machine.isTerminal (m.locate operand)
  | ['-', 'e'] | ['-', 'r'] | ['-', 'w'] | ['-', 'O'] | ['-', 'G'] => m.doesExist operand
  | _ => false

/-- Decides a condition on two operands. -/
def binary (m : Machine) (op a b : Text) : Except ConditionError Bool :=
  let compare (p : Int → Int → Bool) : Except ConditionError Bool := do
    return p (← number a) (← number b)
  match String.ofList op with
  | "=" => .ok (a = b)
  | "!=" => .ok (a ≠ b)
  | "<" => .ok (decide (a < b))
  | ">" => .ok (decide (b < a))
  | "-eq" => compare fun a b => a = b
  | "-ne" => compare fun a b => a ≠ b
  | "-ge" => compare fun a b => b ≤ a
  | "-gt" => compare fun a b => b < a
  | "-le" => compare fun a b => a ≤ b
  | "-lt" => compare fun a b => a < b
  | "-ef" =>
    let body (t : Text) : Option Nat := (m.file? t).map (·.body)
    let isOne := m.locate a = m.locate b || (body a).any fun n => body b = some n
    .ok (m.doesExist a && m.doesExist b && isOne)
  | _ => .ok false

mutual

/-- Decides conditions one of which has to hold.  The arguments that are left begin with the last
one that has been looked at. -/
def disjunction (m : Machine) : Nat → Role → List Text → Except ConditionError (Bool × List Text)
  | 0, _, ts => .ok (false, ts)
  | fuel + 1, r, ts => do
    let (a, ts) ← conjunction m fuel r ts
    if role (ts.drop 1) = .disjunction then
      let (b, ts) ← disjunction m fuel (role (ts.drop 2)) (ts.drop 2)
      return (a || b, ts)
    else return (a, ts)

/-- Decides conditions all of which have to hold. -/
def conjunction (m : Machine) : Nat → Role → List Text → Except ConditionError (Bool × List Text)
  | 0, _, ts => .ok (false, ts)
  | fuel + 1, r, ts => do
    let (a, ts) ← negation m fuel r ts
    if role (ts.drop 1) = .conjunction then
      let (b, ts) ← conjunction m fuel (role (ts.drop 2)) (ts.drop 2)
      return (a && b, ts)
    else return (a, ts)

/-- Decides a condition that may be negated. -/
def negation (m : Machine) : Nat → Role → List Text → Except ConditionError (Bool × List Text)
  | 0, _, ts => .ok (false, ts)
  | fuel + 1, r, ts =>
    if r = .negation then do
      let next := role (ts.drop 1)
      let (a, ts) ← negation m fuel next (if next = .ending then ts else ts.drop 1)
      return (!a, ts)
    else primary m fuel r ts

/-- Decides a condition on one or two operands, or in parentheses. -/
def primary (m : Machine) : Nat → Role → List Text → Except ConditionError (Bool × List Text)
  | 0, _, ts => .ok (false, ts)
  | fuel + 1, r, ts =>
    match r, ts with
    | .ending, _ | _, [] => .ok (false, ts)
    | .opening, _ :: rest =>
      if role rest = .closing then .ok (false, rest)
      else do
        let (a, rest) ← disjunction m fuel (role rest) rest
        if role (rest.drop 1) = .closing then return (a, rest.drop 1)
        else .error .parenthesisExpected
    | .unary, op :: rest =>
      match rest with
      | [] => .error (.argumentExpected op)
      | operand :: _ => .ok (unary m op operand, rest)
    | _, a :: rest =>
      if role rest = .binary then
        match rest with
        | op :: b :: behind => do return (← binary m op a b, b :: behind)
        | op :: [] => .error (.argumentExpected op)
        | [] => .ok (a ≠ [], ts)
      else .ok (a ≠ [], ts)

end

/-- Decides a condition, with parentheses around all of it dropped. -/
def decideAll (m : Machine) (r : Role) (ts : List Text) : Except ConditionError Bool := do
  let (a, rest) ← disjunction m (8 * ts.length + 8) r ts
  match rest with
  | t :: _ :: _ => .error (.unexpectedOperator t)
  | _ => return a

/-- The condition that arguments are holds. -/
def holds (m : Machine) : List Text → Except ConditionError Bool
  | [] => .ok false
  | [a, op, b] =>
    if operator? op = some .binary then decideAll m .operand [a, op, b]
    else if a = ['('] ∧ b = [')'] then decideAll m (role [op]) [op]
    else if a = ['!'] then do return !(← holds m [op, b])
    else decideAll m (role [a, op, b]) [a, op, b]
  | [a, b, c, d] =>
    if a = ['('] ∧ d = [')'] then decideAll m (role [b, c]) [b, c]
    else if a = ['!'] then do return !(← holds m [b, c, d])
    else decideAll m (role [a, b, c, d]) [a, b, c, d]
  | ts => decideAll m (role ts) ts

end Condition

end Postroom.Shell
