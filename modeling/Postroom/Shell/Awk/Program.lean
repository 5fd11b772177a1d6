import Postroom.Shell.Awk.Token
import Postroom.Shell.Regex

/-!
# Record programs

A record program is a row of rules: each has a pattern of the records that it is for, and what is
done with them.

* `Program.parse` — reads a program, or tells where it goes wrong.
-/

namespace Postroom.Shell.Awk

/-- An operation on two numbers. -/
inductive Operation where
  | add
  | sub
  | mul
  | div
  | mod
  | power
deriving DecidableEq, Repr

/-- A comparison. -/
inductive Comparison where
  | lt
  | le
  | eq
  | ne
  | gt
  | ge
deriving DecidableEq, Repr

/-- What lines are taken from. -/
inductive Origin where
  | records
  | file
  | command
deriving DecidableEq, Repr

/-- An expression. -/
inductive Expr where
  | number (x : Float)
  | text (t : Text)
  /-- The record matches, unless the expression is the pattern of an operation or a function. -/
  | regex (r : Regex)
  | field (e : Expr)
  | variable (name : Text)
  | element (table : Text) (index : List Expr)
  | assign (op : Option Operation) (target value : Expr)
  | choice (test yes no : Expr)
  | or (a b : Expr)
  | and (a b : Expr)
  | not (a : Expr)
  | member (index : List Expr) (table : Text)
  | isMatch (negated : Bool) (a b : Expr)
  | compare (c : Comparison) (a b : Expr)
  | join (a b : Expr)
  | operate (op : Operation) (a b : Expr)
  | negate (a : Expr)
  | plus (a : Expr)
  /-- A step of a number by one, whose value is the number in front of the step or behind it. -/
  | step (up givesNew : Bool) (target : Expr)
  /-- A function of the language, and one of the program. -/
  | builtin (name : String) (arguments : List Expr)
  | call (name : Text) (arguments : List Expr)
  /-- Takes a line from an origin that the last expression names. -/
  | line (o : Origin) (target : Option Expr) (source : Option Expr)
  /-- Expressions in parentheses. -/
  | several (es : List Expr)
deriving Inhabited

/-- Where output goes to. -/
inductive Destination where
  | output
  | file (appends : Bool) (path : Expr)
  | command (line : Expr)
deriving Inhabited

/-- A statement. -/
inductive Statement where
  | expr (e : Expr)
  | print (es : List Expr) (d : Destination)
  | format (es : List Expr) (d : Destination)
  | branch (test : Expr) (yes : Statement) (no : Option Statement)
  | loop (test : Option Expr) (body : Statement) (after : Option Statement)
  /-- A loop whose test comes behind its body. -/
  | loopLate (body : Statement) (test : Expr)
  | each (name table : Text) (body : Statement)
  | block (ss : List Statement)
  | next
  | nextFile
  | exit (status : Option Expr)
  | leaveLoop
  | goOn
  | return (value : Option Expr)
  | delete (table : Text) (index : List Expr)
  | clear (table : Text)
deriving Inhabited

/-- The records that a rule is for. -/
inductive Pattern where
  | begin
  | finish
  | always
  | test (e : Expr)
  | range (first last : Expr)

/-- A rule; without a statement it writes the record. -/
structure Rule where
  pattern : Pattern
  action : Option Statement

/-- A function of a program. -/
structure Function where
  name : Text
  parameters : List Text
  body : Statement

/-- A program. -/
structure Program where
  rules : List Rule
  functions : List Function

/-- Why a text is no program. -/
inductive Flaw where
  | unexpected (l : Lexeme)
  | unclosedParenthesis (l : Lexeme)
  | unclosedBrace
  | extraBrace
  | runawayText (t : Text)
  | runawayRegex (t : Text)
  | stray (c : Char)
  | badRegex (e : RegexError) (t : Text)
  | unknownFunction (name : Text)
  | noArguments
  | wrongTarget

/-- The spelling of a lexeme in complaints. -/
def Lexeme.spelling : Lexeme → Text
  | .number _ t => t
  | .text t => '"' :: t ++ ['"']
  | .regex t => '/' :: t ++ ['/']
  | .name t | .callee t => t
  | .word s | .function s | .mark s => s.toList
  | .newline => "end of line".toList
  | .stray c => [c]
  | .openText t | .openRegex t => t

/-- The wording of the cause of a flaw in the given line. -/
def Flaw.message (line : Nat) (f : Flaw) : Text :=
  let front := "line ".toList ++ Text.ofNat line ++ ": ".toList
  let brief (t : Text) : Text := t.take 10 ++ " ...".toList
  match f with
  | .unexpected l => front ++ "syntax error at or near ".toList ++ l.spelling
  | .unclosedParenthesis l => front ++ "missing ) near ".toList ++ l.spelling
  | .unclosedBrace => front ++ "missing \x7d near end of file".toList
  | .extraBrace => front ++ "extra '\x7d'".toList
  | .runawayText t => front ++ "runaway string constant \"".toList ++ brief t
  | .runawayRegex t => front ++ "runaway regular expression /".toList ++ brief t
  | .stray c => Text.ofNat line ++ ": unexpected character '".toList ++ [c, '\'']
  | .badRegex e t =>
    let why := match e with
      | .unmatchedParenthesis _ => "missing ')'"
      | .unmatchedBracket => "missing ']'"
      | .nothingToRepeat => "missing operand"
      | _ => "bad class -- [], [^] or ["
    front ++ "regular expression compile failed (".toList ++ why.toList ++ ")\n".toList ++ t
  | .unknownFunction name => front ++ "function ".toList ++ name ++ " never defined".toList
  | .noArguments => front ++ "no arguments in call to printf".toList
  | .wrongTarget => front ++ "syntax error at or near =".toList

namespace Program

/-- Where an expression stands: whether `in` and `>` belong to what is around it. -/
structure Place where
  leavesIn : Bool
  leavesGreater : Bool

/-- An expression that stands for itself. -/
def Place.free : Place :=
  ⟨false, false⟩

/-- The flaw of tokens that do not go on as they should. -/
def unexpected {α : Type} (ts : List Token) : Except (Flaw × Nat) α :=
  match ts with
  | [] => .error (.unclosedBrace, 0)
  | t :: _ =>
    .error (match t.lexeme with
      | .openText s => .runawayText s
      | .openRegex s => .runawayRegex s
      | .stray c => .stray c
      | l => .unexpected l, t.line)

/-- Drops the ends of lines. -/
def skipLines (ts : List Token) : List Token :=
  ts.dropWhile fun t => t.lexeme matches .newline

/-- Drops the ends of lines and of statements. -/
def skipEnds (ts : List Token) : List Token :=
  ts.dropWhile fun t =>
    match t.lexeme with
    | .newline => true
    | .mark s => s = ";"
    | _ => false

/-- Takes a mark. -/
def expect (s : String) (ts : List Token) : Except (Flaw × Nat) (List Token) :=
  match ts with
  | ⟨.mark m, line⟩ :: rest =>
    if m = s then .ok rest
    else if s = ")" ∧ (m = ";" ∨ m = "\x7d") then .error (.unclosedParenthesis (.mark m), line)
    else unexpected ts
  | ⟨.newline, line⟩ :: _ =>
    if s = ")" then .error (.unclosedParenthesis .newline, line) else unexpected ts
  | _ => unexpected ts

/-- A mark comes next. -/
def isNext (s : String) (ts : List Token) : Bool :=
  match ts with
  | ⟨.mark m, _⟩ :: _ => m = s
  | _ => false

/-- The operation of a level at the front of tokens, and what follows it. -/
def operation? (level : Nat) (p : Place) (ts : List Token) :
    Option ((Expr → Expr → Expr) × List Token) :=
  match ts with
  | ⟨.mark m, _⟩ :: rest =>
    match level, m with
    | 0, "||" => some (.or, skipLines rest)
    | 1, "&&" => some (.and, skipLines rest)
    | 3, "~" => some (.isMatch false, rest)
    | 3, "!~" => some (.isMatch true, rest)
    | 4, "<" => some (.compare .lt, rest)
    | 4, "<=" => some (.compare .le, rest)
    | 4, "==" => some (.compare .eq, rest)
    | 4, "!=" => some (.compare .ne, rest)
    | 4, ">=" => some (.compare .ge, rest)
    | 4, ">" => if p.leavesGreater then none else some (.compare .gt, rest)
    | 6, "+" => some (.operate .add, rest)
    | 6, "-" => some (.operate .sub, rest)
    | 7, "*" => some (.operate .mul, rest)
    | 7, "/" => some (.operate .div, rest)
    | 7, "%" => some (.operate .mod, rest)
    | _, _ => none
  | _ => none

/-- An operand that is joined to one in front of it may begin with the tokens. -/
def beginsOperand (ts : List Token) : Bool :=
  match ts with
  | ⟨l, _⟩ :: _ =>
    match l with
    | .number _ _ | .text _ | .name _ | .callee _ | .function _ | .regex _ => true
    | .mark m => m = "(" || m = "$" || m = "!" || m = "++" || m = "--"
    | _ => false
  | [] => false

/-- The operation that an assignment does besides, if the tokens begin with one. -/
def assignment? (ts : List Token) : Option (Option Operation × List Token) :=
  match ts with
  | ⟨.mark m, _⟩ :: rest =>
    match m with
    | "=" => some (none, rest)
    | "+=" => some (some .add, rest)
    | "-=" => some (some .sub, rest)
    | "*=" => some (some .mul, rest)
    | "/=" => some (some .div, rest)
    | "%=" => some (some .mod, rest)
    | "^=" => some (some .power, rest)
    | _ => none
  | _ => none

/-- Something can be assigned to the expression. -/
def isTarget : Expr → Bool
  | .field _ | .variable _ | .element _ _ => true
  | _ => false

/-- The level of the operations that bind most tightly, but for signs and powers. -/
def lastLevel : Nat := 8

mutual

/-- Reads an expression. -/
def expr : Nat → Place → List Token → Except (Flaw × Nat) (Expr × List Token)
  | 0, _, ts => unexpected ts
  | fuel + 1, p, ts => do
    let (test, rest) ← binary fuel 0 p ts
    if isNext "?" rest then
      let (yes, rest) ← expr fuel p (skipLines (rest.drop 1))
      let rest ← expect ":" (skipLines rest)
      let (no, rest) ← expr fuel p (skipLines rest)
      return (.choice test yes no, rest)
    else return (test, rest)

/-- Reads operations of a level and of those that bind more tightly. -/
def binary : Nat → Nat → Place → List Token → Except (Flaw × Nat) (Expr × List Token)
  | 0, _, _, ts => unexpected ts
  | fuel + 1, level, p, ts =>
    if level = lastLevel then signed fuel p ts
    else do
      let (a, rest) ← binary fuel (level + 1) p ts
      more fuel level p a rest

/-- Reads what goes on behind an operand. -/
def more : Nat → Nat → Place → Expr → List Token → Except (Flaw × Nat) (Expr × List Token)
  | 0, _, _, _, ts => unexpected ts
  | fuel + 1, level, p, a, ts =>
    match operation? level p ts with
    | some (make, rest) => do
      let (b, rest) ← binary fuel (level + 1) p rest
      more fuel level p (make a b) rest
    | none =>
      match level, ts with
      | 2, ⟨.word "in", _⟩ :: ⟨.name table, _⟩ :: rest =>
        if p.leavesIn then .ok (a, ts)
        else
          let index := match a with
            | .several es => es
            | a => [a]
          more fuel level p (.member index table) rest
      | 5, ⟨.mark "|", _⟩ :: ⟨.word "getline", _⟩ :: rest => do
        let (target, rest) ← target? fuel p rest
        more fuel level p (.line .command target (some a)) rest
      | 5, _ =>
        if beginsOperand ts then do
          let (b, rest) ← binary fuel 6 p ts
          more fuel level p (.join a b) rest
        else .ok (a, ts)
      | _, _ => .ok (a, ts)

/-- Reads an operand with its sign. -/
def signed : Nat → Place → List Token → Except (Flaw × Nat) (Expr × List Token)
  | 0, _, ts => unexpected ts
  | fuel + 1, p, ts =>
    match ts with
    | ⟨.mark "!", _⟩ :: rest => do
      let (a, rest) ← signed fuel p rest
      return (.not a, rest)
    | ⟨.mark "-", _⟩ :: rest => do
      let (a, rest) ← signed fuel p rest
      return (.negate a, rest)
    | ⟨.mark "+", _⟩ :: rest => do
      let (a, rest) ← signed fuel p rest
      return (.plus a, rest)
    | _ => do
      let (a, rest) ← stepped fuel p ts
      if isNext "^" rest then
        let (b, rest) ← signed fuel p (rest.drop 1)
        return (.operate .power a b, rest)
      else return (a, rest)

/-- Reads an operand with a step behind it, or an assignment to it. -/
def stepped : Nat → Place → List Token → Except (Flaw × Nat) (Expr × List Token)
  | 0, _, ts => unexpected ts
  | fuel + 1, p, ts => do
    let (a, rest) ← operand fuel p ts
    if !isTarget a then return (a, rest)
    else if isNext "++" rest then return (.step true false a, rest.drop 1)
    else if isNext "--" rest then return (.step false false a, rest.drop 1)
    else
      match assignment? rest with
      | some (op, rest) =>
        let (value, rest) ← expr fuel p (skipLines rest)
        return (.assign op a value, rest)
      | none => return (a, rest)

/-- Reads something that can be assigned to, if there is such a thing. -/
def target? : Nat → Place → List Token → Except (Flaw × Nat) (Option Expr × List Token)
  | 0, _, ts => unexpected ts
  | fuel + 1, p, ts =>
    match ts with
    | ⟨.name _, _⟩ :: _ | ⟨.mark "$", _⟩ :: _ => do
      let (a, rest) ← operand fuel p ts
      return (some a, rest)
    | _ => .ok (none, ts)

/-- Reads an operand. -/
def operand : Nat → Place → List Token → Except (Flaw × Nat) (Expr × List Token)
  | 0, _, ts => unexpected ts
  | fuel + 1, p, ts =>
    match ts with
    | ⟨.number x _, _⟩ :: rest => .ok (.number x, rest)
    | ⟨.text t, _⟩ :: rest => .ok (.text t, rest)
    | ⟨.regex t, line⟩ :: rest =>
      match Regex.parse .records t with
      | .ok r => .ok (.regex r, rest)
      | .error e => .error (.badRegex e t, line)
    | ⟨.mark "(", _⟩ :: rest => do
      let (es, rest) ← several fuel .free (skipLines rest)
      let rest ← expect ")" (skipLines rest)
      match es with
      | [e] => return (if isTarget e then .several [e] else e, rest)
      | es => return (.several es, rest)
    | ⟨.mark "$", _⟩ :: rest => do
      let (a, rest) ← (match rest with
        | ⟨.mark "-", _⟩ :: rest => do
          let (a, rest) ← operand fuel p rest
          return (.negate a, rest)
        | _ => operand fuel p rest : Except (Flaw × Nat) (Expr × List Token))
      return (.field a, rest)
    | ⟨.mark "++", _⟩ :: rest => do
      let (a, rest) ← operand fuel p rest
      return (.step true true a, rest)
    | ⟨.mark "--", _⟩ :: rest => do
      let (a, rest) ← operand fuel p rest
      return (.step false true a, rest)
    | ⟨.name t, _⟩ :: ⟨.mark "[", _⟩ :: rest => do
      let (index, rest) ← several fuel .free rest
      let rest ← expect "]" rest
      return (.element t index, rest)
    | ⟨.name t, _⟩ :: rest => .ok (.variable t, rest)
    | ⟨.callee t, _⟩ :: rest => do
      let (es, rest) ← arguments fuel rest
      return (.call t es, rest)
    | ⟨.function s, _⟩ :: rest =>
      if isNext "(" rest then do
        let (es, rest) ← arguments fuel rest
        return (.builtin s es, rest)
      else if s = "length" then .ok (.builtin s [], rest)
      else unexpected rest
    | ⟨.word "getline", _⟩ :: rest => do
      let (target, rest) ← target? fuel p rest
      if isNext "<" rest then
        let (source, rest) ← operand fuel p (rest.drop 1)
        return (.line .file target (some source), rest)
      else return (.line .records target none, rest)
    | _ => unexpected ts

/-- Reads the arguments of a function in parentheses. -/
def arguments : Nat → List Token → Except (Flaw × Nat) (List Expr × List Token)
  | 0, ts => unexpected ts
  | fuel + 1, ts => do
    let rest ← expect "(" ts
    if isNext ")" (skipLines rest) then return ([], (skipLines rest).drop 1)
    else
      let (es, rest) ← several fuel .free (skipLines rest)
      let rest ← expect ")" (skipLines rest)
      return (es, rest)

/-- Reads expressions with commas between them. -/
def several : Nat → Place → List Token → Except (Flaw × Nat) (List Expr × List Token)
  | 0, _, ts => unexpected ts
  | fuel + 1, p, ts => do
    let (e, rest) ← expr fuel p ts
    if isNext "," rest then
      let (es, rest) ← several fuel p (skipLines (rest.drop 1))
      return (e :: es, rest)
    else return ([e], rest)

end

/-- A statement ends in front of the tokens. -/
def isAtEnd (ts : List Token) : Bool :=
  match ts with
  | [] | ⟨.newline, _⟩ :: _ | ⟨.mark ";", _⟩ :: _ | ⟨.mark "\x7d", _⟩ :: _ => true
  | _ => false

/-- Reads where output goes to. -/
def destination (fuel : Nat) (ts : List Token) :
    Except (Flaw × Nat) (Destination × List Token) :=
  match ts with
  | ⟨.mark ">", _⟩ :: rest => do
    let (e, rest) ← expr fuel ⟨false, true⟩ rest
    return (.file false e, rest)
  | ⟨.mark ">>", _⟩ :: rest => do
    let (e, rest) ← expr fuel ⟨false, true⟩ rest
    return (.file true e, rest)
  | ⟨.mark "|", _⟩ :: rest => do
    let (e, rest) ← expr fuel ⟨false, true⟩ rest
    return (.command e, rest)
  | _ => .ok (.output, ts)

/-- Reads what is to be written, and where to. -/
def output (fuel : Nat) (ts : List Token) :
    Except (Flaw × Nat) (List Expr × Destination × List Token) := do
  let (es, rest) ← (if isAtEnd ts ∨ isNext ">" ts ∨ isNext ">>" ts ∨ isNext "|" ts then .ok ([], ts)
    else several fuel ⟨false, true⟩ ts : Except (Flaw × Nat) (List Expr × List Token))
  let es := match es with
    | [.several es] => es
    | es => es
  let (d, rest) ← destination fuel rest
  return (es, d, rest)

/-- Reads an expression that may be missing. -/
def optional (fuel : Nat) (ts : List Token) : Except (Flaw × Nat) (Option Expr × List Token) :=
  if isAtEnd ts ∨ isNext ")" ts then .ok (none, ts)
  else do
    let (e, rest) ← expr fuel .free ts
    return (some e, rest)

/-- Reads a statement of one line, up to its end. -/
def simple (fuel : Nat) (ts : List Token) : Except (Flaw × Nat) (Statement × List Token) :=
  match ts with
  | ⟨.word "print", _⟩ :: rest => do
    let (es, d, rest) ← output fuel rest
    return (.print es d, rest)
  | ⟨.word "printf", line⟩ :: rest => do
    let (es, d, rest) ← output fuel rest
    if es.isEmpty then .error (.noArguments, line) else return (.format es d, rest)
  | ⟨.word "next", _⟩ :: rest => .ok (.next, rest)
  | ⟨.word "nextfile", _⟩ :: rest => .ok (.nextFile, rest)
  | ⟨.word "break", _⟩ :: rest => .ok (.leaveLoop, rest)
  | ⟨.word "continue", _⟩ :: rest => .ok (.goOn, rest)
  | ⟨.word "exit", _⟩ :: rest => do
    let (e, rest) ← optional fuel rest
    return (.exit e, rest)
  | ⟨.word "return", _⟩ :: rest => do
    let (e, rest) ← optional fuel rest
    return (.return e, rest)
  | ⟨.word "delete", _⟩ :: ⟨.name t, _⟩ :: ⟨.mark "[", _⟩ :: rest => do
    let (index, rest) ← several fuel .free rest
    let rest ← expect "]" rest
    return (.delete t index, rest)
  | ⟨.word "delete", _⟩ :: ⟨.name t, _⟩ :: rest => .ok (.clear t, rest)
  | _ => do
    let (e, rest) ← expr fuel .free ts
    return (.expr e, rest)

/-- Takes the end of a statement; a brace that closes stays. -/
def closed (ts : List Token) : Except (Flaw × Nat) (List Token) :=
  match ts with
  | ⟨.newline, _⟩ :: rest | ⟨.mark ";", _⟩ :: rest => .ok rest
  | [] | ⟨.mark "\x7d", _⟩ :: _ => .ok ts
  | ⟨.mark ")", line⟩ :: _ => .error (.unexpected (.mark ")"), line)
  | _ => unexpected ts

mutual

/-- Reads a statement with its end. -/
def statement : Nat → List Token → Except (Flaw × Nat) (Statement × List Token)
  | 0, ts => unexpected ts
  | fuel + 1, ts =>
    match ts with
    | ⟨.mark "\x7b", _⟩ :: rest => do
      let (ss, rest) ← statements fuel rest
      return (.block ss, rest)
    | ⟨.mark ";", _⟩ :: rest => .ok (.block [], rest)
    | ⟨.word "if", _⟩ :: rest => do
      let (test, rest) ← test fuel rest
      let (yes, rest) ← statement fuel (skipLines rest)
      match skipEnds rest with
      | ⟨.word "else", _⟩ :: rest =>
        let (no, rest) ← statement fuel (skipLines rest)
        return (.branch test yes (some no), rest)
      | _ => return (.branch test yes none, rest)
    | ⟨.word "while", _⟩ :: rest => do
      let (test, rest) ← test fuel rest
      let (body, rest) ← statement fuel (skipLines rest)
      return (.loop (some test) body none, rest)
    | ⟨.word "do", _⟩ :: rest => do
      let (body, rest) ← statement fuel (skipLines rest)
      match skipEnds rest with
      | ⟨.word "while", _⟩ :: rest =>
        let (test, rest) ← test fuel rest
        return (.loopLate body test, ← closed rest)
      | rest => unexpected rest
    | ⟨.word "for", _⟩ :: rest => do
      let rest ← expect "(" rest
      match rest with
      | ⟨.name t, _⟩ :: ⟨.word "in", _⟩ :: ⟨.name table, _⟩ :: ⟨.mark ")", _⟩ :: rest =>
        let (body, rest) ← statement fuel (skipLines rest)
        return (.each t table body, rest)
      | _ =>
        let (first, rest) ← part fuel rest
        let rest ← expect ";" rest
        let (test, rest) ← optional fuel (skipLines rest)
        let rest ← expect ";" rest
        let (after, rest) ← part fuel (skipLines rest)
        let rest ← expect ")" rest
        let (body, rest) ← statement fuel (skipLines rest)
        let loop := Statement.loop test body after
        return (match first with
          | some s => .block [s, loop]
          | none => loop, rest)
    | _ => do
      let (s, rest) ← simple fuel ts
      return (s, ← closed rest)

/-- Reads a test in parentheses. -/
def test : Nat → List Token → Except (Flaw × Nat) (Expr × List Token)
  | 0, ts => unexpected ts
  | fuel + 1, ts => do
    let rest ← expect "(" ts
    let (e, rest) ← expr fuel .free rest
    return (e, ← expect ")" rest)

/-- Reads a statement in the head of a loop, if there is one. -/
def part : Nat → List Token → Except (Flaw × Nat) (Option Statement × List Token)
  | 0, ts => unexpected ts
  | fuel + 1, ts =>
    if isNext ";" ts ∨ isNext ")" ts then .ok (none, ts)
    else do
      let (s, rest) ← simple fuel ts
      return (some s, rest)

/-- Reads statements up to the brace that closes them. -/
def statements : Nat → List Token → Except (Flaw × Nat) (List Statement × List Token)
  | 0, ts => unexpected ts
  | fuel + 1, ts =>
    match skipEnds ts with
    | ⟨.mark "\x7d", _⟩ :: rest => .ok ([], rest)
    | [] => unexpected []
    | ts => do
      let (s, rest) ← statement fuel ts
      let (ss, rest) ← statements fuel rest
      return (s :: ss, rest)

end

/-- Reads the names of parameters. -/
def parameters : List Token → Except (Flaw × Nat) (List Text × List Token)
  | ⟨.name t, _⟩ :: ⟨.mark ",", _⟩ :: rest => do
    let (ts, rest) ← parameters (rest.dropWhile fun t => t.lexeme matches .newline)
    return (t :: ts, rest)
  | ⟨.name t, _⟩ :: ⟨.mark ")", _⟩ :: rest => .ok ([t], rest)
  | ⟨.mark ")", _⟩ :: rest => .ok ([], rest)
  | ts => unexpected ts
termination_by ts => ts.length
decreasing_by
  have := (List.dropWhile_sublist (l := rest) fun t : Token => t.lexeme matches .newline).length_le
  simp only [List.length_cons]
  omega

/-- Reads the action of a rule, if it has one. -/
def action (fuel : Nat) (ts : List Token) : Except (Flaw × Nat) (Option Statement × List Token) :=
  if isNext "\x7b" ts then do
    let (s, rest) ← statement fuel ts
    return (some s, rest)
  else
    match ts with
    | [] | ⟨.newline, _⟩ :: _ | ⟨.mark ";", _⟩ :: _ => .ok (none, ts)
    | _ => unexpected ts

/-- Reads a pattern. -/
def pattern (fuel : Nat) (ts : List Token) : Except (Flaw × Nat) (Pattern × List Token) :=
  match ts with
  | ⟨.word "BEGIN", _⟩ :: rest => .ok (.begin, rest)
  | ⟨.word "END", _⟩ :: rest => .ok (.finish, rest)
  | _ =>
    if isNext "\x7b" ts then .ok (.always, ts)
    else do
      let (first, rest) ← expr fuel .free ts
      if isNext "," rest then
        let (last, rest) ← expr fuel .free (skipLines (rest.drop 1))
        return (.range first last, rest)
      else return (.test first, rest)

/-- Reads rules and functions, with the given fuel. -/
def itemsFrom (depth : Nat) : Nat → List Token → Except (Flaw × Nat) Program
  | 0, ts => unexpected ts
  | fuel + 1, ts =>
    match skipEnds ts with
    | [] => .ok ⟨[], []⟩
    | ⟨.mark "\x7d", line⟩ :: _ => .error (.extraBrace, line)
    | ⟨.word "function", _⟩ :: ⟨l, line⟩ :: rest =>
      match l with
      | .name t | .callee t => do
        let rest ← expect "(" rest
        let (ps, rest) ← parameters rest
        let rest := skipLines rest
        if !isNext "\x7b" rest then unexpected rest
        else
          let (body, rest) ← statement depth rest
          let p ← itemsFrom depth fuel rest
          return { p with functions := ⟨t, ps, body⟩ :: p.functions }
      | l => unexpected [⟨l, line⟩]
    | ts => do
      let (pattern, rest) ← pattern depth ts
      let (action, rest) ← action depth rest
      let p ← itemsFrom depth fuel rest
      return { p with rules := ⟨pattern, action⟩ :: p.rules }

/-- A function that is called and is not there, with the line. -/
def unknownFunction? (p : Program) (ts : List Token) : Option (Text × Nat) :=
  ts.findSome? fun t =>
    match t.lexeme with
    | .callee name => if p.functions.any (·.name = name) then none else some (name, t.line)
    | _ => none

/-- Reads a program, or gives what is wrong with it and the line. -/
def parse (t : Text) : Except (Flaw × Nat) Program :=
  let ts := Token.lex t
  let lastLine := t.count '\n' + 2
  match itemsFrom (20 * ts.length + 100) (ts.length + 1) ts with
  | .ok p =>
    match unknownFunction? p ts with
    | some (name, _) => .error (.unknownFunction name, lastLine)
    | none => .ok p
  | .error (f, line) => .error (f, if line = 0 then lastLine else line)

end Program

end Postroom.Shell.Awk
