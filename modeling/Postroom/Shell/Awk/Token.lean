import Postroom.Text.Decimal

/-!
# The tokens of record programs

A record program is what `awk` runs over the records of its input.

* `Token.lex` — the tokens of the text of a program.

Whether a slash divides or begins an expression depends on the token in front of it.
-/

namespace Postroom.Shell.Awk

/-- What a token is. -/
inductive Lexeme where
  | number (x : Float) (spelling : Text)
  | text (t : Text)
  | regex (t : Text)
  | name (t : Text)
  /-- A name with a parenthesis right behind it. -/
  | callee (t : Text)
  /-- A word of the language. -/
  | word (s : String)
  /-- A function of the language. -/
  | function (s : String)
  | mark (s : String)
  | newline
  /-- A character that begins no token, and quotes that do not end. -/
  | stray (c : Char)
  | openText (t : Text)
  | openRegex (t : Text)
deriving Inhabited

/-- A token with the line it stands in. -/
structure Token where
  lexeme : Lexeme
  line : Nat
deriving Inhabited

namespace Token

/-- The words of the language. -/
def words : List String :=
  ["BEGIN", "END", "function", "func", "if", "else", "while", "do", "for", "in", "break",
    "continue", "next", "nextfile", "exit", "return", "delete", "getline", "print", "printf"]

/-- The functions of the language. -/
def functions : List String :=
  ["length", "substr", "index", "split", "sub", "gsub", "match", "sprintf", "sin", "cos", "atan2",
    "exp", "log", "sqrt", "int", "rand", "srand", "tolower", "toupper", "system", "close", "fflush"]

/-- The marks of the language, longer ones in front of those that they begin with, with the marks
that they mean. -/
def marks : List (String × String) :=
  [("&&", "&&"), ("||", "||"), ("==", "=="), ("!=", "!="), ("<=", "<="), (">=", ">="),
    ("!~", "!~"), ("++", "++"), ("--", "--"), ("+=", "+="), ("-=", "-="), ("*=", "*="),
    ("/=", "/="), ("%=", "%="), ("^=", "^="), (">>", ">>")]
    ++ ["\x7b", "\x7d", "(", ")", "[", "]", ";", ",", "+", "-", "*", "/", "%", "^", "!", "<", ">",
      "|", "?", ":", "~", "$", "="].map fun s => (s, s)

/-- The octal number at the front of a text, of at most so many digits. -/
def octal : Nat → Nat → Text → Nat × Text
  | digits + 1, n, c :: rest =>
    if '0' ≤ c ∧ c ≤ '7' then octal digits (8 * n + (c.toNat - '0'.toNat)) rest else (n, c :: rest)
  | _, n, t => (n, t)

/-- What a letter behind a backslash stands for. -/
def escaped? (c : Char) : Option Char :=
  match c with
  | '"' => some '"'
  | '\\' => some '\\'
  | 'a' => some '\x07'
  | 'b' => some '\x08'
  | 'f' => some '\x0c'
  | 'n' => some '\n'
  | 'r' => some '\r'
  | 't' => some '\t'
  | 'v' => some '\x0b'
  | _ => none

/-- A text with its escapes read, with the given fuel; others stay as they are. -/
def unescapeFrom : Nat → Text → Text
  | 0, _ | _, [] => []
  | fuel + 1, '\\' :: c :: rest =>
    match escaped? c with
    | some d => d :: unescapeFrom fuel rest
    | none =>
      if '0' ≤ c ∧ c ≤ '7' then
        let (n, rest) := octal 3 0 (c :: rest)
        Char.ofNat (n % 256) :: unescapeFrom fuel rest
      else if c = '\n' then unescapeFrom fuel rest
      else '\\' :: c :: unescapeFrom fuel rest
  | fuel + 1, c :: rest => c :: unescapeFrom fuel rest

/-- A text with its escapes read. -/
def unescape (t : Text) : Text :=
  unescapeFrom t.length t

/-- The raw text in front of a quote and what follows that, unless the line ends first.  A backslash
keeps the character behind it. -/
def quoted? : Text → Option (Text × Text)
  | [] => none
  | '\\' :: c :: rest => (quoted? rest).map fun (t, behind) => ('\\' :: c :: t, behind)
  | c :: rest =>
    if c = '"' then some ([], rest)
    else if c = '\n' then none
    else (quoted? rest).map fun (t, behind) => (c :: t, behind)

/-- How far a bracket of an expression is open. -/
inductive Bracket where
  | closed
  /-- Nothing, or a negation, stands in the bracket. -/
  | fresh (isNegated : Bool)
  | filled
deriving DecidableEq, Repr

/-- The raw expression in front of a slash and what follows that, unless the line ends first.  A
backslash or a bracket keeps a slash. -/
def expression? : Bracket → Text → Option (Text × Text)
  | _, [] => none
  | b, '\\' :: c :: rest =>
    (expression? (if b = .closed then b else .filled) rest).map fun (t, behind) =>
      ('\\' :: c :: t, behind)
  | b, c :: rest =>
    if c = '/' ∧ b = .closed then some ([], rest)
    else if c = '\n' then none
    else
      let b : Bracket :=
        match b with
        | .closed => if c = '[' then .fresh false else .closed
        | .fresh false => if c = '^' then .fresh true else .filled
        | .fresh true => .filled
        | .filled => if c = ']' then .closed else .filled
      (expression? b rest).map fun (t, behind) => (c :: t, behind)

/-- A character of a name. -/
def isNameChar (c : Char) : Bool :=
  c.isAlphanum || c = '_'

/-- An operand ends with the token, so that a slash behind it divides. -/
def endsOperand : Lexeme → Bool
  | .number _ _ | .text _ | .regex _ | .name _ => true
  | .function s => s = "length"
  | .mark s => s = ")" || s = "]" || s = "$" || s = "++" || s = "--"
  | _ => false

/-- The lexeme of a word. -/
def ofWord (t : Text) (isCalled : Bool) : Lexeme :=
  let s := String.ofList t
  if words.contains s then .word (if s = "func" then "function" else s)
  else if functions.contains s then .function s
  else if isCalled then .callee t
  else .name t

/-- The lexeme at the front of a text that begins with no blank, and what follows it.  No lexeme
that is not open takes nothing. -/
def next (divides : Bool) (t : Text) : Lexeme × Text :=
  match t with
  | [] => (.newline, [])
  | c :: rest =>
    if c = '"' then
      match quoted? rest with
      | some (s, rest) => (.text (unescape s), rest)
      | none => (.openText rest, [])
    else if c = '/' ∧ !divides then
      match expression? .closed rest with
      | some (s, rest) => (.regex s, rest)
      | none => (.openRegex rest, [])
    else if c.isAlpha ∨ c = '_' then
      let name := t.takeWhile isNameChar
      let rest := t.drop name.length
      (ofWord name (rest.head? = some '('), rest)
    else
      match if c.isDigit ∨ c = '.' then Decimal.unsigned? t else none with
      | some (x, rest) => (.number x (t.take (t.length - rest.length)), rest)
      | none =>
        match marks.find? fun m => m.1.toList.isPrefixOf t with
        | some (spelling, s) => (.mark s, t.drop spelling.length)
        | none => (.stray c, rest)

/-- The tokens of a text, with the given fuel. -/
def lexFrom : Nat → Nat → Bool → Text → List Token
  | 0, _, _, _ | _, _, _, [] => []
  | fuel + 1, line, divides, c :: rest =>
    if c = ' ' ∨ c = '\t' ∨ c = '\r' then lexFrom fuel line divides rest
    else if c = '\n' then ⟨.newline, line⟩ :: lexFrom fuel (line + 1) false rest
    else if c = '#' then lexFrom fuel line divides (rest.dropWhile (· ≠ '\n'))
    else if c = '\\' ∧ rest.head? = some '\n' then lexFrom fuel (line + 1) divides (rest.drop 1)
    else
      let (l, behind) := next divides (c :: rest)
      ⟨l, line⟩ :: lexFrom fuel line (endsOperand l) behind

/-- The tokens of a program. -/
def lex (t : Text) : List Token :=
  lexFrom (t.length + 1) 1 false t

end Token

end Postroom.Shell.Awk
