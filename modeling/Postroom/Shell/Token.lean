import Postroom.Shell.Nesting

/-!
# Shell words

How a command line is cut into words and operators.  The reading is one pass: `Lexing.step` takes a
character, and the mode of a `Lexing` says what quotes it stands in.

* `Shell.lex` — the tokens of a command line;
* `Word.inner` — the word within a braced parameter, a here-document and the like;
* `Shell.quote` — a text as one word that stands for itself.
-/

namespace Postroom.Shell

/-- A piece of a word: a character that stands for itself, a mark of quotes, or the text of an
expansion, which is a parameter, a parameter with a word of its own, a command line, in parentheses
or in backquotes, or an arithmetic expression. -/
inductive Piece where
  | char (c : Char) (quoted : Bool)
  | quotes
  | param (name : Text) (quoted : Bool)
  | braced (content : Text) (quoted : Bool)
  | command (line : Text) (ticked quoted : Bool)
  | arithmetic (expression : Text) (quoted : Bool)
deriving DecidableEq, Repr

/-- A word of a command line. -/
abbrev Word := List Piece

namespace Word

/-- The text of a word in which nothing is to be replaced. -/
def value? : Word → Option Text
  | [] => some []
  | .char c _ :: rest => (value? rest).map (c :: ·)
  | .quotes :: rest => value? rest
  | _ :: _ => none

/-- The text of a word nothing of which is quoted; only such words are keywords. -/
def bare? (w : Word) : Option Text :=
  w.mapM fun
    | .char c false => some c
    | _ => none

/-- A text as a word all of which is quoted. -/
def ofText (t : Text) : Word :=
  t.map fun c => .char c true

end Word

/-- What a token of a command line is.  A descriptor is a digit right in front of a redirection; a
document stands in the place of the word that ends it. -/
inductive Lexeme where
  | word (w : Word)
  | operator (t : Text)
  | descriptor (n : Nat)
  | newline
  | document (body : Text) (isLiteral : Bool)
  /-- What stands here cannot be read, for the given reason. -/
  | broken (why : Text)
deriving DecidableEq, Repr

/-- A token of a command line, and the number of the line that it ends in. -/
structure Token where
  lexeme : Lexeme
  line : Nat
deriving DecidableEq, Repr

/-- What a text is read as: commands, the word of a braced parameter, outside and inside double
quotes, or a here-document. -/
inductive Base where
  | commands
  | word
  | quotedWord
  | document
deriving DecidableEq, Repr

/-- What quotes the reading stands in. -/
inductive Mode where
  | bare
  /-- Behind a backslash. -/
  | escaped
  | single
  | double
  /-- Behind a backslash in double quotes. -/
  | doubleEscaped
  | comment
  /-- In an operator that may go on. -/
  | operator (read : Text)
  /-- Behind a dollar sign. -/
  | dollar (quoted : Bool)
  /-- In the name of a parameter. -/
  | name (quoted : Bool) (read : Text)
  /-- In the text of an expansion. -/
  | nested (quoted : Bool) (n : Nesting)
  /-- In the body of a here-document, with its complete rows and the one at hand, which is kept last
  character first. -/
  | document (body row : Text)
deriving DecidableEq, Repr

/-- A here-document that begins behind the line at hand: where its token stands, counted from the
first one, and what its body is like. -/
structure Pending where
  place : Nat
  delimiter : Text
  isLiteral : Bool
  dropsTabs : Bool
deriving DecidableEq, Repr

/-- What has been read: the complete tokens, last one first, the word at hand, the mode, and the
here-documents to come. -/
structure Lexing where
  base : Base
  line : Nat
  tokens : List Token
  word : Option Word
  mode : Mode
  documents : List Pending
deriving DecidableEq, Repr

namespace Lexing

/-- The reading of commands that has not begun. -/
def initial : Lexing :=
  ⟨.commands, 1, [], none, .bare, []⟩

/-- Adds a piece to the word at hand, and begins one if there is none. -/
def push (l : Lexing) (p : Piece) : Lexing :=
  { l with word := some (l.word.getD [] ++ [p]) }

/-- Goes on in another mode. -/
def enter (l : Lexing) (mode : Mode) : Lexing :=
  { l with mode }

/-- Adds a token. -/
def emit (l : Lexing) (t : Lexeme) : Lexing :=
  { l with tokens := ⟨t, l.line⟩ :: l.tokens }

/-- The here-document that a word begins, if it stands behind the operator of one. -/
def pending? (l : Lexing) (w : Word) : Option Pending :=
  let isLiteral := w.any fun
    | .char _ quoted => quoted
    | .quotes => true
    | _ => false
  let delimiter := w.flatMap fun
    | .char c _ => [c]
    | .param name _ => '$' :: name
    | _ => []
  match l.tokens with
  | ⟨.operator ['<', '<'], _⟩ :: _ => some ⟨l.tokens.length, delimiter, isLiteral, false⟩
  | ⟨.operator ['<', '<', '-'], _⟩ :: _ => some ⟨l.tokens.length, delimiter, isLiteral, true⟩
  | _ => none

/-- Completes the word at hand, if there is one. -/
def close (l : Lexing) : Lexing :=
  match l.word with
  | some w =>
    { l.emit (.word w) with word := none, documents := l.documents ++ (l.pending? w).toList }
  | none => l

/-- The texts that are operators. -/
def operators : List Text :=
  [[';'], [';', ';'], ['&'], ['&', '&'], ['|'], ['|', '|'], ['('], [')'], ['<'], ['<', '<'],
    ['<', '<', '-'], ['<', '&'], ['<', '>'], ['>'], ['>', '>'], ['>', '&'], ['>', '|']]

/-- Takes the first character of an operator.  A digit right in front of a redirection is the
descriptor that it is for. -/
def stepOperator (l : Lexing) (c : Char) : Lexing :=
  let closed :=
    match l.word with
    | some [.char d false] =>
      if d.isDigit ∧ (c = '<' ∨ c = '>') then
        { l.emit (.descriptor (d.toNat - '0'.toNat)) with word := none }
      else l.close
    | _ => l.close
  closed.enter (.operator [c])

/-- Takes the end of a line, behind which the bodies of here-documents come. -/
def stepNewline (l : Lexing) : Lexing :=
  let closed := l.close
  { closed with
    tokens := ⟨.newline, l.line + 1⟩ :: closed.tokens
    mode := if closed.documents.isEmpty then .bare else .document [] [] }

/-- Takes a character outside quotes. -/
def stepBare (l : Lexing) (c : Char) : Lexing :=
  if c = '\\' then l.enter .escaped
  else if c = '\'' then (l.push .quotes).enter .single
  else if c = '"' then (l.push .quotes).enter .double
  else if c = '$' then l.enter (.dollar false)
  else if c = '`' then l.enter (.nested false (.start .ticks))
  else if l.base ≠ .commands then (l.push (.char c false)).enter .bare
  else if c = '#' ∧ l.word.isNone then l.enter .comment
  else if c = ' ' ∨ c = '\t' then l.close.enter .bare
  else if c = '\n' then l.stepNewline
  else if operators.contains [c] then l.stepOperator c
  else (l.push (.char c false)).enter .bare

/-- Takes a double quote in double quotes. -/
def stepQuote (l : Lexing) : Lexing :=
  match l.base with
  | .document => (l.push (.char '"' true)).enter .double
  | .quotedWord => (l.push .quotes).enter .double
  | .commands | .word => (l.push .quotes).enter .bare

/-- Takes a character in double quotes. -/
def stepDouble (l : Lexing) (c : Char) : Lexing :=
  if c = '"' then l.stepQuote
  else if c = '\\' then l.enter .doubleEscaped
  else if c = '$' then l.enter (.dollar true)
  else if c = '`' then l.enter (.nested true (.start .ticks))
  else (l.push (.char c true)).enter .double

/-- Takes a character in double quotes or outside quotes. -/
def stepPlain (l : Lexing) (quoted : Bool) (c : Char) : Lexing :=
  if quoted then l.stepDouble c else l.stepBare c

/-- The mode in which the reading goes on behind an expansion. -/
def modeAfter (quoted : Bool) : Mode :=
  if quoted then .double else .bare

/-- The character names a parameter on its own. -/
def isSpecial (c : Char) : Bool :=
  c.isDigit || "@*#?$!-".toList.contains c

/-- The character may stand in the name of a variable. -/
def isNameChar (c : Char) : Bool :=
  c.isAlphanum || c == '_'

/-- The text is the name of a variable. -/
def isName (t : Text) : Bool :=
  t.all isNameChar && t.head?.any fun c => !c.isDigit

/-- Takes a character behind a dollar sign. -/
def stepDollar (l : Lexing) (quoted : Bool) (c : Char) : Lexing :=
  if c.isAlpha ∨ c = '_' then l.enter (.name quoted [c])
  else if isSpecial c then (l.push (.param [c] quoted)).enter (modeAfter quoted)
  else if c = '{' then l.enter (.nested quoted (.start (.brace quoted [])))
  else if c = '(' then l.enter (.nested quoted (.start (.commands .initial)))
  else (l.push (.char '$' quoted)).stepPlain quoted c

/-- The command line that a text between backquotes holds: a backslash there only keeps the meaning
from a backquote, a dollar sign, or another backslash. -/
def untick (quoted : Bool) : Text → Text
  | '\\' :: c :: rest =>
    if c = '\n' then untick quoted rest
    else if c = '`' ∨ c = '\\' ∨ c = '$' ∨ (quoted ∧ c = '"') then c :: untick quoted rest
    else '\\' :: c :: untick quoted rest
  | c :: rest => c :: untick quoted rest
  | [] => []

/-- The piece that an expansion is. -/
def pieceOf (quoted : Bool) (n : Nesting) : Piece :=
  match n.outer with
  | .commands _ => .command n.content false quoted
  | .ticks => .command (untick quoted n.content) true quoted
  | .sum _ => .arithmetic n.content quoted
  | _ =>
    let t := n.content
    if isName t ∨ (t ≠ [] ∧ t.all Char.isDigit) ∨ (t.length = 1 ∧ t.all isSpecial) then
      .param t quoted
    else .braced t quoted

/-- Takes a character of the text of an expansion. -/
def stepNested (l : Lexing) (quoted : Bool) (n : Nesting) (c : Char) : Lexing :=
  let next := n.step c
  if next.isClosed then (l.push (pieceOf quoted next)).enter (modeAfter quoted)
  else l.enter (.nested quoted next)

/-- Completes the first of the here-documents to come. -/
def closeDocument (l : Lexing) (d : Pending) (rest : List Pending) (body : Text) : Lexing :=
  let place := l.tokens.length - 1 - d.place
  { l with
    tokens := l.tokens.modify place fun t => { t with lexeme := .document body d.isLiteral }
    documents := rest
    mode := if rest.isEmpty then .bare else .document [] [] }

/-- Takes a row of a here-document, and whether it is complete. -/
def takeRow (l : Lexing) (body row : Text) (isComplete : Bool) : Lexing :=
  match l.documents with
  | [] => l.enter .bare
  | d :: rest =>
    let row := if d.dropsTabs then row.dropWhile (· = '\t') else row
    if row = d.delimiter then l.closeDocument d rest body
    else if isComplete then l.enter (.document (body ++ row ++ ['\n']) [])
    else l.closeDocument d rest (body ++ row)

/-- Takes a character, apart from the count of lines. -/
def stepMode (l : Lexing) (c : Char) : Lexing :=
  match l.mode with
  | .bare => l.stepBare c
  | .escaped => if c = '\n' then l.enter .bare else (l.push (.char c true)).enter .bare
  | .single => if c = '\'' then (l.push .quotes).enter .bare else l.push (.char c true)
  | .double => l.stepDouble c
  | .doubleEscaped =>
    let isKept := c = '$' ∨ c = '`' ∨ c = '\\' ∨ (c = '"' ∧ l.base ≠ .document)
      ∨ (c = '\x7d' ∧ l.base = .quotedWord)
    if c = '\n' then l.enter .double
    else if isKept then (l.push (.char c true)).enter .double
    else ((l.push (.char '\\' true)).push (.char c true)).enter .double
  | .comment => if c = '\n' then l.stepNewline else l
  | .operator read =>
    if operators.contains (read ++ [c]) then l.enter (.operator (read ++ [c]))
    else (l.emit (.operator read)).stepBare c
  | .dollar quoted => l.stepDollar quoted c
  | .name quoted read =>
    if isNameChar c then l.enter (.name quoted (read ++ [c]))
    else (l.push (.param read quoted)).stepPlain quoted c
  | .nested quoted n => l.stepNested quoted n c
  | .document body row =>
    if c = '\n' then l.takeRow body row.reverse true else l.enter (.document body (c :: row))

/-- Takes a character. -/
def step (l : Lexing) (c : Char) : Lexing :=
  { l.stepMode c with line := if c = '\n' then l.line + 1 else l.line }

/-- Takes the end of the text: what is at hand is completed, or cannot be. -/
def finish (l : Lexing) : Lexing :=
  match l.mode with
  | .bare | .comment => l.close
  | .escaped => (l.push (.char '\\' true)).close
  | .operator read => l.emit (.operator read)
  | .dollar quoted =>
    let l := l.push (.char '$' quoted)
    if quoted ∧ l.base = .commands then l.emit (.broken "Unterminated quoted string".toList)
    else l.close
  | .name quoted read =>
    let l := l.push (.param read quoted)
    if quoted ∧ l.base = .commands then l.emit (.broken "Unterminated quoted string".toList)
    else l.close
  | .single => l.emit (.broken "Unterminated quoted string".toList)
  | .double | .doubleEscaped =>
    let l := if l.mode = .doubleEscaped then l.push (.char '\\' true) else l
    if l.base = .quotedWord ∨ l.base = .document then l.close
    else l.emit (.broken "Unterminated quoted string".toList)
  | .nested quoted n =>
    l.emit (.broken (if quoted ∧ n.complaint = "Missing '\x7d'".toList
      then "Unterminated quoted string".toList else n.complaint))
  | .document body row => l.takeRow body row.reverse false

end Lexing

/-- The tokens of a command line. -/
def lex (line : Text) : List Token :=
  (line.foldl Lexing.step .initial).finish.tokens.reverse

/-- The word that a text other than a command line is. -/
def Word.inner (base : Base) (t : Text) : Word :=
  let mode : Mode := if base = .quotedWord ∨ base = .document then .double else .bare
  let l := (t.foldl Lexing.step { Lexing.initial with base, mode }).finish
  l.tokens.reverse.flatMap fun t =>
    match t.lexeme with
    | .word w => w
    | _ => []

/-- How a character is written within single quotes: a quote ends them, stands behind a backslash,
and begins them again. -/
def quoteChar (c : Char) : Text :=
  if c = '\'' then ['\'', '\\', '\'', '\''] else [c]

/-- A text as one word that stands for itself. -/
def quote (t : Text) : Text :=
  '\'' :: t.flatMap quoteChar ++ ['\'']

end Postroom.Shell
