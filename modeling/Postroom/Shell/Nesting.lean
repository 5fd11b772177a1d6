import Postroom.Text.Basic

/-!
# Brackets within a word

Behind a dollar sign or a backquote, a word holds the text of an expansion, which ends at the
bracket that closes it.  A `Nesting` follows the brackets and quotes that such a text opens, so that
a closing one within it is told from the one at its end.

* `Nesting.step` — takes a character of the text;
* `Nesting.content` — the text between the brackets, once `isClosed`.
-/

namespace Postroom.Shell

/-- A word of commands, as far as a nesting has to know it: the characters, whether a command begins
with it, and how many `case` commands are open. -/
structure LineState where
  word : Text
  starts : Bool
  cases : Nat
  isComment : Bool
  /-- Nothing has been read behind the opening bracket. -/
  isFresh : Bool
deriving DecidableEq, Repr

/-- A bracket or quote that is open. -/
inductive Bracket where
  | single
  | double
  | ticks
  /-- A braced parameter, in double quotes or not, with the text in front of its word. -/
  | brace (quoted : Bool) (head : Text)
  /-- Commands between parentheses. -/
  | commands (l : LineState)
  /-- An arithmetic expression, one of whose two closing parentheses may have been read. -/
  | sum (closing : Bool)
  | parens
deriving DecidableEq, Repr

/-- What a character does to the brackets: the one at hand goes on, another one opens within it, or
it closes. -/
inductive Turn where
  | stay (b : Bracket)
  | opens (b inner : Bracket)
  | closes
deriving DecidableEq, Repr

namespace LineState

/-- Commands none of which has been read. -/
def initial : LineState :=
  ⟨[], true, 0, false, true⟩

/-- The keywords behind which a command begins. -/
def openers : List Text :=
  ["then".toList, "do".toList, "else".toList, "elif".toList, "if".toList, "while".toList,
    "until".toList, ['{'], ['!']]

/-- Completes the word at hand. -/
def close (l : LineState) : LineState :=
  let starts : Bool :=
    l.starts && (l.word.isEmpty || openers.contains l.word) || l.word = "in".toList && 0 < l.cases
  { l with word := [], starts }

/-- How many `case` commands are open behind the word at hand. -/
def casesBehind (l : LineState) : Nat :=
  if !l.starts then l.cases
  else if l.word = "case".toList then l.cases + 1
  else if l.word = "esac".toList then l.cases - 1
  else l.cases

/-- Takes a character that ends the word at hand; behind all but blanks a command begins. -/
def separate (l : LineState) (isBlank : Bool) : LineState :=
  let closed := { l.close with cases := l.casesBehind }
  if isBlank then closed else { closed with starts := true }

/-- Goes on with the word at hand, by a character that keeps it from being a keyword. -/
def blur (l : LineState) : LineState :=
  { l with word := l.word ++ ['\x00'] }

/-- Takes a character of commands. -/
def step (l : LineState) (c : Char) : Turn :=
  let goes (l : LineState) : Turn := .stay (.commands { l with isFresh := false })
  let opens (inner : Bracket) : Turn := .opens (.commands { l.blur with isFresh := false }) inner
  if l.isComment then goes (if c = '\n' then { l.separate false with isComment := false } else l)
  else if c = '\'' then opens .single
  else if c = '"' then opens .double
  else if c = '`' then opens .ticks
  else if c = '(' then
    if l.isFresh then .stay (.sum false)
    else .opens (.commands { l.separate false with isFresh := false })
      (.commands { initial with isFresh := false })
  else if c = ')' then
    if 0 < l.casesBehind then goes (l.separate false) else .closes
  else if c = '#' ∧ l.word.isEmpty then goes { l with isComment := true }
  else if c = ' ' ∨ c = '\t' then goes (l.separate true)
  else if c = '\n' ∨ c = ';' ∨ c = '&' ∨ c = '|' then goes (l.separate false)
  else goes { l with word := l.word ++ [c] }

end LineState

namespace Bracket

/-- Takes a character within double quotes or the like, where only a double quote, a backquote and a
dollar sign mean something. -/
def plain (b : Bracket) (c : Char) : Turn :=
  if c = '"' then .opens b .double else if c = '`' then .opens b .ticks else .stay b

/-- The text in front of the word of a braced parameter ends in a sign that cuts the value at hand,
so that quotes in the word mean what they do outside of double quotes. -/
def trims (head : Text) : Bool :=
  1 < head.length && (head.getLast? == some '#' || head.getLast? == some '%')

/-- The word of a braced parameter has not begun: there is its name at most. -/
def isHeadOpen (head : Text) : Bool :=
  !trims head && (head.drop 1).all fun c => c.isAlphanum || c == '_' || c == '#'

/-- What stands in front of the word of a braced parameter, with one more character read. -/
def headWith (head : Text) (c : Char) : Text :=
  if isHeadOpen head then head ++ [c] else head

/-- Takes a character that follows no backslash and no dollar sign. -/
def step (b : Bracket) (c : Char) : Turn :=
  match b with
  | .single => if c = '\'' then .closes else .stay b
  | .double => if c = '"' then .closes else if c = '`' then .opens b .ticks else .stay b
  | .ticks => if c = '`' then .closes else .stay b
  | .brace quoted head =>
    if c = '}' then .closes
    else if c = '\'' ∧ (!quoted ∨ trims head) then .opens b .single
    else plain (.brace quoted (headWith head c)) c
  | .commands l => l.step c
  | .sum closing =>
    if c = ')' then if closing then .closes else .stay (.sum true)
    else if c = '(' then .opens (.sum false) .parens
    else if c = '`' then .opens (.sum false) .ticks
    else .stay (.sum false)
  | .parens =>
    if c = ')' then .closes else if c = '(' then .opens b .parens
    else if c = '`' then .opens b .ticks else .stay b

/-- A backslash takes the meaning from the character behind it. -/
def escapes : Bracket → Bool
  | .single => false
  | .commands l => !l.isComment
  | _ => true

/-- A dollar sign begins an expansion. -/
def expands : Bracket → Bool
  | .single | .ticks => false
  | .commands l => !l.isComment
  | _ => true

/-- What stands directly in the bracket is quoted. -/
def quotes : Bracket → Bool
  | .double | .sum _ | .parens => true
  | .brace quoted head => quoted && !trims head
  | _ => false

/-- The bracket as it is behind a character that has no meaning there. -/
def passed : Bracket → Bracket
  | .commands l => .commands { l.blur with isFresh := false }
  | .sum _ => .sum false
  | .brace quoted head => .brace quoted (headWith head '\\')
  | b => b

end Bracket

/-- The text of an expansion as far as it has been read, last character first: the bracket that it
stands in, those open within, innermost first, and what the character before means for the next. -/
structure Nesting where
  outer : Bracket
  inner : List Bracket
  read : Text
  isEscaped : Bool
  isDollar : Bool
  isClosed : Bool
deriving DecidableEq, Repr

namespace Nesting

/-- An expansion whose opening bracket has been read. -/
def start (outer : Bracket) : Nesting :=
  ⟨outer, [], [], false, false, false⟩

/-- The innermost bracket. -/
def top (n : Nesting) : Bracket :=
  n.inner.headD n.outer

/-- Puts a bracket in place of the innermost one. -/
def setTop (n : Nesting) (b : Bracket) : Nesting :=
  match n.inner with
  | [] => { n with outer := b }
  | _ :: rest => { n with inner := b :: rest }

/-- Takes a character as part of the text. -/
def keep (n : Nesting) (c : Char) : Nesting :=
  { n with read := c :: n.read, isEscaped := false, isDollar := false }

/-- Does to the brackets what a character asks for. -/
def turn (n : Nesting) (c : Char) : Turn → Nesting
  | .stay b =>
    -- The second parenthesis of an arithmetic expression is not part of its text.
    let isOpening : Bool :=
      match n.inner, n.outer, b with
      | [], .commands _, .sum _ => true
      | _, _, _ => false
    if isOpening then { n with outer := b } else (n.setTop b).keep c
  | .opens b inner => { (n.setTop b).keep c with inner := inner :: (n.setTop b).inner }
  | .closes =>
    match n.inner with
    | [] => { n with isClosed := true }
    | _ :: rest => { n.keep c with inner := rest }

/-- Takes a character. -/
def step (n : Nesting) (c : Char) : Nesting :=
  if n.isEscaped then (n.setTop n.top.passed).keep c
  else if c = '\\' ∧ n.top.escapes then { n.keep c with isEscaped := true }
  else if n.isDollar ∧ c = '{' then
    { (n.setTop n.top.passed).keep c with
      inner := .brace n.top.quotes [] :: (n.setTop n.top.passed).inner }
  else if n.isDollar ∧ c = '(' then
    { (n.setTop n.top.passed).keep c with
      inner := .commands .initial :: (n.setTop n.top.passed).inner }
  else if c = '$' ∧ n.top.expands then
    let next := n.turn c (n.top.step c)
    { next with isDollar := !n.isDollar }
  else n.turn c (n.top.step c)

/-- The text between the brackets. -/
def content (n : Nesting) : Text :=
  match n.outer with
  | .sum _ => (n.read.drop 1).reverse
  | _ => n.read.reverse

/-- What is missing where the text breaks off. -/
def complaint (n : Nesting) : Text :=
  let atHand := (n.inner ++ [n.outer]).takeWhile fun
    | .commands _ => false
    | _ => true
  let isQuote : Bracket → Bool
    | .single | .double => true
    | .brace quoted _ => quoted
    | _ => false
  let isSum : Bracket → Bool
    | .sum _ | .parens => true
    | _ => false
  if atHand.any isSum then "Missing '))'".toList
  else if atHand.any isQuote then "Unterminated quoted string".toList
  else if atHand.contains .ticks then "EOF in backquote substitution".toList
  else if atHand.isEmpty then "end of file unexpected (expecting \")\")".toList
  else "Missing '\x7d'".toList

end Nesting

end Postroom.Shell
