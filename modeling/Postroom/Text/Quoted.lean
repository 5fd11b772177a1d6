import Postroom.Unicode.Property

/-!
# Quoted text

The form in which messages to people show a text whose ends and odd characters matter: between
quotation marks, with escapes for what would not be seen as it is.
-/

namespace Postroom.Text

/-- The escape `\u{…}` of a character, with its number in hexadecimal. -/
def codeEscape (c : Char) : Text :=
  ['\\', 'u', '{'] ++ Nat.toDigits 16 c.toNat ++ ['}']

/-- The character cannot be told apart from nothing, a space or a part of its neighbour. -/
def isElusive (c : Char) : Bool :=
  Unicode.isGraphemeExtend c || Unicode.defaultIgnorable.mem c || !Unicode.isVisible c

/-- How a quoted text shows a character: the usual two-character escapes, a code escape for what
would not be seen as a character of its own, and itself otherwise. -/
def quoteChar (c : Char) : Text :=
  match c with
  | '\x00' => ['\\', '0']
  | '\t' => ['\\', 't']
  | '\r' => ['\\', 'r']
  | '\n' => ['\\', 'n']
  | '"' => ['\\', '"']
  | '\\' => ['\\', '\\']
  | _ => if isElusive c then codeEscape c else [c]

/-- A text between quotation marks, with escapes. -/
def quoted (t : Text) : Text :=
  '"' :: t.flatMap quoteChar ++ ['"']

end Postroom.Text
