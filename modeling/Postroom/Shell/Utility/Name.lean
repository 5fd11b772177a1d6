import Postroom.Text.Basic

/-!
# Names in complaints

Utilities show the names of files so that a reader, or a shell, cannot take them for something else.

* `Name.shown` — a name in quotes if it needs them;
* `Name.quoted` — a name in quotes that a shell understands;
* `Name.marked` — a text in quotes with its marks escaped.
-/

namespace Postroom.Shell.Utility.Name

/-- A character as an escape, if it cannot be shown as it is. -/
def escape? (c : Char) : Option Text :=
  let n := c.toNat
  let digit (k : Nat) : Char := Char.ofNat (48 + k % 8)
  match c with
  | '\x07' => some ['\\', 'a']
  | '\x08' => some ['\\', 'b']
  | '\t' => some ['\\', 't']
  | '\n' => some ['\\', 'n']
  | '\x0b' => some ['\\', 'v']
  | '\x0c' => some ['\\', 'f']
  | '\r' => some ['\\', 'r']
  | _ => if 32 ≤ n ∧ n < 127 then none else some ['\\', digit (n / 64), digit (n / 8), digit n]

/-- What a shell gives no meaning to, wherever it stands. -/
def isPlain (c : Char) : Bool :=
  c.isAlphanum || "%+,-./@]_\x7b\x7d#~".toList.contains c

/-- What keeps its meaning in double quotes at the given place. -/
def isQuiet (place : Nat) (c : Char) : Bool :=
  c.isAlphanum || " %+,-./:]_'".toList.contains c || (place = 0 && (c == '#' || c == '~'))

/-- A name in single quotes from some character on; `isEscaped` tells that escapes are open. -/
def inQuotes (isEscaped : Bool) : Text → Text
  | [] => ['\'']
  | c :: rest =>
    if c = '\'' then "'\\''".toList ++ inQuotes false rest
    else
      match escape? c with
      | some t => (if isEscaped then t else "'$'".toList ++ t) ++ inQuotes true rest
      | none => (if isEscaped then "''".toList else []) ++ c :: inQuotes false rest

/-- A name in quotes that a shell understands. -/
def quoted (t : Text) : Text :=
  if t.contains '\'' ∧ (t.zipIdx).all fun (c, i) => isQuiet i c then '"' :: t ++ ['"']
  else '\'' :: inQuotes false t

/-- A shell would not take a name for itself. -/
def needsQuotes (t : Text) : Bool :=
  t.isEmpty || t == ['\x7b'] || t == ['\x7d'] || !t.all isPlain
    || t.head?.any fun c => c == '#' || c == '~'

/-- A name in quotes if it needs them. -/
def shown (t : Text) : Text :=
  if needsQuotes t then quoted t else t

/-- A text in single quotes, with quotes and backslashes in it escaped. -/
def marked (t : Text) : Text :=
  '\'' :: t.flatMap (fun c =>
    if c = '\'' ∨ c = '\\' then ['\\', c] else (escape? c).getD [c]) ++ ['\'']

end Postroom.Shell.Utility.Name
