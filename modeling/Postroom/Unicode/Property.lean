import Postroom.Unicode.Category

/-!
# Character properties

Properties of characters that follow from the general category but for a table of what it leaves
out. A table is written as the lengths of the stretches outside and inside the property, in turn,
from U+0000 on.
-/

namespace Postroom.Unicode

/-! ## What the categories leave out -/

/-- Uppercase characters that are not of category Lu. -/
def otherUppercase : CodeSet :=
  .ofLengths "8544 16 838 26 117856 26 6 26 6 26"

/-- Lowercase characters that are not of category Ll. -/
def otherLowercase : CodeSet :=
  .ofLengths "170 1 15 1 501 9 7 2 30 5 96 1 52 1 3457 1 3119 63 13 1 34 37 689 1 13 1 16 13 211 16 848
   26 1938 2 31262 2 210 1 128 4 3 2 866 4 9 1 23574 1 2 3 1 42 1 9 55413 62"

/-- Alphabetic characters that are neither a letter nor a letter number. -/
def otherAlphabetic : CodeSet :=
  .ofLengths "837 1 29 13 576 14 1 1 1 2 1 2 1 1 72 11 48 13 1 7 16 1 101 7 4 4 2 2 4 1 35 1 30 16 102 11
   101 2 3 9 1 3 1 4 106 1 60 12 3 7 6 20 54 2 2 15 1 2 5 3 10 2 29 3 58 7 2 2 2 2 10 1 10 2
   29 3 58 5 4 2 2 2 4 1 30 2 3 1 11 3 58 8 1 3 1 2 21 2 22 3 4 3 58 7 2 2 2 2 9 2 10 2 30 1
   59 5 3 3 1 3 10 1 40 5 57 7 1 3 1 3 8 2 11 2 29 3 58 7 1 3 1 3 8 2 11 2 15 1 12 4 58 7 1 3
   1 3 10 1 10 2 29 3 75 6 1 1 1 8 18 2 61 1 2 7 18 1 99 1 2 6 1 2 16 1 163 19 9 11 1 36 110
   12 1 1 2 4 23 4 4 3 1 3 2 7 3 4 13 12 1 1 10 4 1652 2 30 2 30 2 30 2 66 19 188 2 34 1 118
   12 4 9 222 5 57 10 2 20 74 2 11 3 49 5 48 15 60 3 30 9 2 2 57 11 50 19 412 34 1729 52 2294
   32 30836 8 34 2 354 1 8 1 23 5 88 2 50 16 1 1 57 1 38 5 28 12 45 4 48 12 37 1 67 14 12 1 8
   2 45 3 50 1 1 3 2 2 5 1 44 5 5 1 237 8 20275 1 2135 5 1670 3 1 2 5 4 788 4 65 1 321 2 77 3
   259 3 53 14 45 2 11 3 45 9 9 1 61 3 36 12 18 2 57 3 48 13 14 2 92 9 2 1 6 1 2 1 157 10 23 4
   58 7 2 2 2 2 10 1 10 2 84 9 1 1 2 1 1 4 1 2 103 13 1 3 106 18 237 7 2 7 29 2 82 15 1 1 106
   11 103 14 257 13 247 6 1 2 2 2 3 1 1 1 142 7 2 6 4 1 28 10 42 5 1 4 18 11 46 14 200 8 199 8
   1 7 83 22 1 14 122 6 3 1 1 2 1 3 1 1 3 1 66 5 1 2 1 4 348 4 9 2 1 1 48 7 3 3 16861 17 3616
   1 1 55 7 4 93 2 19628 1 9057 7 1 17 2 7 1 2 1 5 100 1 1619 1 2 1 7 2 5 1 593 1 2024 26 6 26
   6 26"

/-- Case-ignorable characters that are no mark, format character, modifier letter or modifier
symbol. -/
def otherCaseIgnorable : CodeSet :=
  .ofLengths "39 1 6 1 11 1 124 1 719 1 471 1 148 1 6691 2 10 1 2 1 56811 1 62 1 2 1 177 1 6 1 11 1"

/-- Grapheme extenders that are neither a nonspacing nor an enclosing mark. -/
def otherGraphemeExtend : CodeSet :=
  .ofLengths "2494 1 24 1 358 1 24 1 102 1 24 1 232 1 1 1 4 2 1 2 9 2 103 1 24 1 119 1 15 1 2357 1 30 1
   1024 1 5 1 1 1 5 2 101 1 71 2 1048 1 4129 2 31011 1 108 1 21981 2 4640 1 116 1 264 1 14 1 9
   1 96 1 9 1 2 1 1 3 5 1 224 1 12 1 241 1 262 1 633 1 12 1 1539 1 20654 2 24947 2 6 6 798381
   96"

/-- Characters that are not shown where they are not supported. -/
def defaultIgnorable : CodeSet :=
  .ofLengths "173 1 673 1 716 1 2882 2 1619 2 85 5 2043 5 26 5 49 16 4340 1 52379 16 239 1 160 1 79 9
   48295 4 5327 8 798341 4096"

/-! ## Derived properties -/

/-- Uppercase letters and what else counts as uppercase. -/
def isUppercase (c : Char) : Bool :=
  category c == .lu || otherUppercase.mem c

/-- Lowercase letters and what else counts as lowercase. -/
def isLowercase (c : Char) : Bool :=
  category c == .ll || otherLowercase.mem c

/-- Characters with a case: upper, lower or title. -/
def isCased (c : Char) : Bool :=
  isUppercase c || isLowercase c || category c == .lt

/-- Letters, letter numbers and what else counts as alphabetic. -/
def isAlphabetic (c : Char) : Bool :=
  (category c).isLetter || category c == .nl || otherAlphabetic.mem c

/-- Letters and numbers of any script. -/
def isAlphanumeric (c : Char) : Bool :=
  if c.toNat < 0x80 then c.isAlphanum else isAlphabetic c || (category c).major == some 'N'

/-- Characters that case mapping looks past when it decides what stands next to a letter. -/
def isCaseIgnorable (c : Char) : Bool :=
  otherCaseIgnorable.mem c
    || match category c with
      | .mn | .me | .cf | .lm | .sk => true
      | _ => false

/-- Characters that attach to the one before them. -/
def isGraphemeExtend (c : Char) : Bool :=
  if c.toNat < 0x300 then false
  else otherGraphemeExtend.mem c || category c == .mn || category c == .me

end Postroom.Unicode
