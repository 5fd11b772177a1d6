import Postroom.Unicode.PropertySet
import Postroom.Unicode.Script

/-!
# Breaks between characters

The standard classifies characters by how they behave where text is cut into user-perceived
characters (`Break.cluster`), sentences (`Break.sentence`) and words (`Break.word`).  The classes
follow from other properties, by edition 16, but for a few characters that are listed.
-/

namespace Postroom.Unicode.Break

open PropertySet

/-! ## User-perceived characters -/

/-- The syllables of Hangul without a final consonant; each is followed by 27 with one. -/
def openSyllables : CodeSet :=
  ⟨(List.range 399).flatMap fun k => [0xAC00 + 28 * k, 0xAC00 + 28 * k + 1]⟩

/-- The syllables of Hangul. -/
def syllables : CodeSet := .span 0xAC00 0xD7A3

/-- Characters that extend the one before them. -/
def extending : CodeSet := graphemeExtend.union (tabulated "Emoji_Modifier")

/-- Signs that stand in front of what they belong to. -/
def leading : CodeSet :=
  (tabulated "Prepended_Concatenation_Mark").union
    (.ofLengths "3406 1 66675 2 525 1 1389 1 1 1 248 1 73 6 700 1 443 1")

/-- Spacing marks that do not extend the character before them. -/
def detached : CodeSet :=
  .ofLengths "4139 2 11 1 41 3 2 7 21 1 3 6 2 1 10 3 2500 1 1 2 36886 1 1 1 27810 2"

/-- Controls: what ends a cluster and begins none. -/
def controls : CodeSet :=
  .diff
    (.union (categorySet [.zl, .zp, .cc, .cf]) ((categorySet [.cn]).inter defaultIgnorable))
    (.unions [.ofList [0x0A, 0x0D, 0x200C, 0x200D], graphemeExtend,
      tabulated "Prepended_Concatenation_Mark"])

/-- The characters of a class by their place in clusters. -/
def cluster (name : String) : Option CodeSet :=
  match name with
  | "CR" => some (.single 0x0D)
  | "LF" => some (.single 0x0A)
  | "Control" => some controls
  | "Extend" => some extending
  | "L" => some ((CodeSet.span 0x1100 0x115F).union (.span 0xA960 0xA97C))
  | "LV" => some openSyllables
  | "LVT" => some (syllables.diff openSyllables)
  | "Prepend" => some leading
  | "Regional_Indicator" => some (tabulated "Regional_Indicator")
  | "SpacingMark" =>
    some (((categorySet [.mc]).union (.ofList [0xE33, 0xEB3])).diff (extending.union detached))
  | "T" => some ((CodeSet.span 0x11A8 0x11FF).union (.span 0xD7CB 0xD7FB))
  | "V" =>
    some (.unions [.span 0x1160 0x11A7, .span 0xD7B0 0xD7C6, .single 0x16D63,
      .span 0x16D67 0x16D6A])
  | "ZWJ" => some (.single 0x200D)
  | _ => none

/-- The names of the classes, short and long. -/
def clusterNames : List (String × String) :=
  [("CN", "Control"), ("CR", "CR"), ("EX", "Extend"), ("L", "L"), ("LF", "LF"), ("LV", "LV"),
   ("LVT", "LVT"), ("PP", "Prepend"), ("RI", "Regional_Indicator"), ("SM", "SpacingMark"),
   ("T", "T"), ("V", "V"), ("ZWJ", "ZWJ")]

/-! ## Sentences -/

/-- Characters that extend the one before them, spacing marks included. -/
def attached : CodeSet :=
  .unions [graphemeExtend, categorySet [.mc], .single 0x200D]

/-- Number signs that stand in front of digits. -/
def numberSigns : CodeSet :=
  (tabulated "Prepended_Concatenation_Mark").diff (.single 0x70F)

/-- Lowercase letters that begin no sentence. -/
def lower : CodeSet :=
  PropertySet.lowercase.diff (.unions [graphemeExtend, .span 0x10D0 0x10FA, .span 0x10FD 0x10FF])

/-- Uppercase letters that may begin a sentence. -/
def upper : CodeSet :=
  (uppercase.union (categorySet [.lt])).diff
    ((CodeSet.span 0x1C90 0x1CBA).union (.span 0x1CBD 0x1CBF))

/-- Full stops that may stand within a sentence. -/
def stops : CodeSet := .ofList [0x2E, 0x2024, 0xFE52, 0xFF0E]

/-- Digits and number signs. -/
def sentenceNumeric : CodeSet :=
  .unions [categorySet [.nd], numberSigns, .ofList [0x66B, 0x66C, 0x19DA]]

/-- Brackets and quotation marks. -/
def closing : CodeSet :=
  .diff
    (.union (categorySet [.ps, .pe, .pi, .pf])
      (.ofLengths "34 1 4 1 10035 6 1695 2 4 3 2 1 116842 3"))
    (stops.union (tabulated "Sentence_Terminal"))

/-- The characters of a class by their place in sentences. -/
def sentence (name : String) : Option CodeSet :=
  match name with
  | "ATerm" => some stops
  | "Close" => some closing
  | "CR" => some (.single 0x0D)
  | "Extend" => some attached
  | "Format" =>
    some ((categorySet [.cf]).diff
      (.unions [.ofList [0x200C, 0x200D], graphemeExtend, sentenceNumeric]))
  | "LF" => some (.single 0x0A)
  | "Lower" => some lower
  | "Numeric" => some sentenceNumeric
  | "OLetter" =>
    some ((alphabetic.union (.single 0x5F3)).diff (.unions [lower, upper, attached]))
  | "SContinue" =>
    some (.ofLengths "44 2 12 2 834 1 478 1 174 2 490 1 4105 1 5 1 2058 2 4076 1 52750 2 1 2 28 2
     29 2 2 2 2 1 10 1 168 2 12 2 72 1")
  | "Sep" => some (.ofList [0x85, 0x2028, 0x2029])
  | "Sp" =>
    some ((tabulated "White_Space").diff (.ofList [0x0A, 0x0D, 0x85, 0x2028, 0x2029]))
  | "STerm" => some ((tabulated "Sentence_Terminal").diff stops)
  | "Upper" => some upper
  | _ => none

/-- The names of the classes, short and long. -/
def sentenceNames : List (String × String) :=
  [("AT", "ATerm"), ("CL", "Close"), ("CR", "CR"), ("EX", "Extend"), ("FO", "Format"),
   ("LE", "OLetter"), ("LF", "LF"), ("LO", "Lower"), ("NU", "Numeric"), ("SC", "SContinue"),
   ("SE", "Sep"), ("SP", "Sp"), ("ST", "STerm"), ("UP", "Upper")]

/-! ## Words -/

/-- Characters that extend the one before them within a word. -/
def wordExtending : CodeSet :=
  .unions [graphemeExtend, categorySet [.mc], tabulated "Emoji_Modifier"]

/-- Letters of Katakana and the signs that are used with them. -/
def katakana : CodeSet :=
  .unions [scriptSet "Kana".toList, .span 0x3031 0x3035,
    .ofList [0x309B, 0x309C, 0x30A0, 0x30FC, 0xFF70]]

/-- Letters of Hebrew. -/
def hebrew : CodeSet := (scriptSet "Hebr".toList).inter (categorySet [.lo])

/-- Letters of scripts that are written without spaces between words. -/
def unspaced : CodeSet :=
  .ofLengths "3585 48 1 2 12 7 58 2 1 1 1 5 1 24 1 1 1 10 1 2 9 1 2 5 1 1 21 4 288 43 20 1 16 6 4 4 3
   1 3 2 7 3 4 13 12 1 1777 52 35 1 4 1 371 30 2 5 11 44 4 26 86 53 82 1 36664 5 1 10 10 5 97 23
   3 1 3 50 1 1 3 2 2 5 2 1 1 1 24 3 27682 27 37 7"

/-- Signs that count as letters within a word. -/
def letterLike : CodeSet :=
  .ofLengths "706 4 12 6 6 2 5 7 1 1 1 17 602 3 1 1 43 1 104 1 283 1 40952 15 9 2 103 2 976 1"

/-- Letters that make words with their neighbours. -/
def letters : CodeSet :=
  (alphabetic.diff (.unions [tabulated "Ideographic", katakana, hebrew, scriptSet "Hira".toList,
    wordExtending, unspaced])).union letterLike

/-- Digits and number signs. -/
def wordNumeric : CodeSet :=
  .unions [categorySet [.nd], numberSigns, .ofList [0x66B, 0x19DA]]

/-- The characters of a class by their place in words. -/
def word (name : String) : Option CodeSet :=
  match name with
  | "ALetter" => some letters
  | "CR" => some (.single 0x0D)
  | "Double_Quote" => some (.single 0x22)
  | "Extend" => some wordExtending
  | "ExtendNumLet" => some ((categorySet [.pc]).union (.single 0x202F))
  | "Format" =>
    some ((categorySet [.cf]).diff
      (.unions [.span 0x200B 0x200D, graphemeExtend, wordNumeric, .single 0x70F]))
  | "Hebrew_Letter" => some hebrew
  | "Katakana" => some katakana
  | "LF" => some (.single 0x0A)
  | "MidLetter" => some (.ofLengths "58 1 124 1 719 1 471 1 148 1 6706 1 56811 1 65 1 196 1")
  | "MidNum" =>
    some (.ofLengths "44 1 14 1 834 1 522 1 130 2 94 1 395 1 6219 1 56843 1 3 1 183 1 14 1")
  | "MidNumLet" => some (.ofList [0x2E, 0x2018, 0x2019, 0x2024, 0xFE52, 0xFF07, 0xFF0E])
  | "Newline" => some (.ofList [0x0B, 0x0C, 0x85, 0x2028, 0x2029])
  | "Numeric" => some wordNumeric
  | "Regional_Indicator" => some (tabulated "Regional_Indicator")
  | "Single_Quote" => some (.single 0x27)
  | "WSegSpace" =>
    some (.unions [.ofList [0x20, 0x1680], .span 0x2000 0x2006, .span 0x2008 0x200A,
      .ofList [0x205F, 0x3000]])
  | "ZWJ" => some (.single 0x200D)
  | _ => none

/-- The names of the classes, short and long. -/
def wordNames : List (String × String) :=
  [("CR", "CR"), ("DQ", "Double_Quote"), ("Extend", "Extend"), ("EX", "ExtendNumLet"),
   ("FO", "Format"), ("HL", "Hebrew_Letter"), ("KA", "Katakana"), ("LE", "ALetter"), ("LF", "LF"),
   ("MB", "MidNumLet"), ("ML", "MidLetter"), ("MN", "MidNum"), ("NL", "Newline"),
   ("NU", "Numeric"), ("RI", "Regional_Indicator"), ("SQ", "Single_Quote"),
   ("WSegSpace", "WSegSpace"), ("ZWJ", "ZWJ")]

end Postroom.Unicode.Break
