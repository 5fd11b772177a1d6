import Postroom.Text.Blank
import Postroom.Text.Slice
import Postroom.Coding.Base64
import Postroom.Coding.QuotedPrintable
import Postroom.Coding.Charset

/-!
# Encoded words

A field value may hold words such as `=?utf-8?q?Caf=C3=A9?=`, which name a character set and a
coding.  `EncodedWord.decode?` reads one word, `FieldText.ofLine` cuts a line into words, blanks and
other text, and `FieldText.join` puts the pieces of all lines together: the blanks between two words
belong to neither and vanish.
-/

namespace Postroom

namespace EncodedWord

/-- The octets of a word in the coding named `coding`. -/
def octets? (coding content : Text) : Option Octets :=
  if coding = ['B'] ∨ coding = ['b'] then Base64.decodeLines? content
  else if coding = ['Q'] ∨ coding = ['q'] then some (QuotedPrintable.decodeWord content)
  else none

/-- The text of a word, given without its `=?` and `?=`. -/
def decode? (word : Text) : Option Text :=
  match Text.splitAtInfix ['?'] word with
  | none => none
  | some (label, rest) =>
    match Text.splitAtInfix ['?'] rest with
    | none => none
    | some (coding, content) =>
      match octets? coding content, Charset.ofLabel? label with
      | some bytes, some charset => some (charset.decode bytes)
      | _, _ => none

end EncodedWord

/-- A piece of a field value. -/
inductive FieldPiece where
  | text (t : Text)
  | blanks (t : Text)
  | lineEnd
  | word (t : Text)
deriving DecidableEq, Repr

namespace FieldText

/-- What begins an encoded word. -/
def opening : Text := ['=', '?']

/-- What ends an encoded word. -/
def closing : Text := ['?', '=']

/-- The characters that may stand next to an encoded word. -/
def isBoundary (c : Char) : Bool :=
  isBlank c || c == '"' || c == '(' || c == ')' || c == '<' || c == '>' || c == ','

/-- A place of a line is a boundary when no character stands there or one that may stand next to a
word.  Places are counted in characters. -/
def boundaryAt (t : Text) (place : Nat) : Bool :=
  t[place]?.all isBoundary

/-- A stretch of text, as blanks when there is nothing else in it. -/
def plain (t : Text) : FieldPiece :=
  if Text.isBlankText t then .blanks t else .text t

/-- Looks for the end of a word that has begun: the content, what stands after it, and the offset
of that in octets.  An end where no boundary follows is none; `read` is the content so far. -/
def wordEnd (line read : Text) (offset : Nat) (rest : Text) : Option (Text × Text × Nat) :=
  match _h : Text.splitAtInfix closing rest with
  | none => none
  | some (before, after) =>
    let next := offset + Text.octetCount before + 2
    if boundaryAt line next then some (read ++ before, after, next)
    else wordEnd line (read ++ before ++ closing) next after
termination_by rest.length
decreasing_by
  have := congrArg List.length (Text.eq_of_splitAtInfix _h)
  simp [closing] at this
  omega

theorem length_wordEnd {line read : Text} {offset : Nat} {rest content after : Text} {next : Nat}
    (h : wordEnd line read offset rest = some (content, after, next)) :
    after.length < rest.length := by
  fun_induction wordEnd line read offset rest with
  | case1 => simp at h
  | case2 read offset rest before tail hs next' hb =>
    obtain ⟨-, rfl, -⟩ : read ++ before = content ∧ tail = after ∧ next' = next := by
      simpa using h
    have := congrArg List.length (Text.eq_of_splitAtInfix hs)
    simp [closing] at this
    omega
  | case3 read offset rest before tail hs next' hb ih =>
    have := ih h
    have := congrArg List.length (Text.eq_of_splitAtInfix hs)
    simp [closing] at this
    omega

/-- The pieces of what is left of a line; `offset` is the number of octets before it. -/
def piecesFrom (line : Text) (offset : Nat) (rest : Text) : List FieldPiece :=
  match _h : Text.splitAtInfix opening rest with
  | none => [plain rest]
  | some (before, after) =>
    let start := offset + Text.octetCount before
    if start ≠ 0 ∧ !boundaryAt line (start - 1) then
      .text (before ++ opening) :: piecesFrom line (start + 2) after
    else
      plain before ::
        match hw : wordEnd line [] (start + 2) after with
        | some (content, tail, next) =>
          (match EncodedWord.decode? content with
            | some t => .word t
            | none => .text (opening ++ content ++ closing)) :: piecesFrom line next tail
        | none => .text opening :: piecesFrom line (start + 2) after
termination_by rest.length
decreasing_by
  all_goals
    have := congrArg List.length (Text.eq_of_splitAtInfix _h)
    simp [opening] at this
    try have := length_wordEnd hw
    omega

/-- The pieces of a line. -/
def ofLine (line : Text) : List FieldPiece :=
  piecesFrom line 0 line

/-- The pieces of a value of several lines; blanks at the start of a line do not count. -/
def ofLines : List Text → List FieldPiece
  | [] => []
  | [line] => ofLine (Text.trimStart line)
  | line :: lines => ofLine (Text.trimStart line) ++ .lineEnd :: ofLines lines

/-- What has been read and not yet written: whether it is written depends on what follows. -/
inductive Held where
  | nothing
  /-- The last piece was a word. -/
  | word
  /-- Blanks after a word. -/
  | blanks (t : Text)
  /-- A line end after a word, with the blanks that stand for it. -/
  | lineEnd (t : Text)
deriving DecidableEq, Repr

/-- The blanks that are held. -/
def Held.text : Held → Text
  | nothing | word => []
  | blanks t | lineEnd t => t

/-- The text of pieces, after what is held; what is held at the end is not written. -/
def joinFrom (held : Held) : List FieldPiece → Text
  | [] => []
  | .text t :: rest => held.text ++ t ++ joinFrom .nothing rest
  | .blanks t :: rest =>
    match held with
    | .word => joinFrom (.blanks t) rest
    | _ => t ++ joinFrom .nothing rest
  | .lineEnd :: rest =>
    match held with
    | .blanks t => joinFrom (.lineEnd (t ++ [' '])) rest
    | .word => joinFrom (.lineEnd [' ']) rest
    | _ => ' ' :: joinFrom .nothing rest
  | .word t :: rest => t ++ joinFrom .word rest

/-- The text of a field value: lines joined, words decoded. -/
def decode (value : Text) : Text :=
  joinFrom .nothing (ofLines (Text.lines value))

end FieldText

end Postroom
