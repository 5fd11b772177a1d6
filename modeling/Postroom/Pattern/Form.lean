import Postroom.Pattern.Basic

/-!
# Patterns in short form

Before its size is taken, a pattern is brought into a form without idle parts: sequences and choices
are flat, neighbouring characters make up one literal, a choice between sets is a set, and what all
alternatives begin with stands in front of the choice.  `Form.ofPattern` brings a pattern into that
form.

A sequence is a `seq` of its first piece, which is none itself, and the rest; a choice is an `alt`
in the same way.
-/

namespace Postroom

/-- A pattern in short form. -/
inductive Form where
  | empty
  /-- These characters, at least one, one behind the other. -/
  | literal (t : Text)
  /-- One character of a set that has none or many. -/
  | set (s : CodeSet)
  | look (l : Look)
  | group (number : Nat) (f : Form)
  | seq (first rest : Form)
  | alt (first rest : Form)
  | times (least : Nat) (most : Option Nat) (f : Form)
deriving DecidableEq, Repr

namespace Form

/-- The code points that are no characters. -/
def surrogates : CodeSet := .span 0xD800 0xDFFF

/-- One character of a set. -/
def ofSet (s : CodeSet) : Form :=
  match (s.diff surrogates).ranges with
  | [(low, high)] => if low = high then literal [Char.ofNat low] else set (s.diff surrogates)
  | _ => set (s.diff surrogates)

/-- The pieces of a sequence. -/
def pieces : Form → List Form
  | empty => []
  | seq f g => f :: pieces g
  | f => [f]

/-- The alternatives of a choice. -/
def branches : Form → List Form
  | alt f g => f :: branches g
  | f => [f]

/-- A sequence of pieces that are none themselves. -/
def ofPieces : List Form → Form
  | [] => empty
  | [f] => f
  | f :: rest => seq f (ofPieces rest)

/-- A choice of alternatives that are none themselves. -/
def ofBranches : List Form → Form
  | [] => set .empty
  | [f] => f
  | f :: rest => alt f (ofBranches rest)

/-- Puts neighbouring literals together. -/
def join : List Form → List Form
  | [] => []
  | f :: rest =>
    match f, join rest with
    | literal s, literal t :: joined => literal (s ++ t) :: joined
    | f, joined => f :: joined

/-- The forms one behind the other. -/
def concat (fs : List Form) : Form :=
  ofPieces (join (fs.flatMap pieces))

/-- The form takes no character. -/
def isWeightless : Form → Bool
  | empty | look _ => true
  | literal _ | set _ => false
  | group _ f | times _ _ f => f.isWeightless
  | seq f g | alt f g => f.isWeightless && g.isWeightless

/-- The least number of characters that the form takes, if it describes any text. -/
def leastLength : Form → Option Nat
  | empty | look _ => some 0
  | literal t => some t.length
  | set s => if s = .empty then none else some 1
  | group _ f => f.leastLength
  | seq f g =>
    match f.leastLength, g.leastLength with
    | some m, some n => some (m + n)
    | _, _ => none
  | alt f g =>
    match f.leastLength, g.leastLength with
    | some m, some n => some (min m n)
    | _, _ => none
  | times least _ f => f.leastLength.map (least * ·)

/-- A form repeated.  What takes no character need not be repeated more than once. -/
def repeated (least : Nat) (most : Option Nat) (f : Form) : Form :=
  let least := if f.isWeightless then min least 1 else least
  let most := if f.isWeightless then some (min (most.getD 1) 1) else most
  if most = some 0 then empty
  else if least = 1 ∧ most = some 1 then f
  else times least most f

/-- The set of a choice between single characters. -/
def characters? (fs : List Form) : Option CodeSet :=
  (fs.mapM fun
    | literal [c] => some c.toNat
    | _ => none).map .ofList

/-- The set of a choice between sets. -/
def union? (fs : List Form) : Option CodeSet :=
  (fs.mapM fun
    | set s => some s
    | _ => none).map .unions

/-- The pieces that two sequences begin with. -/
def common (fs gs : List Form) : List Form :=
  ((fs.zip gs).takeWhile fun pair => pair.1 = pair.2).map (·.1)

/-- The pieces that all of some forms begin with, if all are sequences. -/
def commonPieces (fs : List Form) : List Form :=
  let isSequence : Form → Bool
    | seq _ _ => true
    | _ => false
  match fs with
  | f :: rest =>
    if fs.all isSequence then rest.foldl (fun shared g => common shared g.pieces) f.pieces else []
  | [] => []

/-- A choice of forms; `fuel` bounds how often something is taken out in front. -/
def choice (fuel : Nat) (fs : List Form) : Form :=
  match fs.flatMap branches with
  | [] => set .empty
  | [f] => f
  | fs =>
    match characters? fs, union? fs with
    | some s, _ => ofSet s
    | none, some s => ofSet s
    | none, none =>
      match fuel, commonPieces fs with
      | fuel + 1, f :: shared =>
        let count := shared.length + 1
        concat [ofPieces (f :: shared),
          choice fuel (fs.map fun g => concat (g.pieces.drop count))]
      | _, _ => ofBranches fs

/-- The number of pieces and alternatives of a form. -/
def breadth : Form → Nat
  | seq f g | alt f g => f.breadth + g.breadth + 1
  | group _ f | times _ _ f => f.breadth + 1
  | _ => 1

/-- A form as the first alternative before others. -/
def orElse (f : Form) (others : List Form) : Form :=
  match others with
  | [] => f
  | _ => choice (total ((f :: others).map breadth)) (f :: others)

/-- The short form of a pattern as the first alternative before others. -/
def ofPatternOr : Pattern → List Form → Form
  | .empty, others => orElse empty others
  | .chars s, others => orElse (ofSet s) others
  | .look l, others => orElse (look l) others
  | .group (some number) p, others => orElse (group number (ofPatternOr p [])) others
  | .group none p, others => orElse (ofPatternOr p []) others
  | .seq p q, others => orElse (concat [ofPatternOr p [], ofPatternOr q []]) others
  | .alt p q, others => ofPatternOr p (ofPatternOr q [] :: others)
  | .times least most p, others => orElse (repeated least most (ofPatternOr p [])) others

/-- The short form of a pattern. -/
def ofPattern (p : Pattern) : Form :=
  ofPatternOr p []

/-- The form describes texts only at the start of the whole. -/
def isAnchoredAtStart : Form → Bool
  | look l => l = .textStart
  | group _ f => f.isAnchoredAtStart
  | seq f g => f.isAnchoredAtStart || (f.isWeightless && g.isAnchoredAtStart)
  | alt f g => f.isAnchoredAtStart && g.isAnchoredAtStart
  | times least _ f => 0 < least && f.isAnchoredAtStart
  | _ => false

/-- The form describes texts only at the end of the whole. -/
def isAnchoredAtEnd : Form → Bool
  | look l => l = .textEnd
  | group _ f => f.isAnchoredAtEnd
  | seq f g => g.isAnchoredAtEnd || (g.isWeightless && f.isAnchoredAtEnd)
  | alt f g => f.isAnchoredAtEnd && g.isAnchoredAtEnd
  | times least _ f => 0 < least && f.isAnchoredAtEnd
  | _ => false

end Form

end Postroom
