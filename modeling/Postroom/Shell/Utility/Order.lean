import Postroom.Shell.Utility.Basic
import Postroom.Text.Decimal

/-!
# Orders of texts

The orders into which `sort` brings lines.

* `SortStyle.compare` — the order of two texts in a style;
* `Version.compare` — the order in which runs of digits count as numbers.
-/

namespace Postroom.Shell.Utility

/-- A decimal numeral: its sign, and its digits in front of the point and behind it. -/
structure Numeric where
  negative : Bool
  whole : Text
  part : Text

namespace Numeric

/-- The numeral at the front of a text; none is zero. -/
def read (t : Text) : Numeric :=
  let t := t.dropWhile fun c => c = ' ' ∨ c = '\t'
  let (negative, t) : Bool × Text :=
    match t with
    | '-' :: rest => (true, rest)
    | _ => (false, t)
  let whole := t.takeWhile Char.isDigit
  let part : Text :=
    match t.drop whole.length with
    | '.' :: rest => rest.takeWhile Char.isDigit
    | _ => []
  ⟨negative, whole, part⟩

/-- The numeral as a whole number of the given power of ten. -/
def scaled (n : Numeric) (places : Nat) : Int :=
  let digits := n.whole ++ n.part ++ List.replicate (places - n.part.length) '0'
  let magnitude : Int := (Text.toNat? digits).getD 0
  if n.negative then -magnitude else magnitude

/-- The order of two numerals. -/
def compare (a b : Numeric) : Ordering :=
  let places := max a.part.length b.part.length
  Ord.compare (a.scaled places) (b.scaled places)

end Numeric

/-- The order of two texts by their characters. -/
def compareTexts : Text → Text → Ordering
  | [], [] => .eq
  | [], _ :: _ => .lt
  | _ :: _, [] => .gt
  | a :: as, b :: bs => if a < b then .lt else if b < a then .gt else compareTexts as bs

/-- The weight of the letter of a multiple. -/
def humanWeight (t : Text) : Nat :=
  let t := t.dropWhile fun c => c.isDigit ∨ c = '.' ∨ c = '-' ∨ c = ' ' ∨ c = '\t'
  match t with
  | c :: _ => ("KMGTPEZY".toList.findIdx? (· = c.toUpper)).elim 0 (· + 1)
  | [] => 0

/-- The number of the month that a text begins with, or 0. -/
def monthNumber (t : Text) : Nat :=
  let front := ((t.dropWhile fun c => c = ' ' ∨ c = '\t').take 3).map Char.toUpper
  let months := ["JAN", "FEB", "MAR", "APR", "MAY", "JUN", "JUL", "AUG", "SEP", "OCT", "NOV", "DEC"]
  (months.findIdx? (·.toList = front)).elim 0 (· + 1)

/-- The order of two texts by the floating numbers in front; a text without one comes first. -/
def compareGeneral (a b : Text) : Ordering :=
  match Decimal.read? a, Decimal.read? b with
  | none, none => .eq
  | none, some _ => .lt
  | some _, none => .gt
  | some (x, _), some (y, _) => if x < y then .lt else if y < x then .gt else .eq

namespace Version

/-- The weight of a character that is no digit: a tilde comes before the end of a text, and letters
come before other characters. -/
def weight : Option Char → Int
  | none => -1
  | some c =>
    if c.isDigit then 0 else if c.isAlpha then c.toNat else if c = '~' then -2 else c.toNat + 256

/-- The order of what stands in front of the next digits, and what follows it. -/
def compareFront : Nat → Text → Text → Ordering × Text × Text
  | 0, a, b => (.eq, a, b)
  | fuel + 1, a, b =>
    if (a.head?.all Char.isDigit) ∧ (b.head?.all Char.isDigit) then (.eq, a, b)
    else
      match Ord.compare (weight a.head?) (weight b.head?) with
      | .eq => compareFront fuel a.tail b.tail
      | o => (o, a, b)

/-- The order of two texts in which runs of digits count as numbers, with the given fuel. -/
def compareFrom : Nat → Text → Text → Ordering
  | 0, _, _ => .eq
  | fuel + 1, a, b =>
    if a.isEmpty ∧ b.isEmpty then .eq
    else
      let (o, a, b) := compareFront (a.length + b.length + 1) a b
      let m := a.takeWhile Char.isDigit
      let n := b.takeWhile Char.isDigit
      (o.then (Ord.compare ((Text.toNat? m).getD 0) ((Text.toNat? n).getD 0))).then
        (compareFrom fuel (a.drop m.length) (b.drop n.length))

/-- The length of a text without the endings that look like those of file names. -/
def stemLength (t : Text) : Nat :=
  let isPart (p : Text) : Bool :=
    (p.head?.any fun c => c.isAlpha ∨ c = '~') ∧ p.all fun c => c.isAlphanum ∨ c = '~'
  match t with
  | [] => 0
  | _ :: rest =>
    let ps := Text.pieces (· = '.') rest
    let endings := ((ps.drop 1).reverse.takeWhile isPart)
    1 + rest.length - total (endings.map fun p => p.length + 1)

/-- The order of two names, of which endings count only if the rest is the same. -/
def compare (a b : Text) : Ordering :=
  let whole (a b : Text) : Ordering := compareFrom (a.length + b.length + 1) a b
  let rank (t : Text) : Nat :=
    match t with
    | [] => 0
    | ['.'] => 1
    | ['.', '.'] => 2
    | '.' :: _ => 3
    | _ => 4
  (Ord.compare (rank a) (rank b)).then
    ((whole (a.take (stemLength a)) (b.take (stemLength b))).then (whole a b))

end Version

/-- What texts are compared by. -/
inductive Measure where
  | characters
  | number
  | general
  | human
  | month
  | version
deriving DecidableEq

/-- How texts are compared. -/
structure SortStyle where
  measure : Measure
  ignoresCase : Bool
  skipsBlanks : Bool
  onlyWords : Bool
  onlyVisible : Bool
  isReversed : Bool
deriving DecidableEq

namespace SortStyle

/-- Texts as they stand. -/
def plain : SortStyle :=
  ⟨.characters, false, false, false, false, false⟩

/-- The style with what a letter asks for. -/
def withLetter (s : SortStyle) (c : Char) : SortStyle :=
  match c with
  | 'n' => { s with measure := .number }
  | 'g' => { s with measure := .general }
  | 'h' => { s with measure := .human }
  | 'M' => { s with measure := .month }
  | 'V' => { s with measure := .version }
  | 'f' => { s with ignoresCase := true }
  | 'b' => { s with skipsBlanks := true }
  | 'd' => { s with onlyWords := true }
  | 'i' => { s with onlyVisible := true }
  | 'r' => { s with isReversed := true }
  | _ => s

/-- The text with what does not count left out. -/
def form (s : SortStyle) (t : Text) : Text :=
  let t := if s.onlyWords then t.filter fun c => c.isAlphanum ∨ c = ' ' ∨ c = '\t' else t
  let t := if s.onlyVisible then t.filter fun c => ' ' ≤ c ∧ c ≤ '~' else t
  if s.ignoresCase then t.map Char.toUpper else t

/-- The order of two texts. -/
def compare (s : SortStyle) (a b : Text) : Ordering :=
  let o : Ordering :=
    match s.measure with
    | .characters => compareTexts (s.form a) (s.form b)
    | .number => (Numeric.read a).compare (Numeric.read b)
    | .general => compareGeneral a b
    | .human => (Ord.compare (humanWeight a) (humanWeight b)).then
        ((Numeric.read a).compare (Numeric.read b))
    | .month => Ord.compare (monthNumber a) (monthNumber b)
    | .version => Version.compare a b
  if s.isReversed then o.swap else o

end SortStyle

end Postroom.Shell.Utility
