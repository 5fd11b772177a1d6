import Postroom.Shell.Format
import Postroom.Shell.Regex

/-!
# The values of record programs

* `Value` — numbers, texts, and texts from outside that may be numbers;
* `Table` — values by their indexes, in the order in which a loop comes by them;
* `Format.values` — values in the notation of a format.
-/

namespace Postroom.Shell.Awk

/-- A value. -/
inductive Value where
  | none
  | number (x : Float)
  | text (t : Text)
  /-- A text from outside, which is a number if it looks like one. -/
  | given (t : Text)
deriving Inhabited

/-- The whole number that a floating number is, if it is one. -/
def whole? (x : Float) : Option Int :=
  let b := Binary.ofFloat x
  match b.magnitude with
  | .finite m e =>
    let (n, d) := Binary.quotient m e
    if n % d = 0 then some (if b.negative then -((n / d : Nat) : Int) else (n / d : Nat))
    else Option.none
  | _ => Option.none

/-- The largest whole number that is shown in full. -/
def largest : Int :=
  0xFFFFFFFFFFFFFFFF

/-- The whole number in front of the point; a number that is none counts as zero. -/
def truncated (x : Float) : Int :=
  let b := Binary.ofFloat x
  match b.magnitude with
  | .finite m e =>
    let (n, d) := Binary.quotient m e
    if b.negative then -((n / d : Nat) : Int) else (n / d : Nat)
  | .infinite => if b.negative then Numeral.smallest else largest
  | .undefined => Numeral.smallest

/-- The floating number of a whole one. -/
def floating (n : Int) : Float :=
  Float.ofInt n

/-- A blank in front of a numeral. -/
def isBlank (c : Char) : Bool :=
  c = ' ' || ('\t' ≤ c && c ≤ '\r')

/-- The number at the front of a text, and what follows it. -/
def numeral? (t : Text) : Option (Float × Text) :=
  let t := t.dropWhile isBlank
  let (isNegative, magnitude) : Bool × Text :=
    match t with
    | '-' :: rest => (true, rest)
    | '+' :: rest => (false, rest)
    | _ => (false, t)
  match magnitude with
  | '0' :: x :: d :: rest =>
    let ds := (d :: rest).takeWhile fun c => (Numeral.digit? 16 c).isSome
    if (x = 'x' ∨ x = 'X') ∧ !ds.isEmpty then
      let n := ds.foldl (fun n c => 16 * n + (Numeral.digit? 16 c).getD 0) 0
      some (floating (if isNegative then -(n : Int) else n), (d :: rest).drop ds.length)
    else Decimal.read? t
  | _ => Decimal.read? t

/-- A text looks like a number. -/
def looksNumeric (t : Text) : Bool :=
  match numeral? t with
  | some (_, rest) => rest.all isBlank
  | none => false

namespace Value

/-- The value as a number. -/
def toNumber : Value → Float
  | .none => 0
  | .number x => x
  | .text t | .given t => ((numeral? t).map (·.1)).getD 0

/-- The value is compared as a number. -/
def isNumeric : Value → Bool
  | .none | .number _ => true
  | .text _ => false
  | .given t => looksNumeric t

/-- The value counts as true. -/
def isTrue : Value → Bool
  | .none => false
  | .number x => x != 0
  | .text t => !t.isEmpty
  | .given t => if looksNumeric t then Value.toNumber (.given t) != 0 else !t.isEmpty

/-- The value of a test. -/
def ofBool (b : Bool) : Value :=
  .number (if b then 1 else 0)

/-- The value of a whole number. -/
def ofNat (n : Nat) : Value :=
  .number (floating n)

end Value

/-! ## Tables -/

/-- Values by their indexes.  They lie in chains, of which a number made of the octets of an index
tells which one, and what has been looked for by a text comes first in its chain. -/
structure Table where
  chains : Array (List (Text × Value))
  size : Nat
deriving Inhabited

namespace Table

/-- How many chains there are. -/
def width : Nat := 64

/-- A table without values. -/
def empty : Table :=
  ⟨Array.replicate width [], 0⟩

/-- The number that the octets of an index make. -/
def hash (t : Text) : UInt32 :=
  t.foldl (fun h c => (h ^^^ UInt32.ofNat c.toNat) * 16777619) 2166136261

/-- The chain of an index. -/
def place (t : Text) : Nat :=
  (hash t).toNat % width

/-- The value of an index. -/
def get? (s : Table) (t : Text) : Option Value :=
  (s.chains[place t]?).bind (·.lookup t)

/-- Sets the value of an index. -/
def put (s : Table) (t : Text) (v : Value) : Table :=
  let isNew := (s.get? t).isNone
  { chains := s.chains.modify (place t) fun c => (t, v) :: c.filter (·.1 ≠ t)
    size := if isNew then s.size + 1 else s.size }

/-- Removes the value of an index. -/
def erase (s : Table) (t : Text) : Table :=
  if (s.get? t).isNone then s
  else { chains := s.chains.modify (place t) fun c => c.filter (·.1 ≠ t), size := s.size - 1 }

/-- The indexes, chain by chain. -/
def keys (s : Table) : List Text :=
  s.chains.toList.flatMap fun c => c.map (·.1)

/-- A table of pieces, by their numbers from one on. -/
def ofPieces (ps : List Text) : Table :=
  (ps.zipIdx 1).foldl (fun s p => s.put (Text.ofNat p.2) (.given p.1)) empty

end Table

/-! ## Writing values -/

/-- Why values cannot be written in a format. -/
inductive FormatFlaw where
  | tooFew
  | badConversion
deriving DecidableEq, Repr

namespace Format

/-- The numeral of a number that is not whole, in a format with one conversion. -/
def numeral (format : Text) (x : Float) : Text :=
  match Format.conversionOf (format.dropWhile (· ≠ '%') |>.drop 1) with
  | (c, rest) =>
    let given : Option Measure → Option Nat
      | some (.given n) => some n
      | _ => none
    let kind := c.kind.getD 'g'
    format.takeWhile (· ≠ '%')
      ++ (if kind = 'd' ∨ kind = 'i' then
          Format.integer c.flags ((given c.width).getD 0) (given c.precision) kind (truncated x)
        else Format.floating c.flags ((given c.width).getD 0) (given c.precision) kind x)
      ++ rest

/-- A number as text: a whole one has no point. -/
def number (format : Text) (x : Float) : Text :=
  match whole? x with
  | some n =>
    if Numeral.smallest ≤ n ∧ n ≤ largest then Text.ofInt n else numeral format x
  | none => if x.isNaN then "-nan".toList else numeral format x

/-- A value as text. -/
def text (format : Text) : Value → Text
  | .none => []
  | .number x => number format x
  | .text t | .given t => t

/-- The width or the number of digits, which the next value may give. -/
def measure (m : Option Measure) (vs : List Value) : Option (Option Int × List Value) :=
  match m, vs with
  | some (.given n), vs => some (some (n : Int), vs)
  | some .argument, v :: vs => some (some (truncated v.toNumber), vs)
  | some .argument, [] => none
  | none, vs => some (none, vs)

/-- A value in the notation of a conversion. -/
def value (c : Conversion) (width precision : Option Int) (format : Text) (v : Value) :
    Except FormatFlaw Text :=
  let w := width.getD 0
  let flags := if w < 0 then '-' :: c.flags else c.flags
  let precision := precision.bind fun n => if n < 0 then Option.none else some n.toNat
  match c.kind with
  | some 'd' | some 'i' =>
    let n := truncated v.toNumber
    .ok (Format.integer flags w.natAbs precision 'd' (max Numeral.smallest (min n largest)))
  | some 'o' | some 'x' | some 'X' | some 'u' =>
    let n := truncated v.toNumber
    .ok (Format.integer flags w.natAbs precision (c.kind.getD 'u')
      (max Numeral.smallest (min n largest)))
  | some 'c' =>
    let t : Text :=
      if v.isNumeric then [Char.ofNat ((truncated v.toNumber) % 256).toNat]
      else [(text format v).headD '\x00']
    .ok (Format.string flags w.natAbs Option.none t)
  | some 's' => .ok (Format.string flags w.natAbs precision (text format v))
  | some k =>
    if "eEfFgG".toList.contains k then .ok (Format.floating flags w.natAbs precision k v.toNumber)
    else .error .badConversion
  | none => .error .badConversion

/-- Values in the notation of a format, with the given fuel: the text up to where it goes wrong, if
it does. -/
def valuesFrom (format : Text) : Nat → Text → List Value → List Text → List Text × Option FormatFlaw
  | 0, _, _, done | _, [], _, done => (done, Option.none)
  | fuel + 1, '%' :: '%' :: rest, vs, done => valuesFrom format fuel rest vs (['%'] :: done)
  | fuel + 1, '%' :: rest, vs, done =>
    let (c, behind) := Format.conversionOf rest
    match measure c.width vs with
    | none => (done, some .tooFew)
    | some (width, vs) =>
      match measure c.precision vs with
      | none => (done, some .tooFew)
      | some (precision, vs) =>
        match c.kind, vs with
        | none, _ => (c.spelling :: done, Option.none)
        | some _, [] => (done, some .tooFew)
        | some _, v :: vs =>
          match value c width precision format v with
          | .ok t => valuesFrom format fuel behind vs (t :: done)
          | .error e => (done, some e)
  | fuel + 1, c :: rest, vs, done =>
    let t := rest.takeWhile (· ≠ '%')
    valuesFrom format fuel (rest.drop t.length) vs ((c :: t) :: done)

/-- Values in the notation of a format; numbers that it asks for as text are in `format`. -/
def values (format pattern : Text) (vs : List Value) : Text × Option FormatFlaw :=
  let (done, flaw) := valuesFrom format (pattern.length + 1) pattern vs []
  (done.reverse.flatten, flaw)

end Format

end Postroom.Shell.Awk
