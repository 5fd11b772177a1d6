import Postroom.Text.Basic

/-!
# Decimal numerals of fractions

A binary fraction is written in decimals by rounding its exact value, a tie going to the even
neighbour.

* `Binary.ofFloat` — the exact value of a floating number;
* `Binary.fixed`, `Binary.scientific`, `Binary.general` — its decimal numerals;
* `Decimal.read?` — the floating number at the front of a text.
-/

namespace Postroom

/-- The magnitude of a number: a whole number of a power of two, or something that is none. -/
inductive Magnitude where
  | finite (mantissa : Nat) (exponent : Int)
  | infinite
  | undefined
deriving DecidableEq, Repr

/-- A floating number, exactly. -/
structure Binary where
  negative : Bool
  magnitude : Magnitude
deriving DecidableEq, Repr

/-- The whole number that is nearest to a quotient, of two the even one. -/
def roundDiv (num den : Nat) : Nat :=
  let q := num / den
  let twice := 2 * (num % den)
  if twice < den then q
  else if den < twice then q + 1
  else if q % 2 = 0 then q
  else q + 1

namespace Binary

/-- The exact value of a floating number. -/
def ofFloat (x : Float) : Binary :=
  let bits : Nat := x.toBits.toNat
  let field : Nat := bits / 0x10000000000000 % 2048
  let low : Nat := bits % 0x10000000000000
  let magnitude : Magnitude :=
    if field = 2047 then if low = 0 then .infinite else .undefined
    else if field = 0 then .finite low (-1074)
    else .finite (low + 0x10000000000000) ((field : Int) - 1075)
  ⟨decide (0x8000000000000000 ≤ bits), magnitude⟩

/-- A whole number of a power of two, as a quotient. -/
def quotient (mantissa : Nat) (exponent : Int) : Nat × Nat :=
  if 0 ≤ exponent then (mantissa * Nat.pow 2 exponent.toNat, 1)
  else (mantissa, Nat.pow 2 (-exponent).toNat)

/-- A quotient times a power of ten, rounded. -/
def scaled (q : Nat × Nat) (power : Int) : Nat :=
  if 0 ≤ power then roundDiv (q.1 * Nat.pow 10 power.toNat) q.2
  else roundDiv q.1 (q.2 * Nat.pow 10 (-power).toNat)

/-- The digits of a number with a point in front of the last so many of them. -/
def withPoint (n places : Nat) (keepsPoint : Bool) : Text :=
  let digits := Text.ofNat n
  let padded := List.replicate (places + 1 - digits.length) '0' ++ digits
  let whole := padded.take (padded.length - places)
  if places = 0 then whole ++ (if keepsPoint then ['.'] else [])
  else whole ++ '.' :: padded.drop (padded.length - places)

/-- The power of ten that the first digit of a quotient counts. -/
def leading (q : Nat × Nat) : Int :=
  if q.1 = 0 then 0
  else
    let guess : Int := (Text.ofNat q.1).length - (Text.ofNat q.2).length
    -- The guess is right or one too large.
    let isReached : Bool :=
      if 0 ≤ guess then decide (q.2 * Nat.pow 10 guess.toNat ≤ q.1)
      else decide (q.2 ≤ q.1 * Nat.pow 10 (-guess).toNat)
    if isReached then guess else guess - 1

/-- The digits of a quotient, one more than `places`, and the power of ten that the first counts. -/
def digits (q : Nat × Nat) (places : Nat) : Nat × Int :=
  let power := leading q
  let n := scaled q (places - power)
  if n = Nat.pow 10 (places + 1) then (Nat.pow 10 places, power + 1) else (n, power)

/-- An exponent, of two digits at least. -/
def exponent (mark : Char) (power : Int) : Text :=
  let ds := Text.ofNat power.natAbs
  mark :: (if power < 0 then '-' else '+') :: (if ds.length < 2 then '0' :: ds else ds)

/-- A numeral without the zeros at its end, and without a point there. -/
def trimmed (t : Text) : Text :=
  if t.contains '.' then
    let t := (t.reverse.dropWhile (· = '0'))
    (if t.head? = some '.' then t.drop 1 else t).reverse
  else t

/-- The numeral of a magnitude with the given number of places behind the point. -/
def fixed (places : Nat) (keepsPoint : Bool) (mantissa : Nat) (e : Int) : Text :=
  withPoint (scaled (quotient mantissa e) places) places keepsPoint

/-- The numeral of a magnitude with one digit in front of the point, and an exponent. -/
def scientific (mark : Char) (places : Nat) (keepsPoint : Bool) (mantissa : Nat) (e : Int) : Text :=
  let (n, power) := digits (quotient mantissa e) places
  withPoint n places keepsPoint ++ exponent mark power

/-- The shorter of the two numerals with the given number of digits. -/
def general (mark : Char) (count : Nat) (keepsZeros : Bool) (mantissa : Nat) (e : Int) : Text :=
  let count := max count 1
  let (n, power) := digits (quotient mantissa e) (count - 1)
  let trim (t : Text) : Text := if keepsZeros then t else trimmed t
  if -4 ≤ power ∧ power < count then
    trim (fixed ((count - 1 - power).toNat) keepsZeros mantissa e)
  else trim (withPoint n (count - 1) keepsZeros) ++ exponent mark power

end Binary

namespace Decimal

/-- The digits at the front of a text, and what follows them. -/
def digitsOf (t : Text) : Text × Text :=
  (t.takeWhile Char.isDigit, t.dropWhile Char.isDigit)

/-- The exponent at the front of a text, and what follows it. -/
def exponentOf (t : Text) : Int × Text :=
  match t with
  | e :: rest =>
    let (negative, behind) : Bool × Text :=
      match rest with
      | '-' :: rest => (true, rest)
      | '+' :: rest => (false, rest)
      | _ => (false, rest)
    let (ds, after) := digitsOf behind
    if (e = 'e' ∨ e = 'E') ∧ ds ≠ [] then
      let n : Int := (Text.toNat? ds).getD 0
      (if negative then -n else n, after)
    else (0, t)
  | [] => (0, t)

/-- The floating number at the front of a text that begins with no sign, and what follows it. -/
def unsigned? (t : Text) : Option (Float × Text) :=
  let (whole, rest) := digitsOf t
  let (part, rest) : Text × Text :=
    match rest with
    | '.' :: behind => digitsOf behind
    | _ => ([], rest)
  if whole.isEmpty ∧ part.isEmpty then none
  else
    let (power, after) := exponentOf rest
    let n := (Text.toNat? (whole ++ part)).getD 0
    let power := power - part.length
    -- Beyond these powers every number is zero or infinite.
    let power := max (-5000) (min 5000 power)
    some (if 0 ≤ power then Float.ofScientific n false power.toNat
      else Float.ofScientific n true (-power).toNat, after)

/-- The floating number at the front of a text, and what follows it. -/
def read? (t : Text) : Option (Float × Text) :=
  match t.dropWhile fun c => c = ' ' ∨ ('\t' ≤ c ∧ c ≤ '\r') with
  | '-' :: rest => (unsigned? rest).map fun (x, rest) => (-x, rest)
  | '+' :: rest => unsigned? rest
  | rest => unsigned? rest

end Decimal

end Postroom
