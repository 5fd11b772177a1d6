import Postroom.Text.Basic

/-!
# UTF-16

Text as units of sixteen bits: a character beyond U+FFFF takes two units, a high and a low
surrogate.  The reading is lenient: a surrogate without its partner and a half unit at the end are
shown as U+FFFD.
-/

namespace Postroom.Utf16

/-- The sign in the place of what is not text. -/
def replacement : Char := Char.ofNat 0xFFFD

/-- A unit that begins a pair. -/
def isHigh (u : Nat) : Bool := 0xD800 ≤ u && u < 0xDC00

/-- A unit that ends a pair. -/
def isLow (u : Nat) : Bool := 0xDC00 ≤ u && u < 0xE000

/-- The units of one character. -/
def unitsOf (c : Char) : List Nat :=
  let n := c.toNat
  if n < 0x10000 then [n] else [0xD800 + (n - 0x10000) / 0x400, 0xDC00 + (n - 0x10000) % 0x400]

/-- The units of a text. -/
def units (t : Text) : List Nat :=
  t.flatMap unitsOf

/-- The character of a pair of surrogates. -/
def pair (high low : Nat) : Char :=
  Char.ofNat (0x10000 + (high - 0xD800) * 0x400 + (low - 0xDC00))

/-- The text of a list of units; `high` is an open first half of a pair. -/
def ofUnitsFrom (high : Option Nat) : List Nat → Text
  | [] => if high.isSome then [replacement] else []
  | u :: rest =>
    match high with
    | some h =>
      if isLow u then pair h u :: ofUnitsFrom none rest
      else if isHigh u then replacement :: ofUnitsFrom (some u) rest
      else replacement :: Char.ofNat u :: ofUnitsFrom none rest
    | none =>
      if isHigh u then ofUnitsFrom (some u) rest
      else if isLow u then replacement :: ofUnitsFrom none rest
      else Char.ofNat u :: ofUnitsFrom none rest

/-- The text of a list of units. -/
def ofUnits (us : List Nat) : Text :=
  ofUnitsFrom none us

/-- The octets of units, high octet first. -/
def bigEndian (us : List Nat) : Octets :=
  us.flatMap fun u => [UInt8.ofNat (u / 256), UInt8.ofNat (u % 256)]

/-- The units of octets, high octet first, and whether half a unit is left over. -/
def unitsBigEndian : Octets → List Nat × Bool
  | a :: b :: rest =>
    let (us, odd) := unitsBigEndian rest
    ((a.toNat * 256 + b.toNat) :: us, odd)
  | [_] => ([], true)
  | [] => ([], false)

/-- The units of octets, low octet first, and whether half a unit is left over. -/
def unitsLittleEndian : Octets → List Nat × Bool
  | a :: b :: rest =>
    let (us, odd) := unitsLittleEndian rest
    ((b.toNat * 256 + a.toNat) :: us, odd)
  | [_] => ([], true)
  | [] => ([], false)

/-- The text of units with a sign for a half unit at the end.  A half unit after an open pair makes
one malformed stretch with it. -/
def text (read : List Nat × Bool) : Text :=
  let t := ofUnits read.1
  if read.2 && !(read.1.getLast?.map isHigh).getD false then t ++ [replacement] else t

/-- The text of octets, high octet first. -/
def decodeBigEndian (bytes : Octets) : Text :=
  text (unitsBigEndian bytes)

/-- The text of octets, low octet first. -/
def decodeLittleEndian (bytes : Octets) : Text :=
  text (unitsLittleEndian bytes)

end Postroom.Utf16
