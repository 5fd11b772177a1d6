import Postroom.Text.Basic

/-!
# Base64

Three octets are written as four characters of six bits each.  `encode` pads the last group,
`decode?` reads groups of four and is strict: the padding has to be there, the bits it stands for
have to be zero, and nothing but the alphabet counts.  Padding closes a group, not the text, so a
sequence of encoded texts reads as the sequence of their octets.
-/

namespace Postroom.Base64

/-- The characters of the 64 digits, in order. -/
def alphabet : Text :=
  "ABCDEFGHIJKLMNOPQRSTUVWXYZabcdefghijklmnopqrstuvwxyz0123456789+/".toList

/-- The character of a digit. -/
def digit (n : Nat) : Char :=
  alphabet.getD (n % 64) 'A'

/-- The value of a digit's character. -/
def value? (c : Char) : Option Nat :=
  let n := c.toNat
  if 'A' ≤ c ∧ c ≤ 'Z' then some (n - 65)
  else if 'a' ≤ c ∧ c ≤ 'z' then some (n - 97 + 26)
  else if '0' ≤ c ∧ c ≤ '9' then some (n - 48 + 52)
  else if c = '+' then some 62
  else if c = '/' then some 63
  else none

/-- The digits of a sequence of octets, with padding to a multiple of four. -/
def encode : Octets → Text
  | [] => []
  | [a] => [digit (a.toNat / 4), digit (a.toNat % 4 * 16), '=', '=']
  | [a, b] =>
    [digit (a.toNat / 4), digit (a.toNat % 4 * 16 + b.toNat / 16), digit (b.toNat % 16 * 4), '=']
  | a :: b :: c :: rest =>
    digit (a.toNat / 4) :: digit (a.toNat % 4 * 16 + b.toNat / 16)
      :: digit (b.toNat % 16 * 4 + c.toNat / 64) :: digit (c.toNat % 64) :: encode rest

/-- The octets of one group of four characters. -/
def group? (a b c d : Char) : Option Octets := do
  let x ← value? a
  let y ← value? b
  let first := UInt8.ofNat (x * 4 + y / 16)
  if c = '=' then
    if d = '=' ∧ y % 16 = 0 then some [first] else none
  else
    let z ← value? c
    let second := UInt8.ofNat (y % 16 * 16 + z / 4)
    if d = '=' then
      if z % 4 = 0 then some [first, second] else none
    else
      let w ← value? d
      some [first, second, UInt8.ofNat (z % 4 * 64 + w)]

/-- The octets of a text of whole groups. -/
def decode? : Text → Option Octets
  | [] => some []
  | a :: b :: c :: d :: rest => do
    let head ← group? a b c d
    let tail ← decode? rest
    some (head ++ tail)
  | _ => none

/-- Reads a text that may be broken into lines: line ends do not count. -/
def decodeLines? (t : Text) : Option Octets :=
  decode? (t.filter fun c => c ≠ '\r' ∧ c ≠ '\n')

end Postroom.Base64
