import Postroom.Text.Basic

/-!
# Percent encoding

An octet is written as `%` and two hexadecimal digits; a `%` without two such digits stands for
itself.
-/

namespace Postroom.Percent

/-- The value of an octet that is a hexadecimal digit. -/
def hexOctet? (b : UInt8) : Option Nat :=
  Text.hexValue (Char.ofNat b.toNat)

/-- The octets that percent-encoded octets stand for. -/
def decode : Octets → Octets
  | 0x25 :: a :: b :: rest =>
    match hexOctet? a, hexOctet? b with
    | some x, some y => UInt8.ofNat (x * 16 + y) :: decode rest
    | _, _ => 0x25 :: decode (a :: b :: rest)
  | c :: rest => c :: decode rest
  | [] => []

end Postroom.Percent
