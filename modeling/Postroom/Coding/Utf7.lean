import Postroom.Coding.Base64
import Postroom.Coding.Utf16

/-!
# UTF-7

Text as ASCII octets: `+` begins a stretch of base64 digits that carry UTF-16 units, and the first
octet that is no digit ends it, where a `-` belongs to the stretch.  `+-` is a plus sign.  Octets
that are not ASCII, units that are cut short and a last group of digits that carries no whole octets
show as U+FFFD.
-/

namespace Postroom.Utf7

/-- The octets of a stretch's digits, and whether its last group is one: a short group carries the
octets of the same group with padding, or none. -/
def octets : Text → Octets × Bool
  | a :: b :: c :: d :: rest =>
    ((Base64.group? a b c d).getD [] ++ (octets rest).1, (octets rest).2)
  | [] => ([], true)
  | short =>
    match Base64.decode? (short ++ List.replicate (4 - short.length) '=') with
    | some bytes => (bytes, true)
    | none => ([], false)

/-- The text of a stretch's digits. -/
def stretchText (digits : Text) : Text :=
  let (bytes, isWhole) := octets digits
  Utf16.decodeBigEndian bytes ++ if isWhole then [] else [Utf16.replacement]

/-- The text of octets; `stretch` holds the digits of the stretch that is open before the first
octet, last one first. -/
def decodeFrom (stretch : Option Text) : Octets → Text
  | [] =>
    match stretch with
    | some [] => [Utf16.replacement]
    | some digits => stretchText digits.reverse
    | none => []
  | b :: rest =>
    let c := Char.ofNat b.toNat
    match stretch with
    | some digits =>
      if (Base64.value? c).isSome then decodeFrom (some (c :: digits)) rest
      else if c = '-' then
        (if digits.isEmpty then ['+'] else stretchText digits.reverse) ++ decodeFrom none rest
      else
        (if digits.isEmpty then [Utf16.replacement] else stretchText digits.reverse)
          ++ (if b < 0x80 then [c] else [Utf16.replacement]) ++ decodeFrom none rest
    | none =>
      if c = '+' then decodeFrom (some []) rest
      else if b < 0x80 then c :: decodeFrom none rest
      else Utf16.replacement :: decodeFrom none rest

/-- The text of octets. -/
def decode (bytes : Octets) : Text :=
  decodeFrom none bytes

end Postroom.Utf7
