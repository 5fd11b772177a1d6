import Postroom.Text.Basic

/-!
# UTF-8

One scan serves both readings of octets as text.  It yields the characters in order and a gap for
every maximal stretch that cannot be continued to a character: the strict reading `decode?`
refuses a gap, the lenient reading `decodeLossy` shows U+FFFD in its place.  `encode` is the
inverse of the strict reading.
-/

namespace Postroom.Utf8

/-- A sequence that has begun: how many octets are missing, the bits read so far, and the range
the next octet has to lie in. -/
structure Pending where
  missing : Nat
  bits : Nat
  low : UInt8
  high : UInt8

/-- What an octet at the start of a sequence stands for. -/
inductive Lead where
  | char (c : Char)
  | opens (p : Pending)
  | stray

/-- Sorts an octet at the start of a sequence.  The narrowed ranges after `E0`, `ED`, `F0` and
`F4` exclude overlong forms, surrogates and what lies beyond U+10FFFF. -/
def lead (b : UInt8) : Lead :=
  if b < 0x80 then .char (Char.ofNat b.toNat)
  else if b < 0xC2 then .stray
  else if b < 0xE0 then .opens ⟨1, b.toNat - 0xC0, 0x80, 0xBF⟩
  else if b < 0xF0 then
    .opens ⟨2, b.toNat - 0xE0, if b = 0xE0 then 0xA0 else 0x80, if b = 0xED then 0x9F else 0xBF⟩
  else if b < 0xF5 then
    .opens ⟨3, b.toNat - 0xF0, if b = 0xF0 then 0x90 else 0x80, if b = 0xF4 then 0x8F else 0xBF⟩
  else .stray

/-- The characters of octets, `none` for each malformed stretch; `pending` is the sequence that
is open before the first octet. -/
def scanFrom (pending : Option Pending) : Octets → List (Option Char)
  | [] => if pending.isSome then [none] else []
  | b :: rest =>
    let fresh : Unit → List (Option Char) := fun _ =>
      match lead b with
      | .char c => some c :: scanFrom none rest
      | .stray => none :: scanFrom none rest
      | .opens p => scanFrom (some p) rest
    match pending with
    | none => fresh ()
    | some p =>
      if p.low ≤ b ∧ b ≤ p.high then
        let bits := p.bits * 64 + (b.toNat - 0x80)
        if p.missing = 1 then some (Char.ofNat bits) :: scanFrom none rest
        else scanFrom (some ⟨p.missing - 1, bits, 0x80, 0xBF⟩) rest
      else none :: fresh ()

/-- The characters of octets, with a gap for every malformed stretch. -/
def scan (bytes : Octets) : List (Option Char) :=
  scanFrom none bytes

/-- The text that well-formed octets stand for. -/
def decode? (bytes : Octets) : Option Text :=
  (scan bytes).mapM id

/-- The text that octets stand for, with U+FFFD for every malformed stretch. -/
def decodeLossy (bytes : Octets) : Text :=
  (scan bytes).map (·.getD (Char.ofNat 0xFFFD))

/-- The octets of a text. -/
def encode (t : Text) : Octets :=
  t.flatMap String.utf8EncodeChar

@[simp] theorem encode_nil : encode [] = [] := rfl

@[simp] theorem encode_append (s t : Text) : encode (s ++ t) = encode s ++ encode t := by
  simp [encode]

/-- Reads every octet as the character of the same number. -/
def ofLatin1 (bytes : Octets) : Text :=
  bytes.map fun b => Char.ofNat b.toNat

/-- The octets that the characters of a text are the numbers of. -/
def toLatin1 (t : Text) : Octets :=
  t.map fun c => UInt8.ofNat c.toNat

theorem toLatin1_ofLatin1 (bytes : Octets) : toLatin1 (ofLatin1 bytes) = bytes := by
  have h : (fun c : Char => UInt8.ofNat c.toNat) ∘ (fun b : UInt8 => Char.ofNat b.toNat) = id := by
    funext b
    have hv : b.toNat.isValidChar := Or.inl (by have := b.toNat_lt; omega)
    rw [Function.comp_apply, Char.ofNat, dif_pos hv]
    exact UInt8.ofNat_toNat
  rw [toLatin1, ofLatin1, List.map_map, h, List.map_id]

/-- Reads octets as UTF-8 where they are, and octet by octet where they are not. -/
def decodeOrLatin1 (bytes : Octets) : Text :=
  (decode? bytes).getD (ofLatin1 bytes)

end Postroom.Utf8
