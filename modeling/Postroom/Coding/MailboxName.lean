import Postroom.Text.Utf8
import Postroom.Coding.Base64
import Postroom.Coding.Utf16

/-!
# Mailbox names on the wire

A mail server names its mailboxes in a variant of UTF-7: printable ASCII stands for itself, `&-`
for an ampersand, and `&…-` for a stretch of other characters, as UTF-16 in base64 with `,` for `/`
and without padding.  `encode` writes every stretch of such characters as one group; `decode`
reads whatever is in the form of a group.
-/

namespace Postroom.MailboxName

/-- The characters that stand for themselves. -/
def isPlain (c : Char) : Bool :=
  0x20 ≤ c.toNat && c.toNat ≤ 0x7F

/-- A stretch of characters that do not stand for themselves, as one group. -/
def group (stretch : Text) : Text :=
  let digits := (Base64.encode (Utf16.bigEndian (Utf16.units stretch))).filter (· ≠ '=')
  '&' :: digits.map (fun c => if c = '/' then ',' else c) ++ ['-']

/-- Writes a stretch that is open, last character first, if there is one. -/
def flush (stretch : Text) : Text :=
  if stretch.isEmpty then [] else group stretch.reverse

/-- Encodes a text after an open stretch, which is kept last character first. -/
def encodeFrom (stretch : Text) : Text → Text
  | [] => flush stretch
  | c :: rest =>
    if isPlain c then
      flush stretch ++ (if c = '&' then ['&', '-'] else [c]) ++ encodeFrom [] rest
    else encodeFrom (c :: stretch) rest

/-- The wire form of a mailbox name. -/
def encode (name : Text) : Text :=
  encodeFrom [] name

/-- The octets of a group's digits, with the padding put back. -/
def digitOctets (digits : Text) : Octets :=
  let standard := digits.map fun c => if c = ',' then '/' else c
  let padded := standard ++ List.replicate ((4 - standard.length % 4) % 4) '='
  (Base64.decode? padded).getD []

/-- The text of a group's octets, where a byte order mark decides the order and is dropped. -/
def groupText (bytes : Octets) : Text :=
  match bytes with
  | 0xFE :: 0xFF :: rest => Utf16.decodeBigEndian rest
  | 0xFF :: 0xFE :: rest => Utf16.decodeLittleEndian rest
  | 0xEF :: 0xBB :: 0xBF :: rest => Utf8.decodeLossy rest
  | _ => Utf16.decodeBigEndian bytes

/-- Decodes a text; `digits` is what has been read of an open group, last character first. -/
def decodeFrom (digits : Option Text) : Text → Text
  | [] =>
    match digits with
    | some ds => '&' :: ds.reverse
    | none => []
  | c :: rest =>
    match digits with
    | some ds =>
      if c = '-' then
        (if ds.isEmpty then ['&'] else groupText (digitOctets ds.reverse)) ++ decodeFrom none rest
      else decodeFrom (some (c :: ds)) rest
    | none => if c = '&' then decodeFrom (some []) rest else c :: decodeFrom none rest

/-- The name that a wire form stands for. -/
def decode (wire : Text) : Text :=
  decodeFrom none wire

end Postroom.MailboxName
