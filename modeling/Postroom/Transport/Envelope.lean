import Postroom.Coding.DomainName
import Postroom.Mail.Message
import Postroom.Transport.Error
import Postroom.Unicode.Property

/-!
# Envelopes

A mail server is told the author and the recipient of a message apart from the message.  Addresses
on this envelope follow stricter rules than those in the fields of a message.

* `Envelope.check` — decides whether a text is an address;
* `Envelope.make` — the envelope of a message.
-/

namespace Postroom

/-- What a mail server is told about a message: its author, if there is an address for one, and its
recipient. -/
structure Envelope where
  author : Option Text
  recipient : Text
deriving DecidableEq, Repr

namespace Envelope

/-- The characters whose numbers, as two octets, look like a character of two octets. -/
def isTwoOctets (c : Char) : Bool :=
  let n := c.toNat
  0xC200 ≤ n && n < 0xE000 && 0x80 ≤ n % 0x100 && n % 0x100 < 0xC0

/-- The character may stand in a name without quotation marks. -/
def isAtomChar (c : Char) : Bool :=
  Unicode.isAlphanumeric c || "!#$%&'*+-/=?^_\x60\x7b|\x7d~".toList.contains c || isTwoOctets c

/-- The character may stand in quotation marks as it is. -/
def isQuotedChar (c : Char) : Bool :=
  let n := c.toNat
  n == 0x21 || n == 0x20 || n == 0x09 || (0x23 ≤ n && n ≤ 0x5B) || (0x5D ≤ n && n ≤ 0x7E)
    || isTwoOctets c

/-- What stands between quotation marks: characters as they are, or behind a backslash. -/
def isQuotedBody : Text → Bool
  | [] => true
  | '\\' :: c :: rest =>
    (0x21 ≤ c.toNat && c.toNat ≤ 0x7E) && isQuotedBody rest
  | c :: rest => isQuotedChar c && isQuotedBody rest

/-- The number of octets that a text takes. -/
def size (t : Text) : Nat :=
  (Utf8.encode t).length

/-- The part of an address before its last `@`: names joined by dots, or quoted. -/
def isUser (t : Text) : Bool :=
  if t.isEmpty ∨ 64 < size t then false
  else if t.head? = some '"' ∧ t.getLast? = some '"' then
    2 < t.length && isQuotedBody (t.drop 1).dropLast
  else (Text.pieces (· == '.') t).all fun name => !name.isEmpty && name.all isAtomChar

/-- A name between the dots of a domain. -/
def isLabel (t : Text) : Bool :=
  !t.isEmpty && size t ≤ 63 && t.head?.any Unicode.isAlphanumeric
    && t.getLast?.any Unicode.isAlphanumeric
    && t.all isAtomChar

/-- The character may stand in a domain between brackets. -/
def isLiteralChar (c : Char) : Bool :=
  let n := c.toNat
  (0x21 ≤ n && n ≤ 0x5A) || (0x5E ≤ n && n ≤ 0x7E) || isTwoOctets c

/-- The text between brackets around another. -/
def bracketed? (t : Text) : Option Text :=
  (Text.stripFront ['['] t).bind (Text.stripBack [']'])

/-- A domain: names joined by dots, or a literal between brackets. -/
def isDomain (t : Text) : Bool :=
  if t.isEmpty ∨ 254 < size t then false
  else
    match bracketed? t with
    | some inner => inner.all isLiteralChar
    | none => (Text.pieces (· == '.') t).all isLabel

/-- One of the four numbers of an IPv4 address. -/
def isDecimalOctet (t : Text) : Bool :=
  t.length ≤ 3 && (t.length == 1 || t.head? ≠ some '0') && (Text.toNat? t).any (· < 256)

/-- An IPv4 address. -/
def isIpv4 (t : Text) : Bool :=
  let parts := Text.pieces (· == '.') t
  parts.length == 4 && parts.all isDecimalOctet

/-- One of the groups of an IPv6 address. -/
def isHexGroup (t : Text) : Bool :=
  !t.isEmpty && t.length ≤ 4 && t.all fun c => (Text.hexValue c).isSome

/-- How many groups colons separate; the last part may be an IPv4 address, which counts twice. -/
def groups? (t : Text) (isEnd : Bool) : Option Nat :=
  if t.isEmpty then some 0
  else
    let parts := Text.pieces (· == ':') t
    let last := parts.getLast?.getD []
    if parts.all isHexGroup then some parts.length
    else if isEnd ∧ parts.dropLast.all isHexGroup ∧ isIpv4 last then some (parts.length + 1)
    else none

/-- An IPv6 address, in which one run of groups may be left out. -/
def isIpv6 (t : Text) : Bool :=
  match Text.splitAtInfix [':', ':'] t with
  | none => groups? t true == some 8
  | some (front, back) =>
    match groups? front false, groups? back true with
    | some m, some n => m + n < 8
    | _, _ => false

/-- The text names a host in ASCII. -/
def isHost (t : Text) : Bool :=
  isDomain t || isIpv4 ((bracketed? t).getD t) || isIpv6 ((bracketed? t).getD t)

/-- Decides whether a text is an address. -/
def check (t : Text) : Except EnvelopeFault Unit :=
  match Text.splitLast '@' t with
  | none => .error .incomplete
  | some (user, domain) =>
    if !isUser user then .error .user
    else if isHost domain || (DomainName.toAscii? domain).any isHost then .ok ()
    else .error .domain

/-- The text is an address. -/
def isAddress (t : Text) : Bool :=
  (check t).toBool

/-- The author as a message names it, if that is an address. -/
def author? (email : Octets) : Option Text :=
  match Message.ofOctets email with
  | .ok m => if isAddress m.sender then some m.sender else none
  | .error _ => none

/-- The envelope of a message for a recipient. -/
def make (email : Octets) (recipient : Text) : Except SmtpError Envelope :=
  match check recipient with
  | .ok () => .ok ⟨author? email, recipient⟩
  | .error fault => .error (.recipient fault recipient)

/-- Some address has characters beyond ASCII. -/
def isInternational (e : Envelope) : Bool :=
  (e.author.toList ++ [e.recipient]).any fun t => t.any (0x80 ≤ ·.toNat)

end Envelope

end Postroom
