import Postroom.Coding.DomainName
import Postroom.Mail.Address
import Postroom.Notice
import Postroom.Text.Slice

/-!
# Internationalized addresses

The domain of an address may be written in ASCII form, with labels such as `xn--bcher-kva`.  Filter
rules are written with the letters people see, so an address field offers both forms:
`Idn.expand` lists the decoded value in front of each value that decodes to something else.

* `Idn.decodeDomain`, `Idn.decodeAddress` — the decoded forms of a domain and of an address;
* `Idn.cuts`, `Idn.splitAddresses` — where a value is cut at commas and semicolons, and the addresses
  with the delimiters behind them;
* `Idn.expandValue` — one value, the decoded value before it, and the warnings.
-/

namespace Postroom.Idn

/-- The fields that hold addresses. -/
def addressFields : List Text :=
  ["bcc", "cc", "from", "reply-to", "sender", "to"].map String.toList

/-- The field of this name holds addresses. -/
def isAddressField (name : Text) : Bool :=
  addressFields.any (Text.sameName · name)

/-- The decoded form of a label; a label that is not in ASCII form, or stands for nothing, is kept.
-/
def decodeLabel (label : Text) : Text :=
  match (Text.stripFront DomainName.acePrefix label).bind Punycode.decode? with
  | some (c :: word) => c :: word
  | _ => label

/-- Puts a label behind the labels before it. -/
def addLabel (decoded label : Text) : Text :=
  (if decoded.isEmpty then [] else decoded ++ ['.']) ++ decodeLabel label

/-- The decoded form of a domain. -/
def decodeDomain (domain : Text) : Text :=
  if Text.hasInfix DomainName.acePrefix domain then
    (Text.pieces (· == '.') domain).foldl addLabel []
  else domain

/-- The decoded form of an address: what stands behind its last `@` is its domain. -/
def decodeAddress (address : Text) : Text :=
  match Text.splitLast '@' address with
  | some (user, domain) => user ++ '@' :: decodeDomain domain
  | none => decodeDomain address

/-- Why a text has no decoded form. -/
inductive IdnError where
  | unreadable (cause : AddressError) (text : Text)
  | notSingle (text : Text)
deriving DecidableEq, Repr

/-- The wording of the cause. -/
def IdnError.message : IdnError → Text
  | unreadable _ text => "cannot parse address ".toList ++ text
  | notSingle text => "cannot find a single address in ".toList ++ text

/-- The decoded form of a text that is a single address, or `none` when decoding changes at most the
case of letters. -/
def decodeSingle (text : Text) : Except IdnError (Option Text) :=
  match Address.parse text with
  | .error e => .error (.unreadable e text)
  | .ok entries =>
    match Address.single? entries with
    | none => .error (.notSingle text)
    | some contact =>
      let decoded := decodeAddress contact.address
      .ok (if Text.sameName decoded contact.address then none
        else some (Contact.render ⟨contact.name, decoded⟩))

/-- The character ends an address within a value. -/
def isDelimiter (c : Char) : Bool :=
  c == ',' || c == ';'

theorem isDelimiter_iff {c : Char} : isDelimiter c = true ↔ c = ',' ∨ c = ';' := by
  simp [isDelimiter]

theorem isDelimiter_of_isBlank {c : Char} (h : isBlank c) : isDelimiter c = false := by
  rw [Bool.eq_false_iff]
  intro hc
  rcases isDelimiter_iff.1 hc with rfl | rfl
  all_goals exact absurd h (by decide)

/-- Where an address stands in a value, and the delimiter behind it: the offsets of the address, of
the delimiter and of what follows. -/
structure Cut where
  start : Nat
  stop : Nat
  next : Nat
deriving DecidableEq, Repr

/-- The cuts of the rest of a value that takes `size` octets; the address that is being read begins
at `start`. -/
def cutsFrom (size start : Nat) : List (Nat × Char) → List Cut
  | [] => if start < size then [⟨start, size, size⟩] else []
  | (offset, c) :: rest =>
    if isDelimiter c then ⟨start, offset, offset + 1⟩ :: cutsFrom size (offset + 1) rest
    else cutsFrom size start rest

/-- Where the addresses of a value and their delimiters stand. -/
def cuts (value : Text) : List Cut :=
  cutsFrom (Text.octetCount value) 0 (Text.indexedFrom 0 value)

/-- The address and the delimiter of a cut. -/
def Cut.read? (value : Text) (cut : Cut) : Option (Text × Text) :=
  (Text.slice? value cut.start cut.stop).bind fun address =>
    (Text.slice? value cut.stop cut.next).map (address, ·)

/-- Cuts a value into addresses, each with the delimiter behind it, unless a cut would go through a
character. -/
def splitAddresses? (value : Text) : Option (List (Text × Text)) :=
  (cuts value).mapM (Cut.read? value)

/-- The addresses of a value, each with the delimiter behind it.  No cut goes through a character. -/
def splitAddresses (value : Text) : List (Text × Text) :=
  (splitAddresses? value).getD []

/-- What becomes of one address of a value: its text, whether it is decoded, and a warning. -/
structure Piece where
  text : Text
  isDecoded : Bool
  notices : List Notice
deriving DecidableEq, Repr

/-- Decodes one address of a value; what cannot be read is kept. -/
def decodePiece (field address : Text) : Piece :=
  if Text.isBlankText address then ⟨address, false, []⟩
  else
    match decodeSingle address with
    | .ok (some decoded) => ⟨decoded, true, []⟩
    | .ok none => ⟨address, false, []⟩
    | .error e =>
      ⟨address, false, [.warning ("invalid address ".toList ++ address ++ " in header ".toList
        ++ field ++ ": ".toList ++ e.message)]⟩

/-- The forms of one value of an address field, and the warnings. -/
def expandValue (field value : Text) : List Text × List Notice :=
  if Text.hasInfix DomainName.acePrefix value then
    let pieces := (splitAddresses value).map fun split => (decodePiece field split.1, split.2)
    let decoded := pieces.flatMap fun piece => piece.1.text ++ piece.2
    let notices := pieces.flatMap fun piece => piece.1.notices
    (if pieces.any (·.1.isDecoded) then [decoded, value] else [value], notices)
  else ([value], [])

/-- The forms of the values of an address field, and the warnings. -/
def expand (field : Text) (values : List Text) : List Text × List Notice :=
  (values.flatMap fun value => (expandValue field value).1,
    values.flatMap fun value => (expandValue field value).2)

end Postroom.Idn
