import Postroom.Mail.Field
import Postroom.Mail.EncodedWord
import Postroom.Mail.Address

/-!
# Messages

A message is its octets together with its header fields, read once: names as they are spelled,
values unfolded and decoded.  Names are compared without regard to the case of ASCII letters.

* `Message.ofOctets` — reads a message; only a malformed header block is refused;
* `Message.header`, `Message.headers`, `Message.headerNames` — queries by name;
* `Message.sender` — the address of the author.
-/

namespace Postroom

/-- A message and its header fields in order. -/
structure Message where
  raw : Octets
  fields : List (Text × Text)
deriving DecidableEq, Repr

namespace Message

/-- The name and the value of a field as text. -/
def readField (f : Field) : Text × Text :=
  (Utf8.ofLatin1 f.name, FieldText.decode (Utf8.decodeOrLatin1 f.value))

/-- Reads a message. -/
def ofOctets (raw : Octets) : Except HeaderError Message :=
  match Field.readBlock raw with
  | .ok (fields, _) => .ok ⟨raw, fields.map readField⟩
  | .error e => .error e

/-- The size of the message in octets. -/
def size (m : Message) : Nat :=
  m.raw.length

/-- The values of all fields of a name, in order. -/
def headers (m : Message) (name : Text) : List Text :=
  (m.fields.filter fun field => Text.sameName field.1 name).map (·.2)

/-- The value of the first field of a name. -/
def header (m : Message) (name : Text) : Option Text :=
  (m.fields.find? fun field => Text.sameName field.1 name).map (·.2)

/-- Adds a name at the end of a list unless the list has it in some spelling. -/
def addName (names : List Text) (name : Text) : List Text :=
  if names.any (Text.sameName · name) then names else names ++ [name]

/-- The names of the fields, each once, in the order and spelling of its first field. -/
def headerNames (m : Message) : List Text :=
  (m.fields.map (·.1)).foldl addName []

/-- The value of the field `Message-ID`. -/
def messageId (m : Message) : Option Text :=
  m.header "Message-ID".toList

/-- The address of the author: of the fields `From` and `Sender`, the first that is present
decides, by its first address or by its trimmed text. -/
def sender (m : Message) : Text :=
  match ["From".toList, "Sender".toList].findSome? m.header with
  | some value => (Address.first? value).getD (Text.trim value)
  | none => []

theorem headers_head? (m : Message) (name : Text) : (m.headers name).head? = m.header name := by
  simp [headers, header, List.head?_map, List.head?_filter]

/-- A message that begins with an empty line has no fields. -/
theorem ofOctets_of_blank (body : Octets) :
    ofOctets (Field.lf :: body) = .ok ⟨Field.lf :: body, []⟩ := by
  have hblock : Field.readBlock (Field.lf :: body) = .ok ([], body) := by
    unfold Field.readBlock
    rfl
  rw [ofOctets, hblock]
  rfl

theorem raw_of_ofOctets {raw : Octets} {m : Message} (h : ofOctets raw = .ok m) : m.raw = raw := by
  unfold ofOctets at h
  split at h
  · cases h
    rfl
  · cases h

end Message

end Postroom
