import Postroom.Text.Blank

/-!
# Address lists

The value of an address field is a list of contacts and of named groups of contacts.  The reading is
one pass over the text: `Reading.step` takes a character, `Reading.finish` the end of the text.

* `Address.parse` — the entries of an address field;
* `Contact.render` — a contact as text, with its name in quotation marks;
* `Entry.firstAddress?`, `Address.first?` — the address that stands for an entry or a list.
-/

namespace Postroom

/-- One address, and the name it is shown with. -/
structure Contact where
  name : Option Text
  address : Text
deriving DecidableEq, Repr

namespace Contact

/-- A quotation mark within a name is written behind a backslash. -/
def escapeName (name : Text) : Text :=
  name.flatMap fun c => if c = '"' then ['\\', '"'] else [c]

/-- A contact as text. -/
def render (c : Contact) : Text :=
  match c.name with
  | some name => '"' :: escapeName name ++ ['"', ' ', '<'] ++ c.address ++ ['>']
  | none => c.address

end Contact

/-- An entry of an address field. -/
inductive Entry where
  | single (contact : Contact)
  | group (name : Text) (members : List Contact)
deriving DecidableEq, Repr

/-- The address that stands for an entry; a group without members has none. -/
def Entry.firstAddress? : Entry → Option Text
  | single contact => some contact.address
  | group _ members => members.head?.map (·.address)

/-- Why a text is no address field. -/
inductive AddressError where
  | strayTerminator
  | nestedGroup
  | atSignMissing
  | strayText
  | groupUnterminated
  | unterminated
deriving DecidableEq, Repr

/-- The wording of the cause. -/
def AddressError.message : AddressError → Text
  | .strayTerminator => "Unexpected group terminator found in initial list".toList
  | .nestedGroup => "Found unexpected nested group".toList
  | .atSignMissing => "Invalid address found: must contain a '@' symbol".toList
  | .strayText => "Unexpected char found after bracketed address".toList
  | .groupUnterminated => "Found unterminated group address".toList
  | .unterminated => "Address string unexpectedly terminated".toList

namespace Address

/-- Where in an entry the reading stands. -/
inductive Place where
  /-- Before an entry. -/
  | start
  /-- Right behind the colon of a group. -/
  | groupStart
  /-- In a quoted name. -/
  | quoted (name : Text)
  /-- Behind a backslash in a quoted name. -/
  | escaped (name : Text)
  /-- Behind a quoted name and some blanks. -/
  | afterQuoted (name gap : Text)
  /-- In an address between angle brackets. -/
  | bracketed (name : Option Text) (address : Text)
  /-- Behind an address between angle brackets. -/
  | afterBracketed
  /-- In text that may turn out to be an address or a name. -/
  | bare (text : Text)
  /-- In a comment within such text. -/
  | commentInBare (text : Text)
  /-- In a comment behind an address between angle brackets. -/
  | commentAfterBracketed
deriving DecidableEq, Repr

/-- What has been read: the entries that are complete, the group that is open, and the place. -/
structure Reading where
  entries : List Entry
  openGroup : Option (Text × List Contact)
  place : Place
deriving DecidableEq, Repr

namespace Reading

/-- The reading of a text that has not begun. -/
def initial : Reading :=
  ⟨[], none, .start⟩

/-- Moves to another place of the same entry. -/
def moveTo (r : Reading) (place : Place) : Reading :=
  { r with place }

/-- Completes a contact, which has to hold an `@`. -/
def add (r : Reading) (name : Option Text) (address : Text) (place : Place) :
    Except AddressError Reading :=
  if '@' ∈ address then
    match r.openGroup with
    | some (group, members) =>
      .ok { r with openGroup := some (group, members ++ [⟨name, address⟩]), place }
    | none => .ok { r with entries := r.entries ++ [.single ⟨name, address⟩], place }
  else .error .atSignMissing

/-- Completes the open group, if there is one. -/
def close (r : Reading) : Reading :=
  match r.openGroup with
  | some (group, members) => ⟨r.entries ++ [.group group members], none, .start⟩
  | none => r.moveTo .start

/-- Opens a group, which cannot stand in another. -/
def begin (r : Reading) (name : Text) : Except AddressError Reading :=
  match r.openGroup with
  | some _ => .error .nestedGroup
  | none => .ok { r with openGroup := some (name, []), place := .groupStart }

/-- Takes the first character of an entry. -/
def stepStart (r : Reading) (c : Char) : Except AddressError Reading :=
  if isBlank c then .ok (r.moveTo .start)
  else if c = '"' then .ok (r.moveTo (.quoted []))
  else if c = '<' then .ok (r.moveTo (.bracketed none []))
  else if c = ';' then
    if r.openGroup.isSome then .ok r.close else .error .strayTerminator
  else .ok (r.moveTo (.bare [c]))

/-- Takes a character behind a quoted name. -/
def stepAfterQuoted (r : Reading) (name gap : Text) (c : Char) : Except AddressError Reading :=
  if isBlank c then .ok (r.moveTo (.afterQuoted name (gap ++ [c])))
  else if c = '<' then .ok (r.moveTo (.bracketed (some name) []))
  else if c = ':' then r.begin name
  else if c = '"' then .ok (r.moveTo (.quoted (name ++ gap)))
  else .ok (r.moveTo (.afterQuoted (name ++ gap ++ [c]) []))

/-- Takes a character behind an address between angle brackets. -/
def stepAfterBracketed (r : Reading) (c : Char) : Except AddressError Reading :=
  if isBlank c then .ok r
  else if c = ',' then .ok (r.moveTo .start)
  else if c = ';' then .ok r.close
  else if c = '(' then .ok (r.moveTo .commentAfterBracketed)
  else .error .strayText

/-- Takes a character of text that may turn out to be an address or a name. -/
def stepBare (r : Reading) (text : Text) (c : Char) : Except AddressError Reading :=
  if c = '<' then .ok (r.moveTo (.bracketed (some (Text.trimEnd text)) []))
  else if c = ',' then r.add none (Text.trimEnd text) .start
  else if c = ';' then (r.add none (Text.trimEnd text) .start).map close
  else if c = ':' then r.begin (Text.trimEnd text)
  else if c = '(' then .ok (r.moveTo (.commentInBare text))
  else .ok (r.moveTo (.bare (text ++ [c])))

/-- Takes a character. -/
def step (r : Reading) (c : Char) : Except AddressError Reading :=
  match r.place with
  | .start | .groupStart => r.stepStart c
  | .quoted name =>
    if c = '\\' then .ok (r.moveTo (.escaped name))
    else if c = '"' then .ok (r.moveTo (.afterQuoted name []))
    else .ok (r.moveTo (.quoted (name ++ [c])))
  | .escaped name => .ok (r.moveTo (.quoted (name ++ [c])))
  | .afterQuoted name gap => r.stepAfterQuoted name gap c
  | .bracketed name address =>
    if c = '>' then r.add name address .afterBracketed
    else .ok (r.moveTo (.bracketed name (address ++ [c])))
  | .afterBracketed => r.stepAfterBracketed c
  | .bare text => r.stepBare text c
  | .commentInBare text => .ok (if c = ')' then r.moveTo (.bare text) else r)
  | .commentAfterBracketed => .ok (if c = ')' then r.moveTo .afterBracketed else r)

/-- Takes the end of the text.  It ends a group only right behind the group's colon. -/
def finish (r : Reading) : Except AddressError (List Entry) :=
  match r.openGroup, r.place with
  | some _, .groupStart => .ok r.close.entries
  | some _, _ => .error .groupUnterminated
  | none, .start | none, .groupStart | none, .afterBracketed => .ok r.entries
  | none, .bare text => (r.add none (Text.trimEnd text) .start).map (·.entries)
  | none, _ => .error .unterminated

/-- Takes the characters of a text in order. -/
def run (r : Reading) (text : Text) : Except AddressError Reading :=
  match text with
  | [] => .ok r
  | c :: rest =>
    match r.step c with
    | .ok next => next.run rest
    | .error e => .error e

end Reading

/-- The entries of an address field. -/
def parse (text : Text) : Except AddressError (List Entry) :=
  match Reading.initial.run text with
  | .ok r => r.finish
  | .error e => .error e

/-- The contact that a list of one contact consists of. -/
def single? : List Entry → Option Contact
  | [.single contact] => some contact
  | _ => none

/-- The first address of an address field that can be read and holds one. -/
def first? (text : Text) : Option Text :=
  match parse text with
  | .ok entries => entries.findSome? Entry.firstAddress?
  | .error _ => none

end Address

end Postroom
