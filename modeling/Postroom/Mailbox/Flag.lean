import Postroom.Text.Basic

/-!
# Flags

A mailbox keeps the flags of a message as bits of one word; flag `-1` is the lowest bit, flag `-2`
the next.  Twelve system flags have names.  On the way to another account the word becomes a set of
transport flags, of which five are standard and the rest carry names; a message that is not unread
is `seen`.
-/

namespace Postroom

/-- The number of a flag; the system flags are negative. -/
abbrev FlagId := Int8

/-- The flags of a message, one bit each. -/
abbrev Bitmask := UInt32

namespace Flag

/-- The bit of a flag: flag `-1 - n` has bit `n`, and a number outside `-32 … -1` has none. -/
def bitmask (id : FlagId) : Bitmask :=
  let bit := -id.toInt - 1
  if bit < 0 ∨ 31 < bit then 0 else 1 <<< UInt32.ofNat bit.toNat

/-- The message has been answered. -/
def replied : FlagId := -3

/-- The message is marked for attention. -/
def flagged : FlagId := -6

/-- The message is a draft. -/
def draft : FlagId := -7

/-- The message is deleted. -/
def deleted : FlagId := -8

/-- The message has not been read. -/
def unread : FlagId := -10

/-- The flags every mailbox knows, with their names. -/
def system : List (FlagId × String) :=
  [(-1, "sent"), (-2, "attachment"), (-3, "replied"), (-4, "forwarded"), (-5, "copied"),
   (-6, "flagged"), (-7, "draft"), (-8, "deleted"), (-9, "notified"), (-10, "unread"),
   (-11, "priority"), (-12, "low-priority")]

end Flag

/-- A flag as a mailbox keeps it. -/
structure MailboxFlag where
  id : FlagId
  name : Text
  bitmask : Bitmask
deriving DecidableEq, Repr

namespace MailboxFlag

/-- The flag of a number and a name; its bit follows from the number. -/
def ofId (id : FlagId) (name : Text) : MailboxFlag :=
  ⟨id, name, Flag.bitmask id⟩

/-- The system flags as a mailbox keeps them. -/
def system : List MailboxFlag :=
  Flag.system.map fun entry => ofId entry.1 entry.2.toList

/-- The system flag of a number. -/
def system? (id : FlagId) : Option MailboxFlag :=
  system.find? (·.id == id)

end MailboxFlag

/-- A flag as it travels to another account. -/
inductive TransportFlag where
  | seen
  | answered
  | flagged
  | deleted
  | draft
  | custom (name : Text)
deriving DecidableEq, Repr

namespace TransportFlag

/-- The transport form of a mailbox flag: four have a standard form, the others keep their name. -/
def ofMailboxFlag (id : FlagId) (name : Text) : TransportFlag :=
  if id = Flag.replied then answered
  else if id = Flag.flagged then flagged
  else if id = Flag.deleted then deleted
  else if id = Flag.draft then draft
  else custom name

/-- The word a transport flag is shown by. -/
def word : TransportFlag → Text
  | seen => "seen".toList
  | answered => "answered".toList
  | flagged => "flagged".toList
  | deleted => "deleted".toList
  | draft => "draft".toList
  | custom name => name

/-- The form in which mail servers write a transport flag: standard flags behind a backslash. -/
def wire : TransportFlag → Text
  | seen => "\\Seen".toList
  | answered => "\\Answered".toList
  | flagged => "\\Flagged".toList
  | deleted => "\\Deleted".toList
  | draft => "\\Draft".toList
  | custom name => name

/-- The transport flags of a word of flag bits: `seen` when the unread bit is clear, and the
transport form of every other system flag whose bit is set. -/
def ofBitmask (mask : Bitmask) : List TransportFlag :=
  let seenPart := if mask &&& Flag.bitmask Flag.unread = 0 then [seen] else []
  let others := Flag.system.filterMap fun entry =>
    if entry.1 ≠ Flag.unread ∧ mask &&& Flag.bitmask entry.1 ≠ 0 then
      some (ofMailboxFlag entry.1 entry.2.toList)
    else none
  (seenPart ++ others).eraseDups

end TransportFlag

end Postroom
