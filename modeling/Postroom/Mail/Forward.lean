import Postroom.Mail.Date
import Postroom.Mail.Multipart
import Postroom.Notice

/-!
# Messages sent on

A message that is sent on needs the fields `MIME-Version`, `Message-ID` and `Date`.
`Forward.prepare` puts the missing ones in front and leaves the message itself alone.  A message
whose parts cannot be read or whose date is none gets no date.
-/

namespace Postroom.Forward

/-- What makes one sending unlike any other: a fresh identifier and the time. -/
structure Stamp where
  uuid : Text
  now : Text
deriving DecidableEq, Repr

/-- The message ends lines with a carriage return and a line feed somewhere. -/
def hasCrlf : Octets → Bool
  | a :: b :: rest => (a == Field.cr && b == Field.lf) || hasCrlf (b :: rest)
  | _ => false

/-- How the lines of the message end. -/
def lineEnd (m : Message) : Text :=
  if hasCrlf m.raw then ['\r', '\n'] else ['\n']

/-- The domain of the author, from which the message appears to be sent. -/
def domain (m : Message) : Text :=
  match Text.splitLast '@' m.sender with
  | some (_, c :: rest) => c :: rest
  | _ => "localhost".toList

/-- The identifier of a message that has none. -/
def messageId (stamp : Stamp) (m : Message) : Text :=
  '<' :: stamp.uuid ++ '@' :: domain m ++ ['>']

/-- The line of a field, unless the message has the field. -/
def missing (m : Message) (name value : Text) : Text :=
  if (m.header name).isSome then [] else name ++ [':', ' '] ++ value ++ lineEnd m

/-- The lines put in front of the message; `full` tells whether a date may be among them. -/
def preamble (stamp : Stamp) (m : Message) (full : Bool) : Text :=
  missing m "MIME-Version".toList "1.0".toList
    ++ missing m "Message-ID".toList (messageId stamp m)
    ++ if full then missing m "Date".toList stamp.now else []

/-- The date of the message is missing or exists. -/
def hasSoundDate (m : Message) : Bool :=
  match m.header "Date".toList with
  | some date => (Moment.parse? (Text.trim date)).isSome
  | none => true

/-- The parts of the message can be read, and its date is sound. -/
def isSound (m : Message) : Bool :=
  match Multipart.check m.raw with
  | .ok () => hasSoundDate m
  | .error _ => false

/-- The octets to send on for a message, and what there is to tell. -/
def prepare (stamp : Stamp) (m : Message) : Octets × List Notice :=
  (Utf8.encode (preamble stamp m (isSound m)) ++ m.raw,
    if isSound m then []
    else [.info "message format error detected, minimal headers wrapper in use".toList])

theorem prepare_suffix (stamp : Stamp) (m : Message) : m.raw <:+ (prepare stamp m).1 :=
  ⟨_, rfl⟩

end Postroom.Forward
