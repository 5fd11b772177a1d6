import Postroom.Mail.Message
import Postroom.Pattern.Parser
import Postroom.Pattern.Size

/-!
# Spam

A spam detector in front of the library marks spam with a field of its own.  `SpamConfig` names the
field and, if its presence is not enough, a pattern for its value; `SpamDetector.isSpam` reads the
verdict from a message.
-/

namespace Postroom

/-- The field that marks spam, and the pattern that its whole value has to match. -/
structure SpamConfig where
  field : Option Text
  pattern : Option Text
deriving DecidableEq, Repr

namespace SpamConfig

/-- The name of the field, unless it is blank. -/
def marker (c : SpamConfig) : Option Text :=
  (c.field.map Text.trim).filter fun name => !name.isEmpty

end SpamConfig

/-- A text that is no pattern, or one that is too large. -/
structure PatternError where
  pattern : Text
deriving DecidableEq, Repr

/-- The wording of the cause. -/
def PatternError.message (e : PatternError) : Text :=
  "cannot compile spam header value pattern ".toList ++ e.pattern

/-- A spam configuration whose pattern has been read. -/
structure SpamDetector where
  marker : Option Text
  pattern : Option Pattern
deriving DecidableEq, Repr

namespace SpamDetector

/-- The detector that finds no spam. -/
def none : SpamDetector :=
  ⟨.none, .none⟩

/-- The notation of a pattern for the whole of a text. -/
def anchored (pattern : Text) : Text :=
  "^(?:".toList ++ pattern ++ ")$".toList

/-- The pattern for the whole of a text in this notation, unless it is too large. -/
def compile? (pattern : Text) : Option Pattern :=
  (Pattern.parse? (anchored pattern)).filter Pattern.fits

/-- The detector of a configuration. -/
def ofConfig (c : SpamConfig) : Except PatternError SpamDetector :=
  match c.pattern with
  | .none => .ok ⟨c.marker, .none⟩
  | some text =>
    match compile? text with
    | some p => .ok ⟨c.marker, some p⟩
    | .none => .error ⟨text⟩

/-- The message is marked as spam. -/
def isSpam (d : SpamDetector) (m : Message) : Bool :=
  match d.marker.bind m.header with
  | .none => false
  | some value => d.pattern.all fun p => p.isFound value

end SpamDetector

end Postroom
