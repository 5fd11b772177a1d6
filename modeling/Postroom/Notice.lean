import Postroom.Text.Basic

/-!
# Notices

What the library tells the people who run it, besides its answers: informations and warnings, in
the order in which they arise.
-/

namespace Postroom

/-- How much a notice matters. -/
inductive Severity where
  | info
  | warning
deriving DecidableEq, Repr

/-- One line for the people who run the library. -/
structure Notice where
  severity : Severity
  text : Text
deriving DecidableEq, Repr

namespace Notice

/-- A notice that informs. -/
def info (text : Text) : Notice :=
  ⟨.info, text⟩

/-- A notice that warns. -/
def warning (text : Text) : Notice :=
  ⟨.warning, text⟩

end Notice

end Postroom
