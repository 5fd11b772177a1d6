import Postroom.Mail.Idn
import Postroom.Mail.Message

/-!
# What rules see of a message

Filter rules ask for the values of fields.  Address fields show internationalized domains as people
write them, besides the form they have in the message.

* `Query.header` — the values of a field, and the warnings;
* `Query.matching` — the trimmed values of all fields of a name, whatever its spelling.
-/

namespace Postroom.Query

/-- The values that a field offers to rules. -/
def header (m : Message) (name : Text) : List Text × List Notice :=
  let values := m.headers name
  if !values.isEmpty && Idn.isAddressField name then Idn.expand name values else (values, [])

/-- The spellings of a name that the message has. -/
def spellings (m : Message) (name : Text) : List Text :=
  m.headerNames.filter fun spelling => Text.sameName spelling name

/-- The trimmed values that all fields of a name offer to rules. -/
def matching (m : Message) (name : Text) : List Text × List Notice :=
  let answers := (spellings m name).map (header m)
  ((answers.flatMap (·.1)).map Text.trim, answers.flatMap (·.2))

end Postroom.Query
