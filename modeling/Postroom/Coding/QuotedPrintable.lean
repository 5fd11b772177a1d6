import Postroom.Text.Blank
import Postroom.Text.Utf8

/-!
# Quoted-printable

Octets written as text: printable ASCII stands for itself and `=` with two hexadecimal digits for
any octet.  Mail in the wild breaks these rules, so the reading is lenient: an escape that is none
stands for itself, and characters that may not occur are passed over.
-/

namespace Postroom.QuotedPrintable

/-- The characters that may occur in quoted-printable text. -/
def isAllowed (c : Char) : Bool :=
  c == '\t' || c == '\r' || c == '\n' || (' ' ≤ c && c ≤ '~')

/-- The octets of one line.  An `=` at the very end announces a line break that does not count. -/
def decodeLine : Text → Octets
  | [] => []
  | ['='] => []
  | ['=', c] => Utf8.encode ['=', c]
  | '=' :: a :: b :: rest =>
    match Text.hexValue a, Text.hexValue b with
    | some x, some y => UInt8.ofNat (x * 16 + y) :: decodeLine rest
    | _, _ => Utf8.encode ['=', a, b] ++ decodeLine rest
  | c :: rest => Utf8.encode [c] ++ decodeLine rest

/-- The octets of a line of text, less the characters that may not occur and trailing blanks. -/
def decode (line : Text) : Octets :=
  decodeLine (Text.trimEnd (line.filter isAllowed))

/-- The octets of a word in a header field, where `_` stands for a space and trailing blanks
count. -/
def decodeWord (word : Text) : Octets :=
  let spaced := word.map fun c => if c = '_' then ' ' else c
  decode (Text.trimEnd spaced) ++ Utf8.encode (Text.trailingBlanks spaced)

end Postroom.QuotedPrintable
