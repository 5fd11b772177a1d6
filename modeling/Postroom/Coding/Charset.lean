import Postroom.Text.Utf8
import Postroom.Coding.Utf7
import Postroom.Coding.CodePage

/-!
# Character sets of mail

The character sets that headers name, each with the labels it goes by.  `Charset.decode` is total:
what is no text in the set shows as U+FFFD.
-/

namespace Postroom

/-- A way to read octets as text. -/
inductive Charset where
  | utf8
  | utf7
  | utf16be
  | utf16le
  /-- One octet a character. -/
  | codePage (page : CodePage)

namespace Charset

/-- The labels of the known sets, in lower case. -/
def labels : List (Charset × List String) :=
  [(utf8, ["unicode-1-1-utf-8", "unicode11utf8", "unicode20utf8", "utf-8", "utf8",
      "x-unicode20utf8"]),
   (codePage CodePage.dosCyrillic, ["866", "cp866", "csibm866", "ibm866"]),
   (codePage CodePage.latin2, ["csisolatin2", "iso-8859-2", "iso-ir-101", "iso8859-2", "iso88592",
      "iso_8859-2", "iso_8859-2:1987", "l2", "latin2"]),
   (codePage CodePage.latin3, ["csisolatin3", "iso-8859-3", "iso-ir-109", "iso8859-3", "iso88593",
      "iso_8859-3", "iso_8859-3:1988", "l3", "latin3"]),
   (codePage CodePage.latin4, ["csisolatin4", "iso-8859-4", "iso-ir-110", "iso8859-4", "iso88594",
      "iso_8859-4", "iso_8859-4:1988", "l4", "latin4"]),
   (codePage CodePage.latinCyrillic, ["csisolatincyrillic", "cyrillic", "iso-8859-5", "iso-ir-144",
      "iso8859-5", "iso88595", "iso_8859-5", "iso_8859-5:1988"]),
   (codePage CodePage.latinArabic, ["arabic", "asmo-708", "csiso88596e", "csiso88596i",
      "csisolatinarabic", "ecma-114", "iso-8859-6", "iso-8859-6-e", "iso-8859-6-i", "iso-ir-127",
      "iso8859-6", "iso88596", "iso_8859-6", "iso_8859-6:1987"]),
   (codePage CodePage.latinGreek, ["csisolatingreek", "ecma-118", "elot_928", "greek", "greek8",
      "iso-8859-7", "iso-ir-126", "iso8859-7", "iso88597", "iso_8859-7", "iso_8859-7:1987",
      "sun_eu_greek"]),
   (codePage CodePage.latinHebrew, ["csiso88598e", "csiso88598i", "csisolatinhebrew", "hebrew",
      "iso-8859-8", "iso-8859-8-e", "iso-8859-8-i", "iso-ir-138", "iso8859-8", "iso88598",
      "iso_8859-8", "iso_8859-8:1988", "logical", "visual"]),
   (codePage CodePage.latin6, ["csisolatin6", "iso-8859-10", "iso-ir-157", "iso8859-10",
      "iso885910", "l6", "latin6"]),
   (codePage CodePage.latin7, ["iso-8859-13", "iso8859-13", "iso885913"]),
   (codePage CodePage.latin8, ["iso-8859-14", "iso8859-14", "iso885914"]),
   (codePage CodePage.latin9, ["csisolatin9", "iso-8859-15", "iso8859-15", "iso885915",
      "iso_8859-15", "l9"]),
   (codePage CodePage.latin10, ["iso-8859-16"]),
   (codePage CodePage.koi8r, ["cskoi8r", "koi", "koi8", "koi8-r", "koi8_r"]),
   (codePage CodePage.koi8u, ["koi8-ru", "koi8-u"]),
   (codePage CodePage.macRoman, ["csmacintosh", "mac", "macintosh", "x-mac-roman"]),
   (codePage CodePage.thai, ["dos-874", "iso-8859-11", "iso8859-11", "iso885911", "tis-620",
      "windows-874"]),
   (codePage CodePage.windows1250, ["cp1250", "windows-1250", "x-cp1250"]),
   (codePage CodePage.windows1251, ["cp1251", "windows-1251", "x-cp1251"]),
   (codePage CodePage.windows1252, ["ansi_x3.4-1968", "ascii", "cp1252", "cp819", "csisolatin1",
      "ibm819", "iso-8859-1", "iso-ir-100", "iso8859-1", "iso88591", "iso_8859-1",
      "iso_8859-1:1987", "l1", "latin1", "us-ascii", "windows-1252", "x-cp1252"]),
   (codePage CodePage.windows1253, ["cp1253", "windows-1253", "x-cp1253"]),
   (codePage CodePage.windows1254, ["cp1254", "csisolatin5", "iso-8859-9", "iso-ir-148",
      "iso8859-9", "iso88599", "iso_8859-9", "iso_8859-9:1989", "l5", "latin5", "windows-1254",
      "x-cp1254"]),
   (codePage CodePage.windows1255, ["cp1255", "windows-1255", "x-cp1255"]),
   (codePage CodePage.windows1256, ["cp1256", "windows-1256", "x-cp1256"]),
   (codePage CodePage.windows1257, ["cp1257", "windows-1257", "x-cp1257"]),
   (codePage CodePage.windows1258, ["cp1258", "windows-1258", "x-cp1258"]),
   (codePage CodePage.macCyrillic, ["x-mac-cyrillic", "x-mac-ukrainian"]),
   (codePage CodePage.userDefined, ["x-user-defined"]),
   (utf16be, ["unicodefffe", "utf-16be"]),
   (utf16le, ["csunicode", "iso-10646-ucs-2", "ucs-2", "unicode", "unicodefeff", "utf-16",
      "utf-16le"]),
   (utf7, ["utf-7"])]

/-- The blanks that may surround a label. -/
def isLabelBlank (c : Char) : Bool :=
  c == '\t' || c == '\n' || c == '\x0c' || c == '\r' || c == ' '

/-- A label in the form in which labels are compared. -/
def normalLabel (label : Text) : Text :=
  (((label.dropWhile isLabelBlank).reverse.dropWhile isLabelBlank).reverse).map Char.toLower

/-- The set that a label names. -/
def ofLabel? (label : Text) : Option Charset :=
  let key := normalLabel label
  (labels.find? fun entry => entry.2.any fun name => name.toList == key).map (·.1)

/-- The text that octets stand for in a set. -/
def decode : Charset → Octets → Text
  | utf8, bytes => Utf8.decodeLossy bytes
  | utf7, bytes => Utf7.decode bytes
  | utf16be, bytes => Utf16.decodeBigEndian bytes
  | utf16le, bytes => Utf16.decodeLittleEndian bytes
  | codePage page, bytes => page.decode bytes

end Charset

end Postroom
