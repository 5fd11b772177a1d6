import Postroom.Coding.Charset
import Postroom.Coding.Percent
import Postroom.Text.Blank
import Postroom.Unicode.Case

/-!
# Content types

The value of a `Content-Type` field: a media type and parameters.  A parameter may be cut into
pieces `name*0`, `name*1`, … and may be percent-encoded in a character set, which a star at the end
of its name announces.  `ContentType.parse` undoes both.
-/

namespace Postroom

/-- Named values; a name occurs once. -/
abbrev Parameters := List (Text × Text)

namespace Parameters

/-- The value of a name. -/
def get? (ps : Parameters) (name : Text) : Option Text :=
  ps.lookup name

/-- Takes a name out. -/
def erase (ps : Parameters) (name : Text) : Parameters :=
  ps.filter fun p => p.1 ≠ name

/-- Gives a name a value, in place of an earlier one. -/
def put (ps : Parameters) (name value : Text) : Parameters :=
  ps.erase name ++ [(name, value)]

/-- The names, in the order of their characters. -/
def names (ps : Parameters) : List Text :=
  (ps.map (·.1)).mergeSort fun a b => decide (String.ofList a ≤ String.ofList b)

end Parameters

/-- A media type in lower case, and its parameters. -/
structure ContentType where
  mediaType : Text
  parameters : Parameters
deriving Repr

namespace ContentType

/-- A value without the quotation marks around it. -/
def unquote (value : Text) : Text :=
  match value with
  | '"' :: c :: rest =>
    if (c :: rest).getLast? = some '"' then (c :: rest).dropLast else value
  | _ => value

/-- The name and the value that a piece of text gives, if it gives one. -/
def parameter? (piece : Text) : Option (Text × Text) :=
  match piece.dropWhile (· ≠ '=') with
  | [] => none
  | _ :: value =>
    some (Unicode.lowercase (Text.trim (piece.takeWhile (· ≠ '='))), unquote (Text.trim value))

/-- The names less a star at their end, for values that are encoded and not given in the clear. -/
def encodedNames (ps : Parameters) : List Text :=
  (ps.names.filterMap (Text.stripBack ['*'])).filter fun name => (ps.get? name).isNone

/-- The label of the character set in front of an encoded value. -/
def labelOf (value : Text) : Text :=
  value.takeWhile (· ≠ '\'')

/-- An encoded value: the label of its character set, and whether the value itself holds it. -/
structure Encoded where
  name : Text
  label : Text
  holdsLabel : Bool

/-- Notes an encoded value, in place of an earlier note on the same name. -/
def note (notes : List Encoded) (e : Encoded) : List Encoded :=
  notes.filter (·.name ≠ e.name) ++ [e]

/-- Notes what is known of an encoded value; the first piece of a value that was cut speaks for all
its pieces. -/
def noteName (ps : Parameters) (names : List Text) (notes : List Encoded) (name : Text) :
    List Encoded :=
  let label := labelOf ((ps.get? (name ++ ['*'])).getD [])
  match Text.stripBack ['*', '0'] name with
  | some whole =>
    (names.filter fun other => (whole ++ ['*']).isPrefixOf other).foldl
      (fun notes other => note notes ⟨other, label, other == name⟩) notes
  | none => if notes.any (·.name == name) then notes else note notes ⟨name, label, true⟩

/-- An encoded value without its label and language, behind the second apostrophe. -/
def dropLabel (value : Text) : Text :=
  ((value.dropWhile (· ≠ '\'')).drop 1).dropWhile (· ≠ '\'') |>.drop 1

/-- Decodes one value, if its character set is known. -/
def decodeValue (ps : Parameters) (e : Encoded) : Parameters :=
  match Charset.ofLabel? e.label with
  | none => ps
  | some charset =>
    let stars := e.name ++ ['*']
    let value := (ps.get? stars).getD []
    let content := if e.holdsLabel then dropLabel value else value
    (ps.erase stars).put e.name (charset.decode (Percent.decode (Utf8.encode content)))

/-- Decodes all encoded values. -/
def decodeValues (ps : Parameters) : Parameters :=
  let names := encodedNames ps
  (names.foldl (noteName ps names) []).foldl decodeValue ps

/-- The pieces of a value from number `i` on, and the parameters without them. -/
def pieces (whole : Text) (ps : Parameters) : Nat → Nat → Text × Parameters
  | 0, _ => ([], ps)
  | fuel + 1, i =>
    let name := whole ++ '*' :: Text.ofNat i
    match ps.get? name with
    | none => ([], ps)
    | some value =>
      let (rest, ps) := pieces whole (ps.erase name) fuel (i + 1)
      (value ++ rest, ps)

/-- Joins the pieces of one value. -/
def joinPieces (ps : Parameters) (whole : Text) : Parameters :=
  let (value, ps) := pieces whole ps ps.length 0
  ps.put whole value

/-- Joins the pieces of all values that are not given whole. -/
def joinAll (ps : Parameters) : Parameters :=
  ((ps.names.filterMap (Text.stripBack ['*', '0'])).filter
    fun name => (ps.get? name).isNone).foldl joinPieces ps

/-- Reads the value of a `Content-Type` field. -/
def parse (value : Text) : ContentType :=
  match Text.pieces (· == ';') value with
  | [] => ⟨[], []⟩
  | mediaType :: rest =>
    let given := (rest.filterMap parameter?).foldl (fun ps p => Parameters.put ps p.1 p.2) []
    ⟨Unicode.lowercase (Text.trim mediaType), joinAll (decodeValues given)⟩

/-- What separates the parts of a message of this type. -/
def boundary? (t : ContentType) : Option Text :=
  if "multipart/".toList.isPrefixOf t.mediaType then t.parameters.get? "boundary".toList else none

end ContentType

end Postroom
