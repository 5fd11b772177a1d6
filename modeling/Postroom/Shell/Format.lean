import Postroom.Shell.Arithmetic
import Postroom.Text.Decimal

/-!
# Formats

The backslash escapes and the formats of the commands that write their arguments.

* `Escape.read` — what a text with escapes stands for;
* `Format.parse` — a format as literal text and conversions;
* `Format.render` — a format with its arguments filled in.
-/

namespace Postroom.Shell

namespace Escape

/-- The character of a one-letter escape. -/
def letter? (c : Char) : Option Char :=
  match c with
  | 'a' => some '\x07'
  | 'b' => some '\x08'
  | 'e' => some '\x1b'
  | 'f' => some '\x0c'
  | 'n' => some '\n'
  | 'r' => some '\r'
  | 't' => some '\t'
  | 'v' => some '\x0b'
  | '\\' => some '\\'
  | _ => none

/-- The value of at most `digits` octal digits, and what follows them. -/
def octal : Nat → Nat → Text → Nat × Text
  | digits + 1, value, c :: rest =>
    if '0' ≤ c ∧ c ≤ '7' then octal digits (value * 8 + (c.toNat - '0'.toNat)) rest
    else (value, c :: rest)
  | _, value, t => (value, t)

theorem octal_length (digits value : Nat) (t : Text) :
    (octal digits value t).2.length ≤ t.length := by
  induction t generalizing digits value with
  | nil => cases digits <;> simp [octal]
  | cons c rest ih =>
    cases digits with
    | zero => simp [octal]
    | succ digits =>
      unfold octal
      split
      · exact Nat.le_succ_of_le (ih _ _)
      · exact Nat.le_refl _

/-- The octet of a number. -/
def octet (n : Nat) : Char :=
  Char.ofNat (n % 256)

/-- The text of the escape that follows a backslash, and what follows it; no text for `\c`, which
ends the output.  In an argument a zero in front of an octal number does not count. -/
def one (isArgument : Bool) : Text → Option Text × Text
  | [] => (some ['\\'], [])
  | c :: rest =>
    match letter? c with
    | some d => (some [d], rest)
    | none =>
      if c = 'c' ∧ isArgument then (none, rest)
      else if isArgument ∧ c = '0' then (some [octet (octal 3 0 rest).1], (octal 3 0 rest).2)
      else if '0' ≤ c ∧ c ≤ '7' then
        (some [octet (octal 3 0 (c :: rest)).1], (octal 3 0 (c :: rest)).2)
      else (some ['\\', c], rest)

theorem one_length (isArgument : Bool) (t : Text) : (one isArgument t).2.length ≤ t.length := by
  cases t with
  | nil => simp [one]
  | cons c rest =>
    unfold one
    simp only
    repeat' split
    all_goals first
      | exact octal_length _ _ _
      | exact Nat.le_succ _
      | exact Nat.le_succ_of_le (octal_length _ _ _)

/-- The text of an argument with escapes, and whether the output goes on behind it. -/
def read : Text → Text × Bool
  | [] => ([], true)
  | c :: rest =>
    if c = '\\' then
      match _h : one true rest with
      | (none, _) => ([], false)
      | (some t, tail) => (t ++ (read tail).1, (read tail).2)
    else (c :: (read rest).1, (read rest).2)
termination_by t => t.length
decreasing_by
  all_goals
    try have := one_length true rest
    simp_all
    try omega

end Escape

/-- A width or a number of digits: one that is given, or one that an argument gives. -/
inductive Measure where
  | given (n : Nat)
  | argument
deriving DecidableEq, Repr

/-- How an argument is written: the flags, the least width, the number of digits, and the kind. -/
structure Conversion where
  flags : Text
  width : Option Measure
  precision : Option Measure
  kind : Option Char
  /-- The text of the conversion up to its kind. -/
  spelling : Text
deriving DecidableEq, Repr

/-- A piece of a format: text that stands for itself, or a conversion of an argument. -/
inductive Directive where
  | literal (t : Text)
  | conversion (c : Conversion)
deriving DecidableEq, Repr

namespace Format

/-- A width or a number of digits at the front of a text, and what follows it. -/
def measureOf (t : Text) : Option Measure × Text :=
  match t with
  | '*' :: rest => (some .argument, rest)
  | _ =>
    let ds := t.takeWhile Char.isDigit
    (if ds.isEmpty then none else some (.given ((Text.toNat? ds).getD 0)), t.drop ds.length)

/-- The conversion behind a percent sign, and what follows it. -/
def conversionOf (t : Text) : Conversion × Text :=
  let flags := t.takeWhile fun c => "#-+ 0".toList.contains c
  let (width, rest) := measureOf (t.drop flags.length)
  let (precision, rest) : Option Measure × Text :=
    match rest with
    | '.' :: rest =>
      let (precision, rest) := measureOf rest
      (some (precision.getD (.given 0)), rest)
    | _ => (none, rest)
  (⟨flags, width, precision, rest.head?, '%' :: t.take (t.length - rest.length + 1)⟩, rest.drop 1)

/-- The pieces of a format, with the given fuel. -/
def parseFrom : Nat → Text → List Directive
  | 0, _ | _, [] => []
  | fuel + 1, '%' :: '%' :: rest => .literal ['%'] :: parseFrom fuel rest
  | fuel + 1, '%' :: rest =>
    let (c, rest) := conversionOf rest
    .conversion c :: parseFrom fuel rest
  | fuel + 1, '\\' :: rest =>
    let (t, rest) := Escape.one false rest
    .literal (t.getD []) :: parseFrom fuel rest
  | fuel + 1, c :: rest => .literal [c] :: parseFrom fuel rest

/-- The pieces of a format. -/
def parse (t : Text) : List Directive :=
  parseFrom (t.length + 1) t

/-- What a pass over a format has written: the text, whether the output goes on, the complaints
about arguments, and whether one of them ended the pass. -/
structure Written where
  output : Text
  goesOn : Bool
  complaints : List Text
  isBroken : Bool

/-- Adds to the output. -/
def Written.add (w : Written) (t : Text) : Written :=
  { w with output := w.output ++ t }

/-- Adds a complaint. -/
def Written.note (w : Written) (t : Text) : Written :=
  { w with complaints := w.complaints ++ [t] }

/-- The text filled up to a width, with blanks or behind its sign with zeros. -/
def pad (flags : Text) (width : Nat) (zeros : Bool) (sign body : Text) : Text :=
  let missing := width - (sign.length + body.length)
  if flags.contains '-' then sign ++ body ++ List.replicate missing ' '
  else if zeros ∧ flags.contains '0' then sign ++ List.replicate missing '0' ++ body
  else List.replicate missing ' ' ++ sign ++ body

/-- The sign of a number, by the flags. -/
def signOf (flags : Text) (negative : Bool) : Text :=
  if negative then ['-'] else if flags.contains '+' then ['+']
  else if flags.contains ' ' then [' '] else []

/-- An integer in the notation of a conversion. -/
def integer (flags : Text) (width : Nat) (precision : Option Nat) (kind : Char) (n : Int) : Text :=
  let isSigned := kind = 'd' ∨ kind = 'i'
  let magnitude := if isSigned then n.natAbs else Sum.bits n
  let ds : Text :=
    match kind with
    | 'o' => Nat.toDigits 8 magnitude
    | 'x' => Nat.toDigits 16 magnitude
    | 'X' => (Nat.toDigits 16 magnitude).map Char.toUpper
    | _ => Text.ofNat magnitude
  let ds := if precision = some 0 ∧ magnitude = 0 then [] else ds
  let ds := List.replicate (precision.getD 0 - ds.length) '0' ++ ds
  let isMarked := flags.contains '#' ∧ magnitude ≠ 0
  let ds := if isMarked ∧ kind = 'o' ∧ ds.head? ≠ some '0' then '0' :: ds else ds
  let front : Text :=
    if isSigned then signOf flags (n < 0)
    else if isMarked ∧ (kind = 'x' ∨ kind = 'X') then ['0', kind] else []
  pad flags width precision.isNone front ds

/-- A floating number in the notation of a conversion. -/
def floating (flags : Text) (width : Nat) (precision : Option Nat) (kind : Char) (x : Float) :
    Text :=
  let b := Binary.ofFloat x
  let places := precision.getD 6
  let marked := flags.contains '#'
  let isUpper := kind.isUpper
  let mark := if isUpper then 'E' else 'e'
  let body : Text :=
    match b.magnitude with
    | .infinite => if isUpper then "INF".toList else "inf".toList
    | .undefined => if isUpper then "NAN".toList else "nan".toList
    | .finite m e =>
      match kind.toLower with
      | 'f' => Binary.fixed places marked m e
      | 'e' => Binary.scientific mark places marked m e
      | _ => Binary.general mark places marked m e
  let isFinite : Bool :=
    match b.magnitude with
    | .finite _ _ => true
    | _ => false
  pad flags width isFinite (signOf flags b.negative) body

/-- Text, cut to the number of digits and filled up to the width. -/
def string (flags : Text) (width : Nat) (precision : Option Nat) (t : Text) : Text :=
  pad flags width false [] (match precision with
    | some n => t.take n
    | none => t)

/-- The complaint about an argument that should have been a number, by what is left behind the one
at its front. -/
def flaw? (argument rest : Text) : Option Text :=
  if rest.isEmpty then none
  else if rest.length = argument.length then some (argument ++ ": expected numeric value".toList)
  else some (argument ++ ": not completely converted".toList)

/-- The integer that an argument stands for, and what there is to complain about. -/
def integerOf (argument : Text) : Int × Option Text :=
  match argument with
  | '"' :: rest | '\'' :: rest => (((rest.head?.map Char.toNat).getD 0 : Nat), none)
  | _ =>
    match Numeral.read? argument with
    | some (n, rest) =>
      if Numeral.isWord n then (n, flaw? argument rest)
      else (Numeral.clamp n, some (argument ++ ": Numerical result out of range".toList))
    | none => (0, flaw? argument argument)

/-- The floating number that an argument stands for, and what there is to complain about. -/
def floatOf (argument : Text) : Float × Option Text :=
  match argument with
  | '"' :: rest | '\'' :: rest => (Float.ofNat ((rest.head?.map Char.toNat).getD 0), none)
  | _ =>
    match Decimal.read? argument with
    | some (x, rest) => (x, flaw? argument rest)
    | none => (0, flaw? argument argument)

/-- Adds a complaint, if there is one. -/
def Written.noteSome (w : Written) (t : Option Text) : Written :=
  match t with
  | some t => w.note t
  | none => w

/-- A width or a number of digits, and the arguments that are left. -/
def measure (m : Option Measure) (arguments : List Text) : Option Int × List Text :=
  match m with
  | none => (none, arguments)
  | some (.given n) => (some n, arguments)
  | some .argument => (some (integerOf (arguments.headD [])).1, arguments.drop 1)

/-- Writes arguments by a conversion, and gives those that are left. -/
def convert (c : Conversion) (arguments : List Text) (w : Written) : Written × List Text :=
  let (width, arguments) := measure c.width arguments
  let (precision, arguments) := measure c.precision arguments
  let flags := if (width.getD 0) < 0 then '-' :: c.flags else c.flags
  let width := (width.getD 0).natAbs
  let precision := (precision.filter (0 ≤ ·)).map Int.toNat
  let argument := arguments.headD []
  let rest := arguments.drop 1
  match c.kind with
  | none =>
    ({ w.note "missing format character".toList with goesOn := false, isBroken := true }, [])
  | some kind =>
    if kind = 's' then (w.add (string flags width precision argument), rest)
    else if kind = 'c' then
      (w.add (string flags width none [argument.headD '\x00']), rest)
    else if kind = 'b' then
      let (t, goesOn) := Escape.read argument
      ({ w.add (string flags width precision t) with goesOn }, rest)
    else if "diouxX".toList.contains kind then
      let (n, flaw) := integerOf argument
      ((w.noteSome flaw).add (integer flags width precision kind n), rest)
    else if "feEgGF".toList.contains kind then
      let (x, flaw) := floatOf argument
      ((w.noteSome flaw).add (floating flags width precision kind x), rest)
    else
      ({ w.note (c.spelling ++ ": invalid directive".toList) with
          goesOn := false, isBroken := true },
        [])

/-- Fills the arguments into a format once; missing ones are empty. -/
def pass : List Directive → List Text → Written → Written × List Text
  | [], arguments, w => (w, arguments)
  | d :: ds, arguments, w =>
    if w.goesOn then
      match d with
      | .literal t => pass ds arguments (w.add t)
      | .conversion c =>
        let (w, arguments) := convert c arguments w
        pass ds arguments w
    else (w, [])

/-- Fills the arguments into a format, again and again as long as there are some that it takes. -/
def fill (ds : List Directive) : Nat → List Text → Written → Written
  | 0, _, w => w
  | fuel + 1, arguments, w =>
    match pass ds arguments w with
    | (w, []) => w
    | (w, rest) =>
      if w.goesOn ∧ rest.length < arguments.length then fill ds fuel rest w else w

/-- Fills arguments into a format. -/
def render (format : Text) (arguments : List Text) : Written :=
  fill (parse format) (arguments.length + 1) arguments ⟨[], true, [], false⟩

end Format

end Postroom.Shell
