import Postroom.Coding.Base64
import Postroom.Coding.Digest
import Postroom.Shell.Utility.Basic
import Postroom.Text.Utf8

/-!
# Utilities on octets

The utilities that write octets in other notations and read them back, and that write digests.
-/

namespace Postroom.Shell.Utility

/-- A text in rows of a width. -/
def inRows (width : Nat) (t : Text) : Text :=
  let rec go : Nat → Text → Text
    | 0, _ | _, [] => []
    | fuel + 1, t => t.take width ++ '\n' :: go fuel (t.drop width)
  if width = 0 then t else go (t.length + 1) t

/-- A notation of octets by digits: how many bits a digit has, and how many digits make a group. -/
structure Digits where
  alphabet : Text
  bits : Nat
  group : Nat

/-- Sixty-four digits. -/
def base64Digits : Digits :=
  ⟨Base64.alphabet, 6, 4⟩

/-- Thirty-two digits. -/
def base32Digits : Digits :=
  ⟨"ABCDEFGHIJKLMNOPQRSTUVWXYZ234567".toList, 5, 8⟩

namespace Digits

/-- The bits of a number, the highest one first. -/
def bitsOf (count n : Nat) : List Bool :=
  (List.range count).map fun i => n.testBit (count - 1 - i)

/-- The number of bits. -/
def ofBits (bs : List Bool) : Nat :=
  bs.foldl (fun n b => 2 * n + b.toNat) 0

/-- The digits of a group of octets. -/
def encodeGroup (d : Digits) (bytes : Octets) : Text :=
  let bs := bytes.flatMap fun b => bitsOf 8 b.toNat
  let count := (bs.length + d.bits - 1) / d.bits
  let digits := (List.range count).map fun i =>
    let part := (bs.drop (i * d.bits)).take d.bits
    d.alphabet.getD (ofBits (part ++ List.replicate (d.bits - part.length) false)) '='
  digits ++ List.replicate (d.group - count) '='

/-- The digits of octets. -/
def encode (d : Digits) (bytes : Octets) : Text :=
  let size := d.group * d.bits / 8
  (Digest.parts size (bytes.length / size + 1) bytes).flatMap d.encodeGroup

/-- The octets of a group, and whether it is a whole one. -/
def decodeGroup (d : Digits) (group : Text) : Octets × Bool :=
  let digits := group.takeWhile d.alphabet.contains
  let bs := digits.flatMap fun c => bitsOf d.bits (d.alphabet.findIdx (· = c))
  let count := bs.length / 8
  let filled := group.drop digits.length
  let isWhole : Bool :=
    group.length = d.group ∧ filled.all (· = '=') ∧ bs.length - 8 * count < d.bits
      ∧ (bs.drop (8 * count)).all (!·)
  ((List.range count).map fun i => UInt8.ofNat (ofBits ((bs.drop (8 * i)).take 8)),
    isWhole || group.isEmpty)

/-- The octets of digits, and whether all of them could be read. -/
def decode (d : Digits) (t : Text) : Octets × Bool :=
  let groups := Digest.parts d.group (t.length / d.group + 1) t
  let (pieces, isWhole) := groups.foldl (fun (done : List Octets × Bool) g =>
    if done.2 then
      let (bytes, isWhole) := d.decodeGroup g
      (bytes :: done.1, isWhole)
    else done) ([], true)
  (pieces.reverse.flatten, isWhole)

end Digits

/-- Writes files in a notation by digits, or reads them back. -/
def based (name : String) (d : Digits) : Utility := fun arguments =>
  withOptions name 1 "dDiw:" [("decode", 'd'), ("ignore-garbage", 'i'), ("wrap", 'w')]
    arguments fun g => do
    match g.operands with
    | _ :: extra :: _ =>
      complain name 1 ("extra operand ".toList ++ Name.marked extra)
      Action.change (·.complain ("Try '".toList ++ name.toList
        ++ " --help' for more information.".toList))
    | _ =>
      let path := g.operands.headD ['-']
      let t ← input? path fun e =>
        complain name 1 (if e = .directory then "read error: ".toList ++ e.message
          else Name.shown path ++ ": ".toList ++ e.message)
      match t, (g.value? 'w').elim (some 76) Text.toNat? with
      | none, _ => return ()
      | _, none =>
        complain name 1 ("invalid wrap size: ".toList ++ Name.marked ((g.value? 'w').getD []))
      | some t, some width =>
        if g.has 'd' ∨ g.has 'D' then
          let isDigit (c : Char) : Bool := d.alphabet.contains c || c = '='
          let digits := t.filter fun c => if g.has 'i' then isDigit c else c ≠ '\n'
          let (bytes, isWhole) := d.decode digits
          write (Utf8.ofLatin1 bytes)
          if !isWhole then complain name 1 "invalid input".toList
        else write (inRows width (d.encode (Utf8.toLatin1 t)))

/-- The lines that check digests: the digest and the path of each. -/
def checkLines (t : Text) : List (Text × Text) :=
  (linesOf t).filterMap fun l =>
    let digest := l.takeWhile (· ≠ ' ')
    match l.drop digest.length with
    | ' ' :: mark :: path =>
      if (mark = ' ' ∨ mark = '*') ∧ digest ≠ [] then some (digest, path) else none
    | _ => none

/-- Writes the digests of files, or checks them. -/
def digest (name tag : String) (work : Octets → Octets) : Utility := fun arguments =>
  withOptions name 1 "bctzsqw" [("check", 'c'), ("binary", 'b'), ("text", 't'), ("zero", 'z'),
    ("status", 's'), ("quiet", 'q'), ("tag", 'w')] arguments fun g => do
    let value (t : Text) : Text := Digest.hex (work (Utf8.toLatin1 t))
    let size := (value []).length
    if g.has 'c' then
      eachInput name 1 g.operands fun path t => do
        let lines := (checkLines t).filter (·.1.length = size)
        if lines.isEmpty then
          complain name 1 (Name.shown path ++ ": no properly formatted checksum lines found".toList)
        let mut failed := 0
        for (wanted, p) in lines do
          let t ← input? p fun e => complain name 1 (Name.shown p ++ ": ".toList ++ e.message)
          match t with
          | some t =>
            let isGood := value t = wanted.map Char.toLower
            if !isGood then failed := failed + 1
            if !g.has 's' ∧ !(isGood ∧ g.has 'q') then
              writeLines [p ++ (if isGood then ": OK".toList else ": FAILED".toList)]
          | none => if !g.has 's' then writeLines [p ++ ": FAILED open or read".toList]
        if 0 < failed then
          leave 1
          if !g.has 's' then
            complain name 1 ("WARNING: ".toList ++ Text.ofNat failed
              ++ (if failed = 1 then " computed checksum did NOT match".toList
                else " computed checksums did NOT match".toList))
    else
      eachInput name 1 g.operands fun path t =>
        if g.has 'w' then
          writeLines [tag.toList ++ " (".toList ++ path ++ ") = ".toList ++ value t]
        else
          write (value t ++ ' ' :: (if g.has 'b' then '*' else ' ') :: path
            ++ (if g.has 'z' then ['\x00'] else ['\n']))

/-- Writes the check sums and the sizes of files. -/
def cksum : Utility := fun arguments =>
  withOptions "cksum" 1 "" [] arguments fun g => do
    eachInput "cksum" 1 g.operands fun path t =>
      writeLines [Text.ofNat (Digest.cksum (Utf8.toLatin1 t)).toNat ++ ' ' :: Text.ofNat t.length
        ++ if g.operands.isEmpty then [] else ' ' :: path]

/-! ## Dumps -/

/-- How an octet is written in a dump as a character. -/
def dumpChar (c : Char) : Text :=
  let t : Text :=
    match c with
    | '\x00' => "\\0".toList
    | '\x07' => "\\a".toList
    | '\x08' => "\\b".toList
    | '\t' => "\\t".toList
    | '\n' => "\\n".toList
    | '\x0b' => "\\v".toList
    | '\x0c' => "\\f".toList
    | '\r' => "\\r".toList
    | c => if ' ' ≤ c ∧ c ≤ '~' then [c] else
      let ds := Nat.toDigits 8 c.toNat
      List.replicate (3 - ds.length) '0' ++ ds
  List.replicate (4 - t.length) ' ' ++ t

/-- How the octets of a row are written: how many go into a unit, the width of a unit, its base, and
whether it is filled up with zeros. -/
structure DumpStyle where
  size : Nat
  width : Nat
  base : Nat
  fills : Bool
  asChars : Bool

/-- The style of a type as `x1` or `c`. -/
def dumpStyle? (t : Text) : Option DumpStyle :=
  let size (usual : Nat) : Nat := ((Text.toNat? ((t.drop 1).takeWhile Char.isDigit))).getD usual
  let digits (base size : Nat) : Nat := (Nat.toDigits base (Nat.pow 256 size - 1)).length
  match t.head? with
  | some 'c' => some ⟨1, 4, 8, false, true⟩
  | some 'x' => some ⟨size 4, digits 16 (size 4) + 1, 16, true, false⟩
  | some 'o' => some ⟨size 4, digits 8 (size 4) + 1, 8, true, false⟩
  | some 'u' => some ⟨size 4, digits 10 (size 4) + 1, 10, false, false⟩
  | some 'd' => some ⟨size 4, digits 10 (size 4) + 2, 10, false, false⟩
  | _ => none

/-- The units of a row. -/
def dumpUnits (s : DumpStyle) (row : Text) : Text :=
  if s.asChars then row.flatMap dumpChar
  else
    (Digest.parts s.size row.length row).flatMap fun unit =>
      let n := unit.reverse.foldl (fun n c => n * 256 + c.toNat) 0
      let ds := Nat.toDigits s.base n
      let filled := if s.fills then List.replicate (s.width - 1 - ds.length) '0' ++ ds else ds
      List.replicate (s.width - filled.length) ' ' ++ filled

/-- The rows of a dump, with their places; rows equal to the one before are left out. -/
def dumpRows (shows : Text → List Text) (place : Nat → Text) (all : Bool) :
    Nat → Option Text → Bool → List Text → List Text
  | n, _, _, [] => [place n]
  | n, last, skips, row :: rows =>
    if last = some row ∧ !all ∧ rows ≠ [] then
      (if skips then [] else [['*']]) ++ dumpRows shows place all (n + row.length) last true rows
    else
      let lines := shows row
      let blank := List.replicate (place n).length ' '
      (lines.mapIdx fun i l => (if i = 0 then place n else blank) ++ l)
        ++ dumpRows shows place all (n + row.length) (some row) false rows

/-- Writes the octets of files as numbers or characters. -/
def od : Utility := fun arguments =>
  withOptions "od" 1 "A:N:j:t:vw:abcdosx" [("format", 't'), ("address-radix", 'A'),
    ("read-bytes", 'N'), ("skip-bytes", 'j'), ("width", 'w')] arguments fun g => do
    let t ← allInput "od" 1 g.operands
    let t := t.drop (((g.value? 'j').bind Text.toNat?).getD 0)
    let t := ((g.value? 'N').bind Text.toNat?).elim t t.take
    let styles := g.options.filterMap fun o =>
      match o.1 with
      | 't' => dumpStyle? o.2
      | 'c' => dumpStyle? ['c']
      | 'b' => dumpStyle? ['o', '1']
      | 'x' => dumpStyle? ['x', '2']
      | 'o' => dumpStyle? ['o', '2']
      | 'd' => dumpStyle? ['u', '2']
      | 's' => dumpStyle? ['d', '2']
      | _ => none
    let styles := if styles.isEmpty then (dumpStyle? ['o', '2']).toList else styles
    let place (n : Nat) : Text :=
      match (g.value? 'A').bind List.head? with
      | some 'n' => []
      | some 'd' => let ds := Text.ofNat n; List.replicate (7 - ds.length) '0' ++ ds
      | some 'x' => let ds := Nat.toDigits 16 n; List.replicate (6 - ds.length) '0' ++ ds
      | _ => let ds := Nat.toDigits 8 n; List.replicate (7 - ds.length) '0' ++ ds
    let width := ((g.value? 'w').bind Text.toNat?).getD 16
    let rows := Digest.parts (max width 1) (t.length + 1) t
    let shown (row : Text) : List Text := styles.map fun s => dumpUnits s row
    let lines := dumpRows shown place (g.has 'v') 0 none false rows
    writeLines (if (place 0).isEmpty then lines.dropLast else lines)

end Postroom.Shell.Utility
