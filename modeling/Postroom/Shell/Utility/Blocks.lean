import Postroom.Shell.Utility.Basic

/-!
# Utilities on parts of files

The utilities that compare files octet by octet, copy blocks of them, cut them into parts and change
their sizes.
-/

namespace Postroom.Shell.Utility

/-- Where two texts differ first: the number of the octet and of its line, both from one on. -/
def difference? : Nat → Nat → Text → Text → Option (Nat × Nat)
  | place, line, c :: s, d :: t =>
    if c = d then difference? (place + 1) (if c = '\n' then line + 1 else line) s t
    else some (place, line)
  | _, _, _, _ => none

/-- Compares two files. -/
def cmp : Utility := fun arguments =>
  withOptions "cmp" 2 "slbi:n:" [("quiet", 's'), ("silent", 's')] arguments fun g => do
    let isQuiet := g.has 's'
    let path := g.operands.headD []
    let other := (g.operands[1]?).getD ['-']
    let complaint (p : Text) (e : ReadError) : Action Unit := do
      let isFirst := (← get).status = 0
      leave 2
      if !isQuiet ∧ isFirst then complain "cmp" 2 (p ++ ": ".toList ++ e.message)
    if g.operands.isEmpty then complain "cmp" 2 "missing operand after 'cmp'".toList
    else
      match ← input? path (complaint path), ← input? other (complaint other) with
      | some s, some t =>
        match difference? 1 1 s t with
        | some (place, line) =>
          leave 1
          if !isQuiet then
            writeLines [path ++ [' '] ++ other ++ " differ: char ".toList ++ Text.ofNat place
              ++ ", line ".toList ++ Text.ofNat line]
        | none =>
          if s.length ≠ t.length then
            let (p, short) := if s.length < t.length then (path, s) else (other, t)
            let line := short.count '\n'
            leave 1
            if !isQuiet then
              let place :=
                if isOpenEnded short then ", in line ".toList ++ Text.ofNat (line + 1)
                else ", line ".toList ++ Text.ofNat line
              complain "cmp" 1 ("EOF on ".toList ++ p
                ++ (if short.isEmpty then " which is empty".toList
                  else " after byte ".toList ++ Text.ofNat short.length ++ place))
      | _, _ => return ()

/-- The number of a size, which may end with a letter for its unit. -/
def sizeOf? (t : Text) : Option Nat :=
  let ds := t.takeWhile Char.isDigit
  (Text.toNat? ds).bind fun n =>
    match t.drop ds.length with
    | [] => some n
    | ['c'] => some n
    | ['w'] => some (2 * n)
    | ['b'] => some (512 * n)
    | 'k' :: _ | 'K' :: _ => some (1024 * n)
    | 'M' :: _ => some (1048576 * n)
    | _ => none

/-- Copies blocks of a file. -/
def dd : Utility := fun arguments => do
  leave 0
  let value? (name : String) : Option Text :=
    arguments.findSome? fun t => Text.stripFront (name.toList ++ ['=']) t
  let names := ["if", "of", "bs", "ibs", "obs", "count", "skip", "seek", "status", "conv",
    "iflag", "oflag"]
  match arguments.find? fun t => !names.contains (String.ofList (t.takeWhile (· ≠ '=')))
    || !t.contains '=' with
  | some t =>
    complain "dd" 1 ("unrecognized operand ".toList ++ Name.marked t)
    Action.change (·.complain "Try 'dd --help' for more information.".toList)
  | none =>
    let cannot (path : Text) (e : ReadError) : Action Unit :=
      complain "dd" 1 ("failed to open ".toList ++ Name.quoted path ++ ": ".toList ++ e.message)
    let size := max 1 (((value? "bs" <|> value? "ibs").bind sizeOf?).getD 512)
    let skipped := ((value? "skip").bind sizeOf?).getD 0 * size
    let count := (value? "count").bind sizeOf?
    let before := (← get).unread 0
    let t ← match value? "if" with
      | some path => input? path (cannot path)
      | none => pure (some before)
    match t with
    | none => return ()
    | some t =>
      let rest := t.drop skipped
      let copied := match count with
        | some n => rest.take (n * size)
        | none => rest
      if (value? "if").isNone then
        Action.change (·.leaveUnread 0 (before.drop (skipped + copied.length)))
      let isDone ← match value? "of" with
        | some path => output "dd" path copied
        | none => do
          write copied
          pure true
      if isDone ∧ value? "status" ≠ some "none".toList then
        let blocks := Text.ofNat (copied.length / size) ++ ['+']
          ++ Text.ofNat (if copied.length % size = 0 then 0 else 1)
        Action.change fun m => (m.complain (blocks ++ " records in".toList)).complain
          (blocks ++ " records out".toList)

/-- Changes the sizes of files. -/
def truncate : Utility := fun arguments =>
  withOptions "truncate" 1 "cs:r:o" [("size", 's')] arguments fun g => do
    match (g.value? 's').bind sizeOf? with
    | none => complain "truncate" 1 "you must specify either '--size' or '--reference'".toList
    | some size =>
      for path in g.operands do
        let m ← get
        let t := ((m.file? path).map m.contents).getD []
        let t := t.take size ++ List.replicate (size - t.length) '\x00'
        if (m.file? path).isSome ∨ m.hasParent path then set (m.setFile path t)

/-- The ending of a number of a part: letters, or digits for a base of ten. -/
def partEnding (base width : Nat) (n : Nat) : Text :=
  let rec go : Nat → Nat → Text
    | 0, _ => []
    | k + 1, n => go k (n / base) ++ [Char.ofNat ((if base = 10 then 48 else 97) + n % base)]
  go width n

/-- Cuts a file into files of so many lines or octets. -/
def split : Utility := fun arguments =>
  withOptions "split" 1 "a:b:C:del:n:tux" [("lines", 'l'), ("bytes", 'b'), ("suffix-length", 'a'),
    ("numeric-suffixes", 'd')] arguments fun g => do
    let path := g.operands.headD ['-']
    let stem := (g.operands[1]?).getD ['x']
    let read ← input? path fun e =>
      complain "split" 1 ("cannot open ".toList ++ Name.quoted path ++ " for reading: ".toList
        ++ e.message)
    match read with
    | none => return ()
    | some t =>
      let size := ((g.value? 'b').bind sizeOf?).getD 0
      let count := ((g.value? 'l').bind Text.toNat?).getD 1000
      let units : List Text :=
        if g.has 'b' then t.map fun c => [c]
        else (rowsOf '\n' t).mapIdx fun i l =>
          if i + 1 = (rowsOf '\n' t).length ∧ isOpenEnded t then l else l ++ ['\n']
      let size := max 1 (if g.has 'b' then size else count)
      let rec parts : Nat → List Text → List Text
        | 0, _ | _, [] => []
        | fuel + 1, us => (us.take size).flatten :: parts fuel (us.drop size)
      let base := if g.has 'd' then 10 else 26
      let width := ((g.value? 'a').bind Text.toNat?).getD 2
      for (part, i) in (parts (units.length + 1) units).zipIdx do
        let _ ← output "split" (stem ++ partEnding base width i) part

end Postroom.Shell.Utility
