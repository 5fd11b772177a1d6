import Postroom.Shell.Glob
import Postroom.Shell.Utility.Basic

/-!
# Utilities on lines

The utilities that take parts of lines, count, cut, join and number them.

* `Selection.parse` — the positions that a list like `1,3-` selects.
-/

namespace Postroom.Shell.Utility

/-! ## Whole files -/

/-- What a line of `cat` is shown as with its options. -/
structure CatStyle where
  numbersAll : Bool
  numbersFilled : Bool
  marksEnds : Bool
  marksTabs : Bool
  marksOthers : Bool
  squeezes : Bool

/-- A number filled up to a width. -/
def padded (width n : Nat) : Text :=
  let t := Text.ofNat n
  List.replicate (width - t.length) ' ' ++ t

/-- A character as `cat -v` shows it. -/
def visible (s : CatStyle) (c : Char) : Text :=
  let rec low (n : Nat) : Text :=
    if n = 9 ∧ !s.marksTabs then ['\t']
    else if n < 32 then ['^', Char.ofNat (n + 64)]
    else if n = 127 then ['^', '?']
    else [Char.ofNat n]
  if c = '\n' then [c]
  else if c = '\t' then if s.marksTabs then ['^', 'I'] else [c]
  else if !s.marksOthers then [c]
  else if c.toNat < 128 then low c.toNat
  else
    let n := c.toNat - 128
    'M' :: '-' :: (if n = 9 ∨ n = 10 then ['^', Char.ofNat (n + 64)] else low n)

/-- Shows lines, the first of which has the given number, as options ask for. -/
def showLines (s : CatStyle) : Nat → Bool → List Text → List Text
  | _, _, [] => []
  | n, wasEmpty, l :: ls =>
    let isLast := ls.isEmpty
    if l.isEmpty ∧ isLast then []
    else if l.isEmpty ∧ wasEmpty ∧ s.squeezes then showLines s n true ls
    else
      let isNumbered := s.numbersFilled ∧ !l.isEmpty ∨ (s.numbersAll ∧ !s.numbersFilled)
      let front := if isNumbered then padded 6 n ++ ['\t'] else []
      let back : Text := if isLast then [] else if s.marksEnds then ['$', '\n'] else ['\n']
      (front ++ l.flatMap (visible s) ++ back)
        :: showLines s (if isNumbered then n + 1 else n) l.isEmpty ls

/-- Writes files as they are, or shown as options ask for. -/
def cat : Utility := fun arguments =>
  withOptions "cat" 1 "AbeEnstTuv" [("number", 'n'), ("show-all", 'A'), ("squeeze-blank", 's'),
    ("show-ends", 'E'), ("show-tabs", 'T'), ("number-nonblank", 'b')] arguments fun g => do
    let has (cs : String) : Bool := cs.toList.any g.has
    let s : CatStyle := ⟨has "n", has "b", has "AeE", has "AtT", has "Aetv", has "s"⟩
    if g.options.isEmpty then eachInput "cat" 1 g.operands fun _ t => write t
    else
      let t ← allInput "cat" 1 g.operands
      write (showLines s 1 false (Text.pieces (· = '\n') t)).flatten

/-- Writes the input, and keeps a copy in each of the named files. -/
def tee : Utility := fun arguments =>
  withOptions "tee" 1 "ai" [("append", 'a')] arguments fun g => do
    let (t, m) := (← get).readAll 0
    set m
    write t
    for path in g.operands do
      let m ← get
      let before := if g.has 'a' then ((m.file? path).map m.contents).getD [] else []
      if path = "/dev/stderr".toList then Action.change (·.write 2 t)
      else
        let _ ← output "tee" path (before ++ t)

/-! ## Ends of files -/

/-- What lies in front of the end of the `n`-th line, and what follows it. -/
def splitAtLine : Nat → Text → Text × Text
  | 0, t => ([], t)
  | _, [] => ([], [])
  | n + 1, c :: rest =>
    let (front, back) := splitAtLine (if c = '\n' then n else n + 1) rest
    (c :: front, back)

/-- An amount of a unit: whether it is given by its distance from the other end, and the number. -/
structure Amount where
  inOctets : Bool
  fromOther : Bool
  count : Nat

/-- The number at the front of an amount, with the letter of a multiple. -/
def multiple? (t : Text) : Option Nat :=
  let ds := t.takeWhile Char.isDigit
  (Text.toNat? ds).bind fun n =>
    match String.ofList (t.drop ds.length) with
    | "" => some n
    | "b" => some (n * 512)
    | "k" | "K" | "KiB" => some (n * 1024)
    | "kB" | "KB" => some (n * 1000)
    | "m" | "M" | "MiB" => some (n * 1048576)
    | "MB" => some (n * 1000000)
    | _ => none

/-- The options of the old kind, as `-5`, as they are written today. -/
def modernAmounts : List Text → List Text
  | ('-' :: d :: ds) :: rest =>
    if d.isDigit then ['-', 'n'] :: (d :: ds) :: rest else ('-' :: d :: ds) :: rest
  | rest => rest

/-- How many characters of its input a command takes at once. -/
def blockSize : Nat := 8192

/-- How many characters are taken of the input to have at least `n` of them in whole blocks. -/
def inBlocks (n : Nat) : Nat :=
  (n + blockSize - 1) / blockSize * blockSize

/-- The lines of a text: how many there are. -/
def lineCount (t : Text) : Nat :=
  t.count '\n' + if isOpenEnded t then 1 else 0

/-- The front of a text. -/
def frontOf (a : Amount) (t : Text) : Text :=
  match a.inOctets, a.fromOther with
  | true, false => t.take a.count
  | true, true => t.take (t.length - a.count)
  | false, false => (splitAtLine a.count t).1
  | false, true => (splitAtLine (lineCount t - a.count) t).1

/-- The back of a text; a number from the other end is that of the first part that is kept. -/
def backOf (a : Amount) (t : Text) : Text :=
  match a.inOctets, a.fromOther with
  | true, false => t.drop (t.length - a.count)
  | true, true => t.drop (a.count - 1)
  | false, false => (splitAtLine (lineCount t - a.count) t).2
  | false, true => (splitAtLine (a.count - 1) t).2

/-- Writes a part of each file, with its name above it where there are several. -/
def eachPart (name : String) (g : Options.Given) (part : Text → Text) : Action Unit := do
  let isNamed := (1 < g.operands.length ∧ !g.has 'q') ∨ g.has 'v'
  let mut isFirst := true
  for path in (if g.operands.isEmpty then [['-']] else g.operands) do
    let t ← input? path fun e =>
      complain name 1 (if e = .directory then
          "error reading ".toList ++ Name.quoted path ++ ": ".toList ++ e.message
        else "cannot open ".toList ++ Name.quoted path ++ " for reading: ".toList ++ e.message)
    match t with
    | none => pure ()
    | some t =>
      if isNamed then
        write ((if isFirst then [] else ['\n']) ++ "==> ".toList
          ++ (if path = ['-'] then "standard input".toList else path) ++ " <==\n".toList)
      write (part t)
      isFirst := false

/-- The amount that the options of `head` and `tail` ask for. -/
def amountOf (g : Options.Given) (other : Char) : Except (Bool × Text) Amount :=
  match g.options.reverse.find? fun o => o.1 = 'n' ∨ o.1 = 'c' with
  | none => .ok ⟨false, false, 10⟩
  | some (c, t) =>
    let (fromOther, digits) : Bool × Text :=
      match t with
      | sign :: rest =>
        if sign = other then (true, rest)
        else if sign = '-' ∨ sign = '+' then (false, rest)
        else (false, t)
      | [] => (false, t)
    match multiple? digits with
    | some n => .ok ⟨c = 'c', fromOther, n⟩
    | none => .error (c = 'c', t)

/-- Writes the first part of files.  Of a stream no more is taken than is written, but lines are
looked for in whole blocks. -/
def head : Utility := fun arguments =>
  withOptions "head" 1 "n:c:qvz" [("lines", 'n'), ("bytes", 'c'), ("quiet", 'q'), ("silent", 'q')]
    (modernAmounts arguments) fun g => do
    match amountOf g '-' with
    | .error (inOctets, t) =>
      complain "head" 1 ("invalid number of ".toList
        ++ (if inOctets then "bytes: ".toList else "lines: ".toList) ++ Name.marked t)
    | .ok a =>
      let m ← get
      if g.operands.isEmpty ∧ !a.fromOther then
        let t := m.unread 0
        let front := frontOf a t
        let isSeekable := (m.source? 0).any (·.2.isSeekable)
        let taken := if a.inOctets ∨ isSeekable then front.length else inBlocks front.length
        set (m.leaveUnread 0 (t.drop taken))
        write front
      else eachPart "head" g (frontOf a)

/-- Writes the last part of files. -/
def tail : Utility := fun arguments =>
  let arguments :=
    match arguments with
    | ('+' :: d :: ds) :: rest =>
      if d.isDigit then ['-', 'n'] :: ('+' :: d :: ds) :: rest else arguments
    | _ => modernAmounts arguments
  withOptions "tail" 1 "n:c:qvzfF" [("lines", 'n'), ("bytes", 'c'), ("quiet", 'q'), ("silent", 'q')]
    arguments fun g => do
    match amountOf g '+' with
    | .error (inOctets, t) =>
      complain "tail" 1 ("invalid number of ".toList
        ++ (if inOctets then "bytes: ".toList else "lines: ".toList) ++ Name.marked t)
    | .ok a => eachPart "tail" g (backOf a)

/-! ## Counts -/

/-- How many words there are in a text. -/
def wordCount (t : Text) : Nat :=
  ((Text.pieces (fun c => c = ' ' ∨ ('\t' ≤ c ∧ c ≤ '\r')) t).filter (· ≠ [])).length

/-- The length of the longest line. -/
def longestLine (t : Text) : Nat :=
  ((linesOf t).map List.length).foldl max 0

/-- The counts of a text that options ask for, in the order in which they are written. -/
def counts (g : Options.Given) (t : Text) : List Nat :=
  let all : Bool := g.options.isEmpty
  (if all ∨ g.has 'l' then [t.count '\n'] else [])
    ++ (if all ∨ g.has 'w' then [wordCount t] else [])
    ++ (if g.has 'm' then [t.length] else [])
    ++ (if all ∨ g.has 'c' then [t.length] else [])
    ++ (if g.has 'L' then [longestLine t] else [])

/-- Writes how many lines, words and octets files hold. -/
def wc : Utility := fun arguments =>
  withOptions "wc" 1 "clmwL" [("bytes", 'c'), ("chars", 'm'), ("lines", 'l'), ("words", 'w'),
    ("max-line-length", 'L')] arguments fun g => do
    let paths := if g.operands.isEmpty then [['-']] else g.operands
    let before ← get
    let mut found : List (Text × Text) := []
    for path in paths do
      let t ← input? path fun e => complain "wc" 1 (usualWording path e)
      match t with
      | some t => found := (path, t) :: found
      | none => if before.isDirectory path then found := (path, []) :: found
    let isStream : Bool := paths.any fun path =>
      (path = ['-'] && !(before.source? 0).any (·.2.isSeekable)) || before.isDirectory path
        || before.isDevice path
    let all := total (found.map fun f => f.2.length)
    let width :=
      if paths.length = 1 ∧ (counts g []).length = 1 then 1
      else if isStream then 7
      else (Text.ofNat all).length
    let line (ns : List Nat) (name : Text) : Text :=
      Text.join [' '] (ns.map (padded width)) ++ (if name = [] then [] else ' ' :: name)
    let rows := found.reverse.map fun (path, t) =>
      line (counts g t) (if g.operands.isEmpty then [] else path)
    writeLines rows
    if 1 < paths.length then
      let sums := found.foldl (fun sums f => List.zipWith (· + ·) sums (counts g f.2))
        ((counts g []).map fun _ => 0)
      writeLines [line sums "total".toList]

/-! ## Parts of lines -/

/-- A list of positions: each part from one of them to another, or to the end. -/
abbrev Selection := List (Nat × Option Nat)

namespace Selection

/-- Reads a part of a list. -/
def part? (t : Text) : Option (Nat × Option Nat) :=
  let low := t.takeWhile (· ≠ '-')
  if low.length = t.length then
    (Text.toNat? t).bind fun n => if n = 0 then none else some (n, some n)
  else
    let high := t.drop (low.length + 1)
    match (if low.isEmpty then some 1 else Text.toNat? low), high with
    | some a, [] => if low.isEmpty ∨ a = 0 then none else some (a, none)
    | some a, high =>
      (Text.toNat? high).bind fun b => if a = 0 ∨ b < a then none else some (a, some b)
    | none, _ => none

/-- Reads a list of positions. -/
def parse (t : Text) : Option Selection :=
  (Text.pieces (fun c => c = ',' ∨ c = ' ') t).mapM part?

/-- A position is selected. -/
def takes (s : Selection) (n : Nat) : Bool :=
  s.any fun r => r.1 ≤ n && r.2.all (n ≤ ·)

end Selection

/-- The parts of a list whose positions are selected. -/
def selected {α : Type} (takes : Nat → Bool) (xs : List α) : List α :=
  (xs.mapIdx fun i x => (i + 1, x)).filterMap fun p => if takes p.1 then some p.2 else none

/-- Writes selected parts of lines. -/
def cut : Utility := fun arguments =>
  withOptions "cut" 1 "b:c:d:f:nsz" [("bytes", 'b'), ("characters", 'c'), ("delimiter", 'd'),
    ("fields", 'f'), ("only-delimited", 's'), ("complement", 'C'), ("output-delimiter", 'O')]
    (arguments.flatMap fun t =>
      match Text.stripFront "--output-delimiter=".toList t with
      | some d => [['-', 'z'], '-' :: 'd' :: '\x00' :: d]
      | none => if t = "--complement".toList then [['-', 'n']] else [t]) fun g => do
    let delimiters := g.values 'd'
    let own := (delimiters.filter fun d => d.head? ≠ some '\x00').getLast?
    let delimiter := (own.getD ['\t']).headD '\x00'
    let shown := ((delimiters.find? fun d => d.head? = some '\x00').map (·.drop 1))
    let hint : Action Unit :=
      Action.change (·.complain "Try 'cut --help' for more information.".toList)
    match g.options.filter fun o => o.1 = 'b' ∨ o.1 = 'c' ∨ o.1 = 'f' with
    | [] =>
      complain "cut" 1 "you must specify a list of bytes, characters, or fields".toList
      hint
    | _ :: _ :: _ =>
      complain "cut" 1 "only one list may be specified".toList
      hint
    | [(kind, list)] =>
      if own.any (1 < ·.length) then
        complain "cut" 1 "the delimiter must be a single character".toList
        hint
      else
      match Selection.parse list with
      | none =>
        let why := if kind = 'f' then "fields are numbered from 1" else
          "byte/character positions are numbered from 1"
        complain "cut" 1 (if (list.any fun c => !(c.isDigit || c = ',' || c = '-' || c = ' ')) then
          (if kind = 'f' then "invalid field value " else "invalid byte/character position ").toList
            ++ Name.marked list else why.toList)
        hint
      | some s =>
        let takes (n : Nat) : Bool := s.takes n != g.has 'n'
        eachInput "cut" 1 g.operands fun _ t =>
          writeLines ((linesOf t).filterMap fun l =>
            if kind = 'f' then
              if l.contains delimiter then
                some (Text.join (shown.getD [delimiter])
                  (selected takes (Text.pieces (· = delimiter) l)))
              else if g.has 's' then none
              else some l
            else some (selected takes l))

/-- Writes each line backwards. -/
def rev : Utility := fun arguments =>
  let wording (path : Text) (e : ReadError) : Text :=
    "cannot open ".toList ++ path ++ ": ".toList ++ e.message
  eachInputOr "rev" 1 arguments wording fun _ t =>
    write (Text.join ['\n'] ((Text.pieces (· = '\n') t).map List.reverse))

/-- Writes lines in the opposite order; a line without an end is not given one. -/
def tac : Utility := fun arguments =>
  let wording (path : Text) (e : ReadError) : Text :=
    if e = .directory then Name.shown path ++ ": read error: Invalid argument".toList
    else "failed to open ".toList ++ Name.quoted path ++ " for reading: ".toList ++ e.message
  eachInputOr "tac" 1 arguments wording fun _ t =>
    let ps := Text.pieces (· = '\n') t
    let ended := ps.dropLast.map (· ++ ['\n'])
    write ((ended ++ [ps.getLastD []]).reverse.flatten)

/-! ## Numbers of lines -/

/-- Numbers lines. -/
def nl : Utility := fun arguments =>
  withOptions "nl" 1 "b:s:w:v:i:n:" [("body-numbering", 'b'), ("number-separator", 's'),
    ("number-width", 'w'), ("starting-line-number", 'v'), ("line-increment", 'i')]
    arguments fun g => do
    let t ← allInput "nl" 1 g.operands
    let number (c : Char) (usual : Nat) : Nat := ((g.value? c).bind Text.toNat?).getD usual
    let width := number 'w' 6
    let separator := (g.value? 's').getD ['\t']
    let all : Bool := g.value? 'b' = some ['a']
    let isOff : Bool := g.value? 'b' = some ['n']
    let form (n : Nat) : Text :=
      let ds := Text.ofNat n
      match (g.value? 'n').map String.ofList with
      | some "ln" => ds ++ List.replicate (width - ds.length) ' '
      | some "rz" => List.replicate (width - ds.length) '0' ++ ds
      | _ => padded width n
    let rec go : Nat → List Text → List Text
      | _, [] => []
      | n, l :: ls =>
        if !isOff ∧ (all ∨ l ≠ []) then
          (form n ++ separator ++ l) :: go (n + number 'i' 1) ls
        else (List.replicate (width + separator.length) ' ' ++ l) :: go n ls
    writeLines (go (number 'v' 1) (linesOf t))

/-- A line with its tabs as blanks up to the next stop; `place` characters stand in front. -/
def expandLine (stops : List Nat) (onlyFirst : Bool) (place : Nat) : Text → Text
  | [] => []
  | c :: rest =>
    if c = '\t' then
      let next :=
        match stops with
        | [n] => (place / n + 1) * n
        | _ => (stops.find? (place < ·)).getD (place + 1)
      List.replicate (next - place) ' ' ++ expandLine stops onlyFirst next rest
    else if onlyFirst ∧ c ≠ ' ' then c :: rest
    else c :: expandLine stops onlyFirst (if c = '\x08' then place - 1 else place + 1) rest

/-- Writes files with blanks in place of tabs. -/
def expand : Utility := fun arguments =>
  let arguments := arguments.map fun t =>
    if (t.drop 1).head?.any Char.isDigit ∧ t.head? = some '-' then "-t".toList ++ t.drop 1 else t
  withOptions "expand" 1 "it:" [("initial", 'i'), ("tabs", 't')] arguments fun g => do
    let given := (g.value? 't').getD ['8']
    let isPart (c : Char) : Bool := c = ',' ∨ c = ' '
    if !given.all fun c => c.isDigit || isPart c then
      complain "expand" 1 ("tab size contains invalid character(s): ".toList
        ++ Name.marked (given.dropWhile fun c => c.isDigit || isPart c))
    else
      let stops := (Text.pieces isPart given).filterMap Text.toNat?
      if stops.contains 0 then complain "expand" 1 "tab size cannot be 0".toList
      else
        eachInput "expand" 1 g.operands fun _ t =>
          write (Text.join ['\n'] ((Text.pieces (· = '\n') t).map
            (expandLine stops (g.has 'i') 0)))

/-- Writes a line that is repeated until nobody reads it. -/
def yes : Utility := fun arguments => do
  let line := (if arguments.isEmpty then ['y'] else Text.join [' '] arguments) ++ ['\n']
  write (List.replicate (pipeBound / line.length + 1) line).flatten
  leave 141

/-! ## Several files side by side -/

/-- The delimiters of `paste`, with escapes read. -/
def delimiters : Text → List Text
  | '\\' :: c :: rest =>
    (match c with
    | 'n' => ['\n']
    | 't' => ['\t']
    | '0' => []
    | c => [c]) :: delimiters rest
  | c :: rest => [c] :: delimiters rest
  | [] => []

/-- Joins texts, by each of the delimiters in turn. -/
def joinInTurn (ds : List Text) : Nat → List Text → Text
  | _, [] => []
  | _, [t] => t
  | i, t :: ts => t ++ ds.getD (i % max ds.length 1) [] ++ joinInTurn ds (i + 1) ts

/-- Writes the lines of files side by side or, one file after the other, all in a row. -/
def paste : Utility := fun arguments =>
  withOptions "paste" 1 "d:sz" [("delimiters", 'd'), ("serial", 's')] arguments fun g => do
    let ds := delimiters ((g.value? 'd').getD ['\t'])
    let mut columns : List (List Text) := []
    -- Operands that name the input take its lines in turn.
    let inputs := g.operands.filter (· = ['-'])
    let shares := max inputs.length 1
    let (t, m) ← (do
      let m ← get
      return if g.operands.isEmpty ∨ !inputs.isEmpty then m.readAll 0 else ([], m) : Action _)
    set m
    let lines := linesOf t
    let mut share := 0
    for path in (if g.operands.isEmpty then [['-']] else g.operands) do
      if path = ['-'] then
        let mine := (lines.mapIdx fun i l => (i, l)).filterMap fun p =>
          if g.has 's' ∨ p.1 % shares = share then some p.2 else none
        columns := mine :: columns
        share := share + 1
      else
        if (← get).status = 0 then
          let t ← input? path fun e => complain "paste" 1 (usualWording path e)
          columns := linesOf (t.getD []) :: columns
    if (← get).status ≠ 0 then return ()
    let inOrder := columns.reverse
    if g.has 's' then writeLines (inOrder.map (joinInTurn ds 0))
    else
      let rows := (inOrder.map List.length).foldl max 0
      writeLines ((List.range rows).map fun i => joinInTurn ds 0 (inOrder.map (·.getD i [])))

/-- Cuts a line into parts of a width, for `atBlanks` behind blanks where there are some. -/
def foldLine (width : Nat) (atBlanks : Bool) : Nat → Text → List Text
  | 0, t => [t]
  | fuel + 1, t =>
    if t.length ≤ width then [t]
    else
      let front := t.take width
      let behind := (front.reverse.dropWhile (· ≠ ' ')).length
      let n := if atBlanks ∧ 0 < behind then behind else width
      t.take n :: foldLine width atBlanks fuel (t.drop n)

/-- Breaks long lines. -/
def fold : Utility := fun arguments =>
  let arguments := arguments.map fun t =>
    match t with
    | '-' :: d :: ds => if d.isDigit then '-' :: 'w' :: d :: ds else t
    | _ => t
  withOptions "fold" 1 "bsw:" [("bytes", 'b'), ("spaces", 's'), ("width", 'w')]
    arguments fun g => do
    let width := ((g.value? 'w').bind Text.toNat?).getD 80
    if width = 0 then complain "fold" 1 ("invalid number of columns: ".toList ++ Name.marked ['0'])
    else
      eachInput "fold" 1 g.operands fun _ t =>
        write (Text.join ['\n'] ((Text.pieces (· = '\n') t).flatMap fun l =>
          foldLine width (g.has 's') (l.length + 1) l))

/-- The lines of two sorted lists, each with the column that it belongs to. -/
def compareLines : Nat → List Text → List Text → List (Nat × Text)
  | 0, _, _ => []
  | _, [], bs => bs.map fun b => (2, b)
  | _, as, [] => as.map fun a => (1, a)
  | fuel + 1, a :: as, b :: bs =>
    if a = b then (3, a) :: compareLines fuel as bs
    else if a < b then (1, a) :: compareLines fuel as (b :: bs)
    else (2, b) :: compareLines fuel (a :: as) bs

/-- Writes the lines that two sorted files have alone and in common. -/
def comm : Utility := fun arguments =>
  withOptions "comm" 1 "123z" [] arguments fun g => do
    match g.operands with
    | [a, b] =>
      let read (path : Text) : Action Text := do
        if (← get).status ≠ 0 then return []
        else return (← input? path fun e => complain "comm" 1 (usualWording path e)).getD []
      let as := linesOf (← read a)
      let bs := linesOf (← read b)
      let hides (n : Nat) : Bool := g.has (Char.ofNat (48 + n))
      let tabs (n : Nat) : Text :=
        ((List.range n).filter fun k => 0 < k && !hides k).map fun _ => '\t'
      writeLines ((compareLines (as.length + bs.length + 1) as bs).filterMap fun (n, l) =>
        if hides n then none else some (tabs n ++ l))
    | _ => complain "comm" 1 "missing operand".toList

end Postroom.Shell.Utility
