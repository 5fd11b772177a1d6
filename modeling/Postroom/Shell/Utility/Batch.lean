import Postroom.Shell.Utility.Basic

/-!
# Command lines from input

`xargs` cuts its input into items and runs a command with some of them at a time.

* `Batch.items` — the items of an input;
* `Batch.lines` — the command lines that items make;
* `Utility.xargs`.
-/

namespace Postroom.Shell.Utility

namespace Batch

/-- How command lines are made: how many items or lines go into one, the text that is replaced by
one, what ends an item and the input, and what is done with few items. -/
structure Style where
  size : Option Nat
  lineCount : Option Nat
  replaced : Option Text
  delimiter : Option Char
  ending : Option Text
  skipsEmpty : Bool
  shows : Bool
  file : Option Text

/-- An item, and whether a line ends behind it. -/
structure Item where
  text : Text
  endsLine : Bool

/-- What of an input is being read: the quotes that are open, and the item at hand with its last
character first. -/
structure Reading where
  quote : Option Char
  item : Option Text

/-- Adds a character to the item at hand. -/
def Reading.push (r : Reading) (c : Char) : Reading :=
  { r with item := some (c :: r.item.getD []) }

/-- The items of what is left of an input, and the quotes that are not closed.  With `byLine` blanks
end no item. -/
def itemsFrom (byLine : Bool) (r : Reading) : Text → List Item × Option Char
  | [] =>
    match r.quote with
    | some q => ([], some q)
    | none => ((r.item.map fun t => ⟨t.reverse, true⟩).toList, none)
  | ['\\'] =>
    if r.quote.isSome then itemsFrom byLine (r.push '\\') []
    else itemsFrom byLine r []
  | '\\' :: c :: rest =>
    if r.quote.isSome then itemsFrom byLine (r.push '\\') (c :: rest)
    else itemsFrom byLine (r.push c) rest
  | c :: rest =>
    match r.quote with
    | some q =>
      if c = q then itemsFrom byLine { r with quote := none, item := some (r.item.getD []) } rest
      else if c = '\n' then ([], some q)
      else itemsFrom byLine (r.push c) rest
    | none =>
      if c = '"' ∨ c = '\'' then
        itemsFrom byLine { r with quote := some c, item := some (r.item.getD []) } rest
      else if c = '\n' ∨ ((c = ' ' ∨ c = '\t') ∧ !byLine) then
        let (items, q) := itemsFrom byLine ⟨none, none⟩ rest
        ((r.item.map fun t => ⟨t.reverse, decide (c = '\n')⟩).toList ++ items, q)
      else if (c = ' ' ∨ c = '\t') ∧ r.item.isNone then itemsFrom byLine r rest
      else itemsFrom byLine (r.push c) rest

/-- The items of an input, and the quotes in it that are not closed. -/
def items (s : Style) (t : Text) : List Item × Option Char :=
  match s.delimiter with
  | some d => ((rowsOf d t).map fun t => ⟨t, true⟩, none)
  | none =>
    let (found, q) := itemsFrom s.replaced.isSome ⟨none, none⟩ t
    match s.ending with
    | some e => (found.takeWhile (·.text ≠ e), if found.any (·.text = e) then none else q)
    | none => (found, q)

/-- Cuts a list into parts of the given size. -/
def inParts (size : Nat) : Nat → List Text → List (List Text)
  | 0, _ | _, [] => []
  | fuel + 1, ts => ts.take (max size 1) :: inParts size fuel (ts.drop (max size 1))

/-- Cuts items into parts of so many lines; `left` lines may still go into the part at hand. -/
def inLines (count left : Nat) : List Item → List (List Text)
  | [] => []
  | i :: rest =>
    if i.endsLine ∧ left ≤ 1 then [i.text] :: inLines count count rest
    else
      match inLines count (if i.endsLine then left - 1 else left) rest with
      | [] => [[i.text]]
      | part :: parts => (i.text :: part) :: parts

/-- A text with all occurrences of another one replaced, with the given fuel. -/
def replaceAll (old new : Text) : Nat → Text → Text
  | 0, t => t
  | fuel + 1, t =>
    match if old.isEmpty then none else Text.splitAtInfix old t with
    | some (front, back) => front ++ new ++ replaceAll old new fuel back
    | none => t

/-- The command lines that items make. -/
def lines (s : Style) (words : List Text) (items : List Item) : List (List Text) :=
  let texts := items.map (·.text)
  match s.replaced with
  | some old => texts.map fun item => words.map (replaceAll old item 1000)
  | none =>
    if items.isEmpty then if s.skipsEmpty then [] else [words]
    else
      let parts :=
        match s.lineCount with
        | some n => inLines n n items
        | none => inParts (s.size.getD texts.length) (texts.length + 1) texts
      parts.map (words ++ ·)

/-- An argument as a command line that is shown has it. -/
def shown (t : Text) : Text :=
  if t ≠ [] ∧ t.all fun c => c.isAlphanum || "-_./:=+,@%".toList.contains c then t else quote t

/-- The character that ends items, as an option gives it. -/
def delimiter? (t : Text) : Option Char :=
  match t with
  | [c] => some c
  | ['\\', 'n'] => some '\n'
  | ['\\', 't'] => some '\t'
  | ['\\', '0'] => some '\x00'
  | ['\\', '\\'] => some '\\'
  | _ => none

/-- The options, of which some may do without their arguments. -/
def modern : List Text → List Text
  | [] => []
  | t :: rest =>
    match t with
    | ['-', 'i'] | ['-', '-', 'r', 'e', 'p', 'l', 'a', 'c', 'e'] =>
      "-I\x7b\x7d".toList :: modern rest
    | '-' :: 'i' :: old => ('-' :: 'I' :: old) :: modern rest
    | ['-', 'l'] => "-L1".toList :: modern rest
    | '-' :: 'l' :: n => ('-' :: 'L' :: n) :: modern rest
    | ['-', 'e'] => modern rest
    | '-' :: 'e' :: e => ('-' :: 'E' :: e) :: modern rest
    | '-' :: _ => t :: modern rest
    | _ => t :: rest

end Batch

/-- Runs command lines made from the input, by way of `run`. -/
def xargs (run : List Text → Action Unit) : Utility := fun arguments =>
  withLeadingOptions "xargs" 1 "0a:d:E:I:L:n:oprP:s:tx" [("null", '0'), ("arg-file", 'a'),
    ("delimiter", 'd'), ("replace", 'I'), ("max-lines", 'L'), ("max-args", 'n'),
    ("no-run-if-empty", 'r'), ("max-procs", 'P'), ("max-chars", 's'), ("verbose", 't'),
    ("exit", 'x')] (Batch.modern arguments) fun g => do
    let number (c : Char) : Option Nat := (g.value? c).bind Text.toNat?
    let hint : Action Unit :=
      Action.change (·.complain "Try 'xargs --help' for more information.".toList)
    let wrong := (g.options.find? fun o => (o.1 = 'n' ∨ o.1 = 'L') ∧ ((Text.toNat? o.2).getD 0) = 0)
    match wrong with
    | some (c, v) =>
      complain "xargs" 1 (if (Text.toNat? v).isSome then
          "value ".toList ++ v ++ " for -".toList ++ c :: " option should be >= 1".toList
        else "invalid number \"".toList ++ v ++ "\" for -".toList ++ c :: " option".toList)
      hint
    | none =>
      let last := (g.options.reverse.find? fun o => "nLI".toList.contains o.1).map (·.1)
      let s : Batch.Style :=
        { size := if last = some 'n' then number 'n' else none
          lineCount := if last = some 'L' then number 'L' else none
          replaced := if g.has 'I' ∧ (last = some 'I' ∨ number 'n' = some 1) then g.value? 'I'
            else none
          delimiter := if g.has '0' then some '\x00' else (g.value? 'd').bind Batch.delimiter?
          ending := g.value? 'E'
          skipsEmpty := g.has 'r'
          shows := g.has 't'
          file := g.value? 'a' }
      let read ← input? (s.file.getD ['-']) fun e =>
        complain "xargs" 1 ("Cannot open input file '".toList ++ s.file.getD [] ++ "': ".toList
          ++ e.message)
      match read with
      | none => return ()
      | some t =>
        let (items, broken) := Batch.items s t
        let words := if g.operands.isEmpty then ["echo".toList] else g.operands
        match broken with
        | some q =>
          complain "xargs" 1 ("unmatched ".toList
            ++ (if q = '"' then "double" else "single").toList
            ++ (" quote; by default quotes are special to xargs unless you use the -0 "
              ++ "option").toList)
        | none => leave 0
        let channel := (← get).channel? 0
        if s.file.isNone then Action.change (·.setChannel 0 (some .null))
        let mut worst := if broken.isSome then 1 else 0
        let mut isOver := false
        for line in (if broken.isSome ∧ items.isEmpty then [] else Batch.lines s words items) do
          if !isOver then
            if s.shows then
              Action.change (·.complain (Text.join [' '] (line.map Batch.shown)))
            run line
            let status := (← get).status
            if status = 126 ∨ status = 127 then
              worst := status
              isOver := true
            else if status = 255 then
              complain "xargs" 124 (line.headD [] ++ ": exited with status 255; aborting".toList)
              worst := 124
              isOver := true
            else if status ≠ 0 then worst := 123
        Action.change fun m => (m.setChannel 0 channel).withStatus worst

end Postroom.Shell.Utility
