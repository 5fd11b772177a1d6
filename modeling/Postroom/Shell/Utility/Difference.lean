import Postroom.Shell.Utility.Basic

/-!
# Differences of files

`diff` tells which lines of a file have to be changed to get another one.  It keeps as many lines as
can be kept, and of lines that could be kept in several ways the first ones.

* `Difference.edits` — the lines that are kept, removed and added;
* `Utility.diff`.
-/

namespace Postroom.Shell.Utility

namespace Difference

/-- What becomes of a line. -/
inductive Edit where
  | keep (old new : Text)
  | remove (t : Text)
  | add (t : Text)

/-- How many lines can be kept of a line with those behind it and of what is left of another file,
for each rest of that file; `below` has the numbers without the line. -/
def keptCounts (same : Text → Text → Bool) (line : Text) (others : List Text) (below : List Nat) :
    List Nat :=
  match others, below with
  | o :: others, b :: below =>
    let right := keptCounts same line others below
    let here := if same line o then below.headD 0 + 1 else max (right.headD 0) b
    here :: right
  | _, _ => [0]

/-- The numbers of lines that can be kept, for each rest of the first file. -/
def table (same : Text → Text → Bool) (new : List Text) : List Text → List (List Nat)
  | [] => [List.replicate (new.length + 1) 0]
  | l :: ls =>
    let rows := table same new ls
    keptCounts same l new (rows.headD []) :: rows

/-- What becomes of the lines, with the given fuel; each row is the one of the lines that are left.
-/
def editsFrom (same : Text → Text → Bool) :
    Nat → List Text → List Text → List (List Nat) → List Edit
  | 0, _, _, _ => []
  | _, [], new, _ => new.map .add
  | _, old, [], _ => old.map .remove
  | fuel + 1, a :: old, b :: new, rows =>
    if same a b then .keep a b :: editsFrom same fuel old new (rows.tail.map List.tail)
    else
      let right := ((rows.headD []).tail).headD 0
      let down := ((rows.tail).headD []).headD 0
      if right ≤ down then .remove a :: editsFrom same fuel old (b :: new) rows.tail
      else .add b :: editsFrom same fuel (a :: old) new (rows.map List.tail)

/-- What becomes of the lines of a file to get another one.  Lines that both begin or end with need
no looking at. -/
def edits (same : Text → Text → Bool) (old new : List Text) : List Edit :=
  let front := (List.zip old new).takeWhile fun p => same p.1 p.2
  let old := old.drop front.length
  let new := new.drop front.length
  let back := (List.zip old.reverse new.reverse).takeWhile fun p => same p.1 p.2
  let old := old.take (old.length - back.length)
  let new := new.take (new.length - back.length)
  front.map (fun p => .keep p.1 p.2)
    ++ editsFrom same (old.length + new.length + 1) old new (table same new old)
    ++ (back.reverse.map fun p => .keep p.1 p.2)

/-- Lines that are removed and added in one place, which so many lines of each file lie in front of.
-/
structure Hunk where
  oldPlace : Nat
  newPlace : Nat
  removed : List Text
  added : List Text

/-- The hunks of edits. -/
def hunks (i j : Nat) : List Edit → List Hunk
  | [] => []
  | .keep _ _ :: rest => hunks (i + 1) (j + 1) rest
  | .remove t :: rest =>
    match hunks (i + 1) j rest with
    | h :: more =>
      if h.oldPlace = i + 1 ∧ h.newPlace = j then
        { h with oldPlace := i, removed := t :: h.removed } :: more
      else ⟨i, j, [t], []⟩ :: h :: more
    | [] => [⟨i, j, [t], []⟩]
  | .add t :: rest =>
    match hunks i (j + 1) rest with
    | h :: more =>
      if h.oldPlace = i ∧ h.newPlace = j + 1 then
        { h with newPlace := j, added := t :: h.added } :: more
      else ⟨i, j, [], [t]⟩ :: h :: more
    | [] => [⟨i, j, [], [t]⟩]

/-- The numbers of lines, or of the line in front. -/
def span (place count : Nat) : Text :=
  if count = 0 then Text.ofNat place
  else if count = 1 then Text.ofNat (place + 1)
  else Text.ofNat (place + 1) ++ ',' :: Text.ofNat (place + count)

/-- A line with a mark in front; one without an end is said to be so. -/
def marked (mark : Text) (t : Text) : Text :=
  mark ++ t ++ if t.getLast? = some '\n' then [] else "\n\\ No newline at end of file\n".toList

/-- A hunk as it is written. -/
def Hunk.text (h : Hunk) : Text :=
  let letter := if h.removed.isEmpty then 'a' else if h.added.isEmpty then 'd' else 'c'
  span h.oldPlace h.removed.length ++ letter :: span h.newPlace h.added.length ++ ['\n']
    ++ h.removed.flatMap (marked ['<', ' '])
    ++ (if letter = 'c' then "---\n".toList else [])
    ++ h.added.flatMap (marked ['>', ' '])

/-- The lines of a text with their ends. -/
def endedLines (t : Text) : List Text :=
  let ps := Text.pieces (· = '\n') t
  (ps.dropLast.map (· ++ ['\n'])) ++ if ps.getLastD [] = [] then [] else [ps.getLastD []]

end Difference

/-- Tells the differences of two files. -/
def diff : Utility := fun arguments =>
  withOptions "diff" 2 "abBdiNqrsTwZEtp" [("brief", 'q'), ("report-identical-files", 's'),
    ("ignore-case", 'i'), ("ignore-all-space", 'w'), ("ignore-space-change", 'b'), ("text", 'a'),
    ("new-file", 'N'), ("minimal", 'd')] arguments fun g => do
    let hint : Action Unit :=
      Action.change (·.complain "diff: Try 'diff --help' for more information.".toList)
    match g.operands with
    | [] =>
      complain "diff" 2 "missing operand after 'diff'".toList
      hint
    | [a] =>
      complain "diff" 2 ("missing operand after ".toList ++ Name.marked a)
      hint
    | _ :: _ :: c :: _ =>
      complain "diff" 2 ("extra operand ".toList ++ Name.marked c)
      hint
    | [a, b] =>
      let m ← get
      let inside (directory path : Text) : Text := directory ++ '/' :: Machine.lastStep path
      let first := if m.isDirectory a ∧ !m.isDirectory b then inside a b else a
      let second := if m.isDirectory b ∧ !m.isDirectory a then inside b a else b
      let complaint (path : Text) (e : ReadError) : Action Unit :=
        complain "diff" 2 (path ++ ": ".toList ++ e.message)
      let old ← input? first (complaint first)
      let new ← input? second (complaint second)
      let report (kind what : String) : Action Unit :=
        writeLines [(kind ++ " ").toList ++ first ++ " and ".toList ++ second
          ++ (" " ++ what).toList]
      match old, new with
      | some s, some t =>
        let isBlank (c : Char) : Bool := c = ' ' ∨ ('\t' ≤ c ∧ c ≤ '\r')
        let form (l : Text) : Text :=
          let l := if g.has 'i' then l.map Char.toLower else l
          if g.has 'w' then l.filter fun c => !isBlank c
          else if g.has 'b' then
            Text.join [' '] ((Text.pieces isBlank l).filter (· ≠ []))
          else l
        let same (x y : Text) : Bool := form x = form y
        let found := Difference.hunks 0 0
          (Difference.edits same (Difference.endedLines s) (Difference.endedLines t))
        let found := if g.has 'B' then
            found.filter fun h => !(h.removed ++ h.added).all fun l => l.all isBlank
          else found
        if found.isEmpty then
          if g.has 's' then
            report "Files" "are identical"
        else
          leave 1
          if g.has 'q' then
            report "Files" "differ"
          else if s.contains '\x00' ∨ t.contains '\x00' then
            leave 2
            report "Binary files" "differ"
          else write (found.flatMap Difference.Hunk.text)
      | _, _ => leave 2

end Postroom.Shell.Utility
