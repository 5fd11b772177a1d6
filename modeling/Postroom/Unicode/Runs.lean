import Postroom.Unicode.CodeSet

/-!
# Tables over the code space

A table over all code points is kept as its runs: the first code point of each run and the value
that holds until the next one.  Runs are written as text, as lengths with labels (`32Cc1Zs…`), and
looked up by bisection; `Runs.toSet` collects the code points whose value is wanted.
-/

namespace Postroom.Unicode.Runs

/-- Reads lengths with labels; `start` is the first code point of the run at hand, `length` and
`label` what has been read of it, the label last character first. -/
def labelled (start length : Nat) (label : Text) : Text → List (Nat × Text)
  | [] => [(start, label.reverse)]
  | c :: rest =>
    if c.isDigit then
      let d := c.toNat - '0'.toNat
      if label.isEmpty then labelled start (length * 10 + d) [] rest
      else (start, label.reverse) :: labelled (start + length) d [] rest
    else labelled start length (c :: label) rest

/-- The runs of a text of lengths with labels, which may be broken anywhere. -/
def ofText (t : Text) : Array (Nat × Text) :=
  (labelled 0 0 [] (t.filter fun c => c.isAlphanum)).toArray

/-- Bisects for the last run that starts at or before `n`, given that the run at `low` does. -/
def bisect {α : Type} (runs : Array (Nat × α)) (n low high : Nat) : Nat :=
  if low + 1 < high then
    let middle := (low + high) / 2
    match runs[middle]? with
    | some run => if run.1 ≤ n then bisect runs n middle high else bisect runs n low middle
    | none => low
  else low
termination_by high - low

/-- The value of the run that a code point lies in. -/
def lookup {α : Type} (runs : Array (Nat × α)) (n : Nat) : Option α :=
  runs[bisect runs n 0 runs.size]?.map (·.2)

/-- The edges of the set of the code points whose value is wanted; `inside` tells whether the code
points before the runs are. -/
def edgesFrom {α : Type} (wanted : α → Bool) (inside : Bool) : List (Nat × α) → List Nat
  | [] => []
  | run :: rest =>
    if wanted run.2 = inside then edgesFrom wanted inside rest
    else run.1 :: edgesFrom wanted (!inside) rest

/-- The code points whose value is wanted. -/
def toSet {α : Type} (runs : Array (Nat × α)) (wanted : α → Bool) : CodeSet :=
  ⟨edgesFrom wanted false runs.toList⟩

/-! ## Sparse tables

A table of few code points is written as the code points in ascending order, each followed by what
it stands for and a semicolon. -/

/-- The number of a text of digits, which may have a minus sign. -/
def number? (t : Text) : Option Int :=
  match t with
  | '-' :: digits => (Text.toNat? digits).map fun n => -(n : Int)
  | digits => (Text.toNat? digits).map Int.ofNat

/-- The numbers of a text, with blanks between. -/
def numbers (t : Text) : List Int :=
  (Text.pieces (fun c => c == ' ' || c == '\n') t).filterMap number?

/-- The entries of a sparse table. -/
def entries (t : Text) : List (Nat × List Nat) :=
  (Text.pieces (· == ';') t).filterMap fun entry =>
    match numbers entry with
    | n :: image => some (n.toNat, image.map Int.toNat)
    | [] => none

/-- What a code point stands for in a sparse table. -/
def entry? (table : Array (Nat × List Nat)) (n : Nat) : Option (List Nat) :=
  match table[bisect table n 0 table.size]? with
  | some entry => if entry.1 = n then some entry.2 else none
  | none => none

end Postroom.Unicode.Runs
