import Postroom.Text.Basic

/-!
# Sets of code points

A set of code points is kept as its edges: the code points, in ascending order, at which membership
changes, starting outside of the set.  So `[0x41, 0x5B]` are the capital letters of ASCII, and
`[0x80]` is all that is not ASCII.  `CodeSet.combine` goes through the edges of two sets at once.

* `CodeSet.contains`, `CodeSet.mem` — membership of a code point and of a character;
* `union`, `inter`, `diff`, `symmDiff`, `compl` — the algebra of sets;
* `CodeSet.ranges` — the maximal stretches of a set.
-/

namespace Postroom

/-- A set of code points, given by the code points at which membership changes. -/
structure CodeSet where
  edges : List Nat
deriving DecidableEq, Repr, Inhabited

namespace CodeSet

/-- The number of code points. -/
def codeSpace : Nat := 0x110000

/-- An odd number of ascending edges lies at or before `n`. -/
def crosses (n : Nat) : List Nat → Bool
  | [] => false
  | e :: es => if e ≤ n then !crosses n es else false

/-- The code point lies in the set. -/
def contains (s : CodeSet) (n : Nat) : Bool :=
  crosses n s.edges

/-- The character lies in the set. -/
def mem (s : CodeSet) (c : Char) : Bool :=
  s.contains c.toNat

/-- The set without members. -/
def empty : CodeSet := ⟨[]⟩

/-- The set of all code points. -/
def all : CodeSet := ⟨[0]⟩

/-- The code points from `low` to `high`. -/
def span (low high : Nat) : CodeSet :=
  ⟨[low, high + 1]⟩

/-- The set of one code point. -/
def single (n : Nat) : CodeSet :=
  span n n

/-- The code points outside a set. -/
def compl (s : CodeSet) : CodeSet :=
  match s.edges with
  | 0 :: es => ⟨es⟩
  | es => ⟨0 :: es⟩

/-- The edges of a combination of two sets from some place on, where `inA` and `inB` tell whether
the place lies in the sets. -/
def combineFrom (op : Bool → Bool → Bool) (inA inB : Bool) : List Nat → List Nat → List Nat
  | [], [] => []
  | a :: as, [] =>
    let rest := combineFrom op (!inA) inB as []
    if op (!inA) inB = op inA inB then rest else a :: rest
  | [], b :: bs =>
    let rest := combineFrom op inA (!inB) [] bs
    if op inA (!inB) = op inA inB then rest else b :: rest
  | a :: as, b :: bs =>
    if a < b then
      let rest := combineFrom op (!inA) inB as (b :: bs)
      if op (!inA) inB = op inA inB then rest else a :: rest
    else if b < a then
      let rest := combineFrom op inA (!inB) (a :: as) bs
      if op inA (!inB) = op inA inB then rest else b :: rest
    else
      let rest := combineFrom op (!inA) (!inB) as bs
      if op (!inA) (!inB) = op inA inB then rest else a :: rest
termination_by as bs => as.length + bs.length

/-- The code points whose membership in two sets an operation accepts; an operation never accepts
what lies in neither. -/
def combine (op : Bool → Bool → Bool) (a b : CodeSet) : CodeSet :=
  ⟨combineFrom op false false a.edges b.edges⟩

/-- The code points of either set. -/
def union (a b : CodeSet) : CodeSet :=
  combine (· || ·) a b

/-- The code points of both sets. -/
def inter (a b : CodeSet) : CodeSet :=
  combine (· && ·) a b

/-- The code points of the first set that are not in the second. -/
def diff (a b : CodeSet) : CodeSet :=
  combine (fun x y => x && !y) a b

/-- The code points of exactly one of two sets. -/
def symmDiff (a b : CodeSet) : CodeSet :=
  combine (· != ·) a b

/-- The union of some sets. -/
def unions (sets : List CodeSet) : CodeSet :=
  sets.foldl union empty

/-- The edges of the set of some code points in ascending order. -/
def edgesOf : List Nat → List Nat
  | [] => []
  | n :: rest =>
    match edgesOf rest with
    | low :: es =>
      if low = n then low :: es else if low = n + 1 then n :: es else n :: (n + 1) :: low :: es
    | [] => [n, n + 1]

/-- The set of some code points. -/
def ofList (ns : List Nat) : CodeSet :=
  ⟨edgesOf ns.mergeSort⟩

/-- The set of the given ranges of characters, written as pairs of ends. -/
def ofPairs : Text → CodeSet
  | a :: b :: rest => union (span a.toNat b.toNat) (ofPairs rest)
  | _ => empty

/-- The places reached by going on by each of some lengths. -/
def edgesFrom (start : Nat) : List Nat → List Nat
  | [] => []
  | length :: rest => (start + length) :: edgesFrom (start + length) rest

/-- The set of a text of lengths of the stretches outside and inside a set, in turn, from U+0000
on. -/
def ofLengths (t : String) : CodeSet :=
  let numerals := Text.pieces (fun c => c == ' ' || c == '\n') t.toList
  ⟨edgesFrom 0 (numerals.filterMap Text.toNat?)⟩

/-- The stretches between edges, as first and last code points. -/
def stretches : List Nat → List (Nat × Nat)
  | [] => []
  | [low] => [(low, codeSpace - 1)]
  | low :: high :: rest => (low, high - 1) :: stretches rest

/-- The maximal stretches of a set, as first and last code points. -/
def ranges (s : CodeSet) : List (Nat × Nat) :=
  stretches (s.edges.filter (· < codeSpace))

/-- The members of a set. -/
def toList (s : CodeSet) : List Nat :=
  s.ranges.flatMap fun range => List.range' range.1 (range.2 + 1 - range.1)

end CodeSet

end Postroom
