import Std.Data.HashMap
import Postroom.Pattern.Form
import Postroom.Text.Utf8

/-!
# The size of patterns

A pattern is matched by an automaton over octets, and a pattern whose automaton would be too large
is refused.  The size is that of the states and of the lists that some states hold.  Two automata
count: one that reads forward and marks groups, and one that reads backward.

* `Span`, `Utf8Span.sequences` — the octets of a range of characters, as sequences of ranges;
* `Automaton` — what counts of an automaton under construction;
* `Automaton.compile` — adds the states for a form;
* `Pattern.fits` — neither automaton of a pattern is too large.
-/

namespace Postroom

/-- A range of octets. -/
structure Span where
  low : Nat
  high : Nat
deriving DecidableEq, Repr, Inhabited

namespace Span

/-- The last character that takes a number of octets. -/
def lastOfSize : Nat → Nat
  | 1 => 0x7F
  | 2 => 0x7FF
  | 3 => 0xFFFF
  | _ => 0x10FFFF

/-- Where a range of characters has to be cut because the two parts take different numbers of
octets. -/
def sizeCut? (low high : Nat) : Option Nat :=
  [1, 2, 3].findSome? fun size =>
    if low ≤ lastOfSize size ∧ lastOfSize size < high then some (lastOfSize size + 1) else none

/-- Where a range of characters that take the same number of octets has to be cut because the last
octets do not run through all values for all of the first octets. -/
def octetCut? (low high : Nat) : Option Nat :=
  [1, 2, 3].findSome? fun count =>
    let block := Nat.pow 64 count
    if low / block = high / block then none
    else if low % block ≠ 0 then some ((low / block + 1) * block)
    else if high % block ≠ block - 1 then some (high / block * block)
    else none

/-- The octets of the characters from `low` to `high`: sequences of ranges, in ascending order. -/
def sequences (low high : Nat) : List (List Span) :=
  match (sizeCut? low high).or (if high < 0x80 then none else octetCut? low high) with
  | some cut =>
    if low < cut ∧ cut ≤ high then sequences low (cut - 1) ++ sequences cut high else []
  | none =>
    let octets := fun n => (Utf8.encode [Char.ofNat n]).map UInt8.toNat
    [List.zipWith Span.mk (octets low) (octets high)]
termination_by high - low

/-- The octets of the members of a set, as sequences of ranges in ascending order. -/
def ofSet (s : CodeSet) : List (List Span) :=
  s.ranges.flatMap fun range => sequences range.1 range.2

end Span

/-- What counts of an automaton under construction: the number of its states, and what the lists
that states hold take. -/
structure Automaton where
  states : Nat
  lists : Nat
deriving DecidableEq, Repr

namespace Automaton

/-- What a state takes, without the lists it holds. -/
def stateSize : Nat := 32

/-- What a transition in a list takes. -/
def transitionSize : Nat := 8

/-- What a branch of a junction takes. -/
def branchSize : Nat := 4

/-- How large the automaton is. -/
def size (a : Automaton) : Nat :=
  a.states * stateSize + a.lists

/-- Adds states that hold no list. -/
def add (a : Automaton) (count : Nat) : Automaton :=
  { a with states := a.states + count }

/-- Adds branches to junctions that are there. -/
def branch (a : Automaton) (count : Nat) : Automaton :=
  { a with lists := a.lists + count * branchSize }

/-- Adds a state with transitions for ranges of octets. -/
def addTransitions (a : Automaton) (count : Nat) : Automaton :=
  ⟨a.states + 1, a.lists + count * transitionSize⟩

/-- A part of an automaton that has been added: the automaton, and whether the part ends in a
junction, which gets a branch when something is put behind it. -/
structure Part where
  automaton : Automaton
  endsInJunction : Bool
deriving DecidableEq, Repr

/-- The automaton after something has been put behind a part. -/
def Part.followed (p : Part) : Automaton :=
  if p.endsInJunction then p.automaton.branch 1 else p.automaton

/-! ## Sets of characters

States for the same octets with the same continuation are shared as far as a table of fixed size
remembers them: a later entry takes the place of an earlier one in the same slot. -/

/-- A transition: a range of octets and the number of the state it leads to. -/
abbrev Transition := Span × Nat

/-- A table of states by what they hold; each slot remembers its last entry. -/
abbrev Memory := Std.HashMap Nat (List Transition × Nat)

/-- Mixes a number into a hash. -/
def mix (hash : UInt64) (n : Nat) : UInt64 :=
  (hash ^^^ UInt64.ofNat n) * 1099511628211

/-- The hash of no numbers. -/
def noHash : UInt64 := 14695981039346656037

/-- The slot of a list of numbers. -/
def slot (slots : Nat) (ns : List Nat) : Nat :=
  (ns.foldl mix noHash).toNat % slots

/-- The state for some transitions: one that is remembered, or a new one. -/
def intern (transitions : List Transition) (r : Automaton × Memory) : Nat × Automaton × Memory :=
  let key := slot 10000 (transitions.flatMap fun t => [t.1.low, t.1.high, t.2])
  let fresh := (r.1.states, r.1.addTransitions transitions.length,
    r.2.insert key (transitions, r.1.states))
  match r.2[key]? with
  | some (held, state) => if held = transitions then (state, r) else fresh
  | none => fresh

/-- The state that reads some sequences of at most `depth` ranges, each up to the state `target`. -/
def internAll (target : Nat) :
    Nat → List (List Span) → Automaton × Memory → Nat × Automaton × Memory
  | 0, _, r => (target, r)
  | depth + 1, sequences, r =>
    let heads := sequences.splitBy fun x y => x.head? == y.head?
    let step := fun (acc : List Transition × Automaton × Memory) (group : List (List Span)) =>
      let tails := group.map List.tail
      let (next, r) := if tails.all (·.isEmpty) then (target, acc.2)
        else internAll target depth tails acc.2
      (((group.headD []).headD default, next) :: acc.1, r)
    let (transitions, r) := heads.foldl step ([], r)
    intern transitions.reverse r

/-- Adds the states for the ranges of one sequence that is read backward, so that its first range
comes last; `next` is the state behind it. -/
def internBackward (next : Nat) : List Span → Automaton × Memory → Automaton × Memory
  | [], r => r
  | span :: rest, (a, memory) =>
    let key := slot 1000 [next, span.low, span.high]
    match memory[key]? with
    | some (held, state) =>
      if held = [(span, next)] then internBackward state rest (a, memory)
      else internBackward a.states rest
        (a.add 1, memory.insert key ([(span, next)], a.states))
    | none => internBackward a.states rest (a.add 1, memory.insert key ([(span, next)], a.states))

/-- Adds the states for one character of a set. -/
def compileSet (backward : Bool) (s : CodeSet) (a : Automaton) : Automaton :=
  if s.ranges.all (·.2 < 0x80) then (a.add 1).addTransitions s.ranges.length
  else if backward then
    let start := (a.add 2, ∅)
    ((Span.ofSet s).foldl (fun r sequence =>
      let (a, memory) := internBackward (start.1.states - 1) sequence r
      (a.branch 1, memory)) start).1
  else (internAll a.states 4 (Span.ofSet s) (a.add 1, ∅)).2.1

/-! ## Choices between literals

Literals of a choice share what they begin with, between two of them of which the first ends there.
-/

/-- Splits the octets of literals that start at one place into the stretches between those that end
there; `isFirst` tells that none has ended there, `seen` holds the current stretch, last literal
first. -/
def stretches (isFirst : Bool) (isBare : Bool) (seen : List Octets) :
    List Octets → List (List Octets)
  | [] => [seen.reverse]
  | [] :: rest =>
    if isBare && !isFirst then stretches isFirst isBare seen rest
    else seen.reverse :: stretches false isBare [] rest
  | word :: rest => stretches isFirst false (word :: seen) rest

/-- Adds the states for literals that start at one place; `fuel` bounds their length. -/
def compileWords : Nat → List Octets → Automaton → Automaton
  | 0, _, a => a
  | fuel + 1, words, a =>
    let groups := stretches true true [] words
    let compileGroup := fun (a : Automaton) (group : List Octets) =>
      let heads := (group.map (·.headD 0)).eraseDups
      let a := heads.foldl (fun a b =>
        let tails := (group.filter (·.head? == some b)).map List.tail
        if tails.all (·.isEmpty) then a else compileWords fuel tails a) a
      match heads.length with
      | 0 => a
      | 1 => (a.add 1).branch 1
      | n => (a.addTransitions n).branch 1
    ((groups.foldl compileGroup a).branch (groups.length - 1)).add 1

/-- The octets of the literals of a choice, if it is one between literals; read backward, octets
come in the other order. -/
def words? (backward : Bool) (f : Form) : Option (List Octets) :=
  match f with
  | .alt _ _ =>
    f.branches.mapM fun
      | .literal t => some (if backward then (Utf8.encode t).reverse else Utf8.encode t)
      | _ => none
  | _ => none

/-! ## Forms -/

/-- Adds a part `count` more times, each behind the one before it, until a limit is exceeded. -/
def repeatPart (limit : Nat) (step : Automaton → Part) : Nat → Part → Part
  | 0, p => p
  | count + 1, p =>
    if limit < p.automaton.size then p else repeatPart limit step count (step p.followed)

/-- Adds a part `count` times. -/
def exactly (limit : Nat) (step : Automaton → Part) (count : Nat) (a : Automaton) : Part :=
  match count with
  | 0 => ⟨a.add 1, false⟩
  | count + 1 => repeatPart limit step count (step a)

/-- Adds a part `count` more times, each of which may be left out, until a limit is exceeded. -/
def optional (limit : Nat) (step : Automaton → Part) : Nat → Part → Part
  | 0, p => p
  | count + 1, p =>
    if limit < p.automaton.size then p
    else
      let next := step (p.followed.add 1)
      optional limit step count ⟨next.automaton.branch 2, next.endsInJunction⟩

/-- Adds a part as often as a repetition may take it; `isLong` tells that the part takes at least
one character. -/
def repetition (limit : Nat) (step : Automaton → Part) (isLong : Bool) (least : Nat)
    (most : Option Nat) (a : Automaton) : Part :=
  match least, most with
  | 0, some 1 => ⟨((step (a.add 1)).followed.add 1).branch 2, false⟩
  | 0, none =>
    if isLong then ⟨(step (a.add 1)).followed.branch 1, true⟩
    else ⟨((step a).followed.add 3).branch 4, false⟩
  | 1, none => ⟨((step a).followed.add 1).branch 1, true⟩
  | least + 1, none =>
    ⟨((step (exactly limit step least a).followed).followed.add 1).branch 1, true⟩
  | least, some most =>
    let first := exactly limit step least a
    if least = most then first
    else
      let start : Part := ⟨first.automaton.add 1, first.endsInJunction⟩
      ⟨(optional limit step (most - least) start).followed, false⟩

/-- Puts a part that has been added as an alternative into its choice.  The choice gets a junction
and an end with its second alternative; alternatives are numbered from one, and zero is no choice.
-/
def Part.asAlternative (p : Part) (place : Nat) : Part :=
  if place = 0 then p
  else
    let a := p.followed.branch 1
    ⟨if place = 2 then a.add 2 else a, false⟩

/-- Adds the states for a form, as the alternative at `place` of a choice and all that follow, or as
itself if `place` is zero. -/
def compile (limit : Nat) (backward : Bool) (place : Nat) : Form → Automaton → Part
  | .empty, a => Part.asAlternative ⟨a.add 1, false⟩ place
  | .literal t, a => Part.asAlternative ⟨a.add (Utf8.encode t).length, false⟩ place
  | .set s, a => Part.asAlternative ⟨compileSet backward s a, false⟩ place
  | .look _, a => Part.asAlternative ⟨a.add 1, false⟩ place
  | .group _ f, a =>
    Part.asAlternative
      (if backward then compile limit backward 0 f a
        else ⟨(compile limit backward 0 f (a.add 1)).followed.add 1, false⟩)
      place
  | .seq f g, a =>
    Part.asAlternative
      (if backward then
          compile limit backward 0 f (compile limit backward 0 g a).followed
        else compile limit backward 0 g (compile limit backward 0 f a).followed)
      place
  | .alt f g, a =>
    match if place = 0 then words? backward (.alt f g) else none with
    | some words =>
      ⟨compileWords ((words.map List.length).foldl max 0 + 1) words (a.add 1), false⟩
    | none =>
      compile limit backward (max place 1 + 1) g
        (compile limit backward (max place 1) f a).automaton
  | .times least most f, a =>
    Part.asAlternative
      (repetition limit (fun a => compile limit backward 0 f a)
        ((f.leastLength.getD 0) ≠ 0) least most a)
      place

/-- The automaton of a form, with what lets it start anywhere unless the form is anchored. -/
def ofForm (limit : Nat) (backward : Bool) (f : Form) : Automaton :=
  let isAnchored := if backward then f.isAnchoredAtEnd else f.isAnchoredAtStart
  let start : Automaton := if isAnchored then ⟨1, 0⟩
    else ((Automaton.add ⟨0, 0⟩ 2).addTransitions 1).branch 2
  (compile limit backward 0 (.group 0 f) start).followed.add 1

end Automaton

namespace Pattern

/-- How large the automata of a pattern may be. -/
def sizeLimit : Nat := 10 * 0x100000

/-- Neither automaton of the pattern is too large. -/
def fits (p : Pattern) : Bool :=
  let f := Form.ofPattern p
  [false, true].all fun backward =>
    (Automaton.ofForm sizeLimit backward f).size ≤ sizeLimit

end Pattern

end Postroom
