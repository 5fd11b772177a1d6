import Postroom.Unicode.PropertySet

/-!
# Patterns

A pattern describes texts.  Matching works on sets of places: `Pattern.advance` takes the places
where a match may have begun to the places where it may end, for all of them at once, so its cost is
bounded by the sizes of pattern and text.  A place is the number of characters in front of it; a
text of `n` characters has the places from 0 to `n`.

* `Places.union`, `Places.without`, `Places.closure` — the algebra of sets of places;

* `Pattern.isFound` — a stretch of the text is described by the pattern;
* `Look.holds` — the conditions on a place that take no character.
-/

namespace Postroom

/-- A condition on a place between two characters. -/
inductive Look where
  | textStart
  | textEnd
  /-- A line starts; with `crlf`, a carriage return ends lines, too. -/
  | lineStart (crlf : Bool)
  /-- A line ends; with `crlf`, a carriage return ends lines, too. -/
  | lineEnd (crlf : Bool)
  /-- A word starts or ends.  The flag of this and the following says whether only ASCII characters
  make words. -/
  | wordEdge (ascii : Bool)
  | noWordEdge (ascii : Bool)
  | wordStart (ascii : Bool)
  | wordEnd (ascii : Bool)
  | noWordBefore (ascii : Bool)
  | noWordAfter (ascii : Bool)
deriving DecidableEq, Repr

namespace Look

/-- The character makes words. -/
def isWordChar (ascii : Bool) (c : Char) : Bool :=
  if ascii || c.toNat < 0x80 then c.isAlphanum || c == '_' else Unicode.PropertySet.word.mem c

/-- The condition holds between these two characters, where there are such. -/
def holds (look : Look) (before after : Option Char) : Bool :=
  match look with
  | textStart => before.isNone
  | textEnd => after.isNone
  | lineStart crlf =>
    before.all fun c => c == '\n' || (crlf && c == '\r' && after != some '\n')
  | lineEnd crlf =>
    after.all fun c => if crlf then c == '\r' || (c == '\n' && before != some '\r') else c == '\n'
  | wordEdge ascii => before.any (isWordChar ascii) != after.any (isWordChar ascii)
  | noWordEdge ascii => before.any (isWordChar ascii) == after.any (isWordChar ascii)
  | wordStart ascii => !before.any (isWordChar ascii) && after.any (isWordChar ascii)
  | wordEnd ascii => before.any (isWordChar ascii) && !after.any (isWordChar ascii)
  | noWordBefore ascii => !before.any (isWordChar ascii)
  | noWordAfter ascii => !after.any (isWordChar ascii)

end Look

/-- A description of texts. -/
inductive Pattern where
  | empty
  /-- One character of a set. -/
  | chars (set : CodeSet)
  | look (l : Look)
  | seq (p q : Pattern)
  | alt (p q : Pattern)
  /-- At least `least` and, if given, at most `most` times in a row. -/
  | times (least : Nat) (most : Option Nat) (p : Pattern)
  /-- What stands in round brackets, with its number if they capture. -/
  | group (number : Option Nat) (p : Pattern)
deriving DecidableEq, Repr

namespace Pattern

/-! ## Places -/

/-- A set of places of a text, in ascending order. -/
abbrev Places := List Nat

namespace Places

/-- Puts a place into a set; `further` is what becomes of the rest of the set from there on. -/
def insertThen (place : Nat) (further : Places → Places) : Places → Places
  | [] => place :: further []
  | q :: qs =>
    if place < q then place :: further (q :: qs)
    else if place = q then place :: further qs
    else q :: insertThen place further qs

/-- Places of either set. -/
def union : Places → Places → Places
  | [], qs => qs
  | p :: ps, qs => insertThen p (union ps) qs

/-- Keeps a place unless a set holds it; `further` is what becomes of the rest of the set from there
on. -/
def keepThen (place : Nat) (further : Places → Places) : Places → Places
  | [] => place :: further []
  | q :: qs =>
    if q < place then keepThen place further qs
    else if place = q then further qs
    else place :: further (q :: qs)

/-- Places of the first set that the second does not hold. -/
def without : Places → Places → Places
  | [], _ => []
  | p :: ps, qs => keepThen p (without ps) qs

/-- The places that at most `count` steps lead to.  A step never leads back, so that only the places
from the first new one on are kept at hand: `settled` are those before it, last first, `near` are
the others that have been reached, and `fresh` those of them from which no step has been taken. -/
def closure (step : Places → Places) : Nat → (settled near fresh : Places) → Places
  | 0, settled, near, _ => settled.reverse ++ near
  | _ + 1, settled, near, [] => settled.reverse ++ near
  | count + 1, settled, near, first :: others =>
    let (behind, ahead) := near.span (· < first)
    let reached := without (step (first :: others)) ahead
    closure step count (behind.reverse ++ settled) (union ahead reached) reached

end Places

/-- Applies a step `n` times, or until it changes nothing. -/
def iterate (f : Places → Places) : Nat → Places → Places
  | 0, ps => ps
  | n + 1, ps =>
    let next := f ps
    if next = ps then ps else iterate f n next

/-! ## Matching -/

/-- The condition holds at this place of the text. -/
def holdsAt (t : Array Char) (l : Look) (place : Nat) : Bool :=
  l.holds (if place = 0 then none else t[place - 1]?) t[place]?

/-- The character behind this place lies in the set. -/
def fitsAt (t : Array Char) (set : CodeSet) (place : Nat) : Bool :=
  t[place]?.any set.mem

/-- The places where a match may end that begins at one of the given places. -/
def advance (t : Array Char) : Pattern → Places → Places
  | empty, ps => ps
  | chars set, ps => (ps.filter (fitsAt t set)).map (· + 1)
  | look l, ps => ps.filter (holdsAt t l)
  | seq p q, ps => advance t q (advance t p ps)
  | alt p q, ps => Places.union (advance t p ps) (advance t q ps)
  | times least most p, ps =>
    let start := iterate (advance t p) least ps
    let further := (most.map (· - least)).getD (t.size + 1)
    Places.closure (advance t p) further [] start start
  | group _ p, ps => advance t p ps

/-- Some stretch of the text is described by the pattern. -/
def isFound (p : Pattern) (t : Text) : Bool :=
  !(advance t.toArray p (List.range (t.length + 1))).isEmpty

end Pattern

end Postroom
