import Postroom.Shell.Glob
import Postroom.Shell.Utility.Basic

/-!
# Exchanging characters

`tr` exchanges, deletes and squeezes characters of its input.  Its sets are written as lists of
characters, ranges, classes and repetitions.

* `CharList.parse` — the items of a set;
* `CharList.translation` — the two sets of an exchange, if each character has a partner.
-/

namespace Postroom.Shell.Utility

namespace CharList

/-- A character of a written set, and whether it stands for itself because it was escaped. -/
abbrev Sign := Char × Bool

/-- What a set is made of. -/
inductive Item where
  | chars (cs : Text)
  /-- A class; `isCase` for the two that an exchange pairs with one another. -/
  | ofClass (cs : Text) (isCase : Bool)
  | equalTo (c : Char)
  /-- A character repeated so many times, or as often as the size of another set asks for. -/
  | repeated (c : Char) (count : Option Nat)

/-- Why a text is no set, or two sets give no exchange. -/
inductive Fault where
  | reversed (a b : Char)
  | noClass
  | unknownClass (name : Text)
  | noEquivalent
  | manyEquivalents (t : Text)
  | badCount (t : Text)
  | openInFirst
  | twiceOpen
  | openUnpaired
  | otherClass
  | equivalence
  | misaligned
  | empty
  | endsInClass
  | notUniform

/-- A character as complaints show it. -/
def shown (c : Char) : Text :=
  let n := c.toNat
  let digit (k : Nat) : Char := Char.ofNat (48 + k % 8)
  if 32 ≤ n ∧ n < 127 then [c] else ['\\', digit (n / 64), digit (n / 8), digit n]

/-- The wording of a complaint. -/
def Fault.message : Fault → Text
  | reversed a b => "range-endpoints of '".toList ++ shown a ++ '-' :: shown b
      ++ "' are in reverse collating sequence order".toList
  | noClass => "missing character class name '[::]'".toList
  | unknownClass name =>
    "invalid character class '".toList ++ name.flatMap shown ++ ['\'']
  | noEquivalent => "missing equivalence class character '[==]'".toList
  | manyEquivalents t =>
    t.flatMap shown ++ ": equivalence class operand must be a single character".toList
  | badCount t =>
    "invalid repeat count '".toList ++ t.flatMap shown ++ "' in [c*n] construct".toList
  | openInFirst => "the [c*] repeat construct may not appear in string1".toList
  | twiceOpen => "only one [c*] repeat construct may appear in string2".toList
  | openUnpaired => "the [c*] construct may appear in string2 only when translating".toList
  | otherClass => ("when translating, the only character classes that may appear in\n"
      ++ "string2 are 'upper' and 'lower'").toList
  | equivalence => "[=c=] expressions may not appear in string2 when translating".toList
  | misaligned => "misaligned [:upper:] and/or [:lower:] construct".toList
  | empty => "when not truncating set1, string2 must be non-empty".toList
  | endsInClass => ("when translating with string1 longer than string2,\n"
      ++ "the latter string must not end with a character class").toList
  | notUniform => ("when translating with complemented character classes,\n"
      ++ "string2 must map all characters in the domain to one").toList

/-- The signs of a set with the given fuel. -/
def signsFrom : Nat → Text → List Sign
  | 0, _ | _, [] => []
  | fuel + 1, c :: rest =>
    let escaped (d : Char) (rest : Text) : List Sign := (d, true) :: signsFrom fuel rest
    if c ≠ '\\' then (c, false) :: signsFrom fuel rest
    else
      match rest with
      | [] => [('\\', false)]
      | 'n' :: rest => escaped '\n' rest
      | 't' :: rest => escaped '\t' rest
      | 'r' :: rest => escaped '\r' rest
      | 'a' :: rest => escaped '\x07' rest
      | 'b' :: rest => escaped '\x08' rest
      | 'f' :: rest => escaped '\x0c' rest
      | 'v' :: rest => escaped '\x0b' rest
      | d :: others =>
        let ds := (rest.take 3).takeWhile fun c => '0' ≤ c ∧ c ≤ '7'
        if ds.isEmpty then escaped d others
        else
          let value (ds : Text) : Nat := ds.foldl (fun n c => n * 8 + (c.toNat - 48)) 0
          let ds := if value ds < 256 then ds else ds.take 2
          escaped (Char.ofNat (value ds)) (rest.drop ds.length)

/-- Whether a backslash at the end escapes nothing. -/
def endsOpen (t : Text) : Bool :=
  (signsFrom (t.length + 1) t).getLast? = some ('\\', false)

/-- The characters from one to another. -/
def range (a b : Char) : Text :=
  (List.range (b.toNat + 1 - a.toNat)).map fun i => Char.ofNat (a.toNat + i)

/-- The characters of a class. -/
def classOf? (name : Text) : Option Text :=
  match String.ofList name with
  | "space" => some (range '\t' '\r' ++ [' '])
  | "blank" => some ['\t', ' ']
  | _ => (classRanges? name).map (·.flatMap fun r => range r.1 r.2)

/-- What stands in front of a mark and a closing bracket, and what follows them. -/
def upToClosing (mark : Char) : List Sign → Option (Text × List Sign)
  | [] => none
  | (c, isEscaped) :: rest =>
    match rest with
    | (']', false) :: behind =>
      if c = mark ∧ !isEscaped then some ([], behind)
      else (upToClosing mark rest).map fun (t, behind) => (c :: t, behind)
    | _ => (upToClosing mark rest).map fun (t, behind) => (c :: t, behind)

/-- What stands in front of a closing bracket, if nothing of it is escaped. -/
def upToBracket : List Sign → Option (Text × List Sign)
  | (']', false) :: behind => some ([], behind)
  | (c, false) :: rest => (upToBracket rest).map fun (t, behind) => (c :: t, behind)
  | _ => none

/-- The number of a repetition; none or nought leaves it open. -/
def count? (t : Text) : Except Fault (Option Nat) :=
  let isOctal : Bool := t.head? = some '0'
  if t.all fun c => '0' ≤ c ∧ c ≤ (if isOctal then '7' else '9') then
    let n := t.foldl (fun n c => n * (if isOctal then 8 else 10) + (c.toNat - 48)) 0
    .ok (if n = 0 then none else some n)
  else .error (.badCount t)

/-- A repetition behind its bracket. -/
def repetition? : List Sign → Except Fault (Option (Item × List Sign))
  | (c, _) :: ('*', false) :: rest =>
    match upToBracket rest with
    | none => .ok none
    | some (t, behind) => (count? t).map fun n => some (.repeated c n, behind)
  | _ => .ok none

/-- A class or an equivalence behind its bracket. -/
def bracketed? : List Sign → Except Fault (Option (Item × List Sign))
  | (mark, false) :: rest =>
    if mark ≠ ':' ∧ mark ≠ '=' then .ok none
    else
      match upToClosing mark rest with
      | none => .ok none
      | some (t, behind) =>
        -- What begins with a star may be meant as a repetition of the mark.
        let isRepetition : Bool := match t with
          | '*' :: _ => (upToBracket (rest.drop 1)).any fun r => r.1.all Char.isDigit
          | _ => false
        if mark = ':' then
          match classOf? t with
          | some cs =>
            .ok (some (.ofClass cs (t = "upper".toList ∨ t = "lower".toList), behind))
          | none =>
            if t.isEmpty then .error .noClass
            else if isRepetition then .ok none else .error (.unknownClass t)
        else
          match t with
          | [] => .error .noEquivalent
          | [c] => .ok (some (.equalTo c, behind))
          | _ => if isRepetition then .ok none else .error (.manyEquivalents t)
  | _ => .ok none

/-- Reads items with the given fuel. -/
def itemsFrom : Nat → List Sign → Except Fault (List Item)
  | 0, _ | _, [] => .ok []
  | fuel + 1, (c, isEscaped) :: rest => do
    let special ← if c = '[' ∧ !isEscaped then
        match ← bracketed? rest with
        | some found => .ok (some found)
        | none => repetition? rest
      else .ok none
    match special with
    | some (item, behind) => return item :: (← itemsFrom fuel behind)
    | none =>
      match rest with
      | ('-', false) :: (d, _) :: behind =>
        if c ≤ d then return .chars (range c d) :: (← itemsFrom fuel behind)
        else .error (.reversed c d)
      | _ => return .chars [c] :: (← itemsFrom fuel rest)

/-- The items of a set. -/
def parse (t : Text) : Except Fault (List Item) :=
  itemsFrom (t.length + 1) (signsFrom (t.length + 1) t)

/-- The characters of an item; an open repetition has so many. -/
def Item.text (wanted : Nat) : Item → Text
  | chars cs | ofClass cs _ => cs
  | equalTo c => [c]
  | repeated c n => List.replicate (n.getD wanted) c

/-- Whether an item is a repetition without a number. -/
def Item.isOpen : Item → Bool
  | repeated _ none => true
  | _ => false

/-- The characters of items, filled up to a size. -/
def expand (size : Nat) (items : List Item) : Text :=
  let fixed := (items.flatMap (Item.text 0)).length
  items.flatMap (Item.text (size - fixed))

/-- The places at which the classes of an exchange of case begin. -/
def casePlaces (size : Nat) (items : List Item) : List Nat :=
  let fixed := (items.flatMap (Item.text 0)).length
  (items.foldl (fun (places, n) item =>
    (match item with
      | .ofClass _ true => n :: places
      | _ => places, n + (item.text (size - fixed)).length)) (([], 0) : List Nat × Nat)).1

/-- The first set of a command; its repetitions all have a number. -/
def firstSet (items : List Item) : Except Fault Text :=
  if items.any Item.isOpen then .error .openInFirst else .ok (expand 0 items)

/-- All characters that a text can hold. -/
def allOctets : Text :=
  (List.range 256).map Char.ofNat

/-- The characters that are not in a set. -/
def complement (cs : Text) : Text :=
  allOctets.filter fun c => !cs.contains c

/-- The two sets of an exchange: what is exchanged, and for what.  `isInverted` takes what the first
set leaves out; `cuts` cuts the first set down to the size of the second. -/
def translation (isInverted cuts : Bool) (first second : List Item) :
    Except Fault (Text × Text) := do
  let given ← firstSet first
  let old := if isInverted then complement given else given
  if 1 < (second.filter Item.isOpen).length then .error .twiceOpen
  let new := expand old.length second
  if second.any fun | .equalTo _ => true | _ => false then .error .equivalence
  if second.any fun | .ofClass _ isCase => !isCase | _ => false then .error .otherClass
  let paired := casePlaces 0 first
  let cased := (casePlaces old.length second).filter (· ≤ old.length)
  if !isInverted ∧ !cased.all paired.contains then .error .misaligned
  if new.length < old.length ∧ !cuts then
    if new.isEmpty then .error .empty
    if second.getLast?.any fun | .ofClass .. => true | _ => false then .error .endsInClass
  let isUniform : Bool := new.all fun c => new.head? = some c
  if isInverted ∧ (first.any fun | .ofClass .. => true | _ => false) ∧ !isUniform then
    .error .notUniform
  let old := if cuts then old.take new.length else old
  .ok (old, new ++ List.replicate (old.length - new.length) (new.getLastD '\x00'))

end CharList

/-- A text without the repetitions of characters that are to be squeezed. -/
def squeeze (takes : Char → Bool) : Option Char → Text → Text
  | _, [] => []
  | last, c :: rest =>
    if last = some c ∧ takes c then squeeze takes last rest else c :: squeeze takes (some c) rest

/-- A text in which each character of one list is exchanged for its partner in another; of several
places for a character, the last one counts. -/
def exchange (old new : Text) (t : Text) : Text :=
  let pairs := (List.zip old new).reverse
  let table : Array Char := (CharList.allOctets.map fun c => (pairs.lookup c).getD c).toArray
  t.map fun c => table.getD c.toNat c

/-- What a command does to its input, by whether it deletes, squeezes, inverts and cuts its first
set. -/
def edit (deletes squeezes isInverted cuts : Bool) (first : List CharList.Item) :
    Option (List CharList.Item) → Except CharList.Fault (Text → Text)
  | none => do
    let given ← CharList.firstSet first
    let cs := if isInverted then CharList.complement given else given
    if deletes then .ok (·.filter fun c => !cs.contains c) else .ok (squeeze cs.contains none)
  | some second => do
    if deletes then
      let given ← CharList.firstSet first
      let cs := if isInverted then CharList.complement given else given
      if 1 < (second.filter CharList.Item.isOpen).length then .error .twiceOpen
      if second.any CharList.Item.isOpen then .error .openUnpaired
      let kept := CharList.expand 0 second
      .ok fun t => squeeze kept.contains none (t.filter fun c => !cs.contains c)
    else
      let (old, new) ← CharList.translation isInverted cuts first second
      .ok fun t =>
        let t := exchange old new t
        if squeezes then squeeze new.contains none t else t

/-- Exchanges, deletes and squeezes characters of the input. -/
def tr : Utility := fun arguments =>
  withOptions "tr" 1 "cCdst" [("complement", 'c'), ("delete", 'd'), ("squeeze-repeats", 's'),
    ("truncate-set1", 't')] arguments fun g => do
    let hint : Action Unit :=
      Action.change (·.complain "Try 'tr --help' for more information.".toList)
    let note (t : String) : Action Unit := Action.change (·.complain t.toList)
    let deletes := g.has 'd'
    let squeezes := g.has 's'
    match g.operands with
    | [] =>
      complain "tr" 1 "missing operand".toList
      hint
    | a :: rest =>
      let most := if deletes ∧ !squeezes then 1 else 2
      match g.operands.drop most with
      | extra :: others =>
        complain "tr" 1 ("extra operand ".toList ++ Name.marked extra)
        if most = 1 ∧ others.isEmpty then
          note "Only one string may be given when deleting without squeezing repeats."
        hint
      | [] =>
        if rest.isEmpty ∧ deletes = squeezes then
          complain "tr" 1 ("missing operand after ".toList ++ Name.marked a)
          note (if deletes then
            "Two strings must be given when both deleting and squeezing repeats."
            else "Two strings must be given when translating.")
          hint
        else
          if g.operands.any CharList.endsOpen then
            note "tr: warning: an unescaped backslash at end of string is not portable"
          let made : Except CharList.Fault (Text → Text) := do
            let first ← CharList.parse a
            let second ← rest.head?.mapM CharList.parse
            edit deletes squeezes (g.has 'c' ∨ g.has 'C') (g.has 't') first second
          match made with
          | .error fault => complain "tr" 1 fault.message
          | .ok change =>
            let (t, m) := (← get).readAll 0
            set m
            write (change t)

end Postroom.Shell.Utility
