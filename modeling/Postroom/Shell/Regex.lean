import Postroom.Shell.Arithmetic
import Postroom.Shell.Glob

/-!
# Regular expressions

The expressions by which utilities search text, in their basic and their extended notation.  A match
is the leftmost one and, of those, the longest.

* `Regex.parse` — reads an expression;
* `Regex.find?` — the first match in a text, from a place on.
-/

namespace Postroom.Shell

/-- A regular expression over characters. -/
inductive Regex where
  | empty
  | oneOf (negated : Bool) (ranges : List (Char × Char))
  | seq (a b : Regex)
  | alt (a b : Regex)
  | star (a : Regex)
  | group (number : Nat) (a : Regex)
  | back (number : Nat)
  | start
  | finish
  | wordStart
  | wordEnd
  | wordEdge
  | noWordEdge
  /-- No character of a word is in front of the place, or behind it. -/
  | noWordBefore
  | noWordBehind
deriving DecidableEq, Repr

/-- Why a text is no regular expression. -/
inductive RegexError where
  | unmatchedBracket
  | unmatchedParenthesis (closing : Bool)
  | unmatchedBrace
  | trailingBackslash
  | badReference
  | badClass
  | badInterval
  | badRange
  | nothingToRepeat
deriving DecidableEq, Repr

/-- The wording of the cause. -/
def RegexError.message : RegexError → Text
  | .unmatchedBracket => "Unmatched [, [^, [:, [., or [=".toList
  | .unmatchedParenthesis true => "Unmatched ) or \\)".toList
  | .unmatchedParenthesis false => "Unmatched ( or \\(".toList
  | .unmatchedBrace => "Unmatched \\\x7b".toList
  | .trailingBackslash => "Trailing backslash".toList
  | .badReference => "Invalid back reference".toList
  | .badClass => "Invalid character class name".toList
  | .badInterval => "Invalid content of \\\x7b\\\x7d".toList
  | .badRange => "Invalid range end".toList
  | .nothingToRepeat => "Invalid preceding regular expression".toList

namespace Regex

/-- A single character. -/
def char (c : Char) : Regex :=
  .oneOf false [(c, c)]

/-- Any character. -/
def any : Regex :=
  .oneOf true []

/-- The characters of words. -/
def wordRanges : List (Char × Char) :=
  [('0', '9'), ('A', 'Z'), ('_', '_'), ('a', 'z')]

/-- The expression so many times. -/
def times (a : Regex) : Nat → Regex
  | 0 => .empty
  | 1 => a
  | n + 2 => .seq a (times a (n + 1))

/-- The expression at most so many times. -/
def upTo (a : Regex) : Nat → Regex
  | 0 => .empty
  | n + 1 => .alt (.seq a (upTo a n)) .empty

/-- The expression from `low` to `high` times. -/
def between (a : Regex) (low : Nat) (high : Option Nat) : Regex :=
  match high with
  | none => .seq (times a low) (.star a)
  | some high => .seq (times a low) (upTo a (high - low))

/-! ## Notation -/

/-- How an expression is written. -/
structure Notation where
  /-- Operators stand without a backslash. -/
  isExtended : Bool
  /-- Letters and codes behind a backslash name characters, also within brackets. -/
  namesCharacters : Bool
  /-- Letters behind a backslash stand for classes and for edges of words. -/
  namesClasses : Bool
  /-- A brace that begins no interval and a parenthesis that closes nothing stand for themselves. -/
  isLenient : Bool
  /-- An operator that repeats may have nothing in front of it. -/
  repeatsNothing : Bool
deriving DecidableEq, Repr

namespace Notation

/-- The notation in which text is searched for. -/
def search (isExtended : Bool) : Notation :=
  ⟨isExtended, false, true, isExtended, isExtended⟩

/-- The notation in which text is edited. -/
def edit (isExtended : Bool) : Notation :=
  ⟨isExtended, true, true, false, false⟩

/-- The notation of programs over records. -/
def records : Notation :=
  ⟨true, true, false, true, false⟩

end Notation

/-- What has been read: the rest of the text and the number of groups. -/
structure Reading where
  rest : Text
  groups : Nat
deriving DecidableEq, Repr

/-- The character of an escape that names one. -/
def named? (c : Char) : Option Char :=
  match c with
  | 'n' => some '\n'
  | 't' => some '\t'
  | 'r' => some '\r'
  | 'f' => some '\x0c'
  | 'v' => some '\x0b'
  | 'a' => some '\x07'
  | _ => none

/-- The number that digits make in a base. -/
def codeOf (base : Nat) (ds : Text) : Nat :=
  ds.foldl (fun n c => base * n + (Numeral.digit? base c).getD 0) 0

/-- The character of a code behind a backslash, in the base that a letter names, or of a control
key, and what follows it. -/
def coded? (t : Text) : Option (Char × Text) :=
  let read (base size : Nat) (t : Text) : Option (Char × Text) :=
    let ds := (t.take size).takeWhile fun c => (Numeral.digit? base c).isSome
    if ds.isEmpty then none else some (Char.ofNat (codeOf base ds % 256), t.drop ds.length)
  match t with
  | 'x' :: rest => read 16 2 rest
  | 'd' :: rest => read 10 3 rest
  | 'o' :: rest => read 8 3 rest
  | 'c' :: c :: rest => some (Char.ofNat (c.toUpper.toNat ^^^ 64), rest)
  | _ => none

/-- A text with characters in the place of the codes behind backslashes that stand for them; `fuel`
bounds the length of the text. -/
def decoded : Nat → Text → Text
  | 0, t => t
  | _ + 1, [] => []
  | fuel + 1, '\\' :: rest =>
    match coded? rest, rest with
    | some (c, rest), _ => c :: decoded fuel rest
    | none, c :: rest => '\\' :: c :: decoded fuel rest
    | none, [] => ['\\']
  | fuel + 1, c :: rest => c :: decoded fuel rest

/-- Reads what stands between brackets, up to the closing one, which cannot come `first`. -/
def bracketFrom (n : Notation) :
    Nat → Bool → Text → Except RegexError (List (Char × Char) × Text)
  | 0, _, _ | _, _, [] => .error .unmatchedBracket
  | fuel + 1, first, c :: rest =>
    if c = ']' ∧ !first then .ok ([], rest)
    else
      match c, rest with
      | '[', ':' :: behind =>
        let name := behind.takeWhile Char.isAlpha
        match behind.drop name.length, classRanges? name with
        | ':' :: ']' :: behind, some ranges => do
          let (more, rest) ← bracketFrom n fuel false behind
          return (ranges ++ more, rest)
        | ':' :: ']' :: _, none => .error .badClass
        | _, _ => do
          let (more, rest) ← bracketFrom n fuel false rest
          return (('[', '[') :: more, rest)
      | '[', mark :: d :: mark' :: ']' :: behind =>
        if (mark = '.' ∨ mark = '=') ∧ mark' = mark then do
          let (more, rest) ← bracketFrom n fuel false behind
          return ((d, d) :: more, rest)
        else do
          let (more, rest) ← bracketFrom n fuel false rest
          return (('[', '[') :: more, rest)
      | _, _ =>
        let (low, rest) : Char × Text :=
          match c, rest with
          | '\\', d :: behind =>
            match if n.namesCharacters then
                (if d = '\\' ∨ d = ']' then none else named? d) else none with
            | some e => (e, behind)
            | none => (c, rest)
          | _, _ => (c, rest)
        match rest with
        | '-' :: high :: behind =>
          if high = ']' then do
            let (more, rest) ← bracketFrom n fuel false rest
            return ((low, low) :: more, rest)
          else if high < low ∧ n.namesClasses then .error .badRange
          else do
            let (more, rest) ← bracketFrom n fuel false behind
            return ((low, high) :: more, rest)
        | _ => do
          let (more, rest) ← bracketFrom n fuel false rest
          return ((low, low) :: more, rest)

/-- Reads what stands behind an opening bracket. -/
def bracket (n : Notation) (t : Text) : Except RegexError (Regex × Text) := do
  let (negated, behind) : Bool × Text :=
    match t with
    | '^' :: rest => (true, rest)
    | _ => (false, t)
  let (ranges, rest) ← bracketFrom n (behind.length + 1) true behind
  return (.oneOf negated ranges, rest)

/-- Reads the numbers of an interval, behind its opening brace. -/
def interval? (n : Notation) (t : Text) : Option (Nat × Option Nat × Text) :=
  let low := t.takeWhile Char.isDigit
  let behind := t.drop low.length
  let (high, behind) : Option (Option Nat) × Text :=
    match behind with
    | ',' :: rest =>
      let high := rest.takeWhile Char.isDigit
      (some (Text.toNat? high), rest.drop high.length)
    | _ => (none, behind)
  let closed : Option Text :=
    match n.isExtended, behind with
    | true, '}' :: rest | false, '\\' :: '}' :: rest => some rest
    | _, _ => none
  if low.isEmpty ∧ high.isNone then none
  else
    closed.map fun rest =>
      let low := (Text.toNat? low).getD 0
      (low, high.getD (some low), rest)

/-- Why what stands behind an opening brace is no interval. -/
def intervalError (n : Notation) (t : Text) : RegexError :=
  let closing : Text := if n.isExtended then ['\x7d'] else ['\\', '\x7d']
  if Text.hasInfix closing t then .badInterval else .unmatchedBrace

/-- The text begins with an operator that ends a branch. -/
def endsBranch (n : Notation) (depth : Nat) (t : Text) : Bool :=
  match n.isExtended, t with
  | _, [] => true
  | true, '|' :: _ => true
  | true, ')' :: _ => 0 < depth || !n.isLenient
  | false, '\\' :: '|' :: _ | false, '\\' :: ')' :: _ => true
  | _, _ => false

/-- Reads the operators that repeat an expression. -/
def repeats (n : Notation) : Nat → Regex → Text → Except RegexError (Regex × Text)
  | 0, a, t => .ok (a, t)
  | fuel + 1, a, t =>
    let counted (low : Nat) (high : Option Nat) (rest : Text) : Except RegexError (Regex × Text) :=
      if high.any (· < low) then .error .badInterval else repeats n fuel (between a low high) rest
    match n.isExtended, t with
    | _, '*' :: rest => repeats n fuel (.star a) rest
    | true, '+' :: rest | false, '\\' :: '+' :: rest => repeats n fuel (.seq a (.star a)) rest
    | true, '?' :: rest | false, '\\' :: '?' :: rest => repeats n fuel (.alt a .empty) rest
    | true, '{' :: rest =>
      match interval? n rest with
      | some (low, high, rest) => counted low high rest
      | none => if n.isLenient then .ok (a, t) else .error (intervalError n rest)
    | false, '\\' :: '{' :: rest =>
      match interval? n rest with
      | some (low, high, rest) => counted low high rest
      | none => .error (intervalError n rest)
    | _, _ => .ok (a, t)

/-- The class or the edge that a letter behind a backslash stands for. -/
def classOf? (c : Char) : Option Regex :=
  match c with
  | 'w' => some (.oneOf false wordRanges)
  | 'W' => some (.oneOf true wordRanges)
  | 's' => some (.oneOf false [(' ', ' '), ('\t', '\r')])
  | 'S' => some (.oneOf true [(' ', ' '), ('\t', '\r')])
  | '<' => some .wordStart
  | '>' => some .wordEnd
  | 'b' => some .wordEdge
  | 'B' => some .noWordEdge
  | '\x60' => some .start
  | '\'' => some .finish
  | _ => none

/-- What a backslash and the text behind it stand for, and the rest. -/
def escape (n : Notation) (groups : Nat) (t : Text) : Except RegexError (Regex × Text) :=
  match t with
  | [] => .error .trailingBackslash
  | c :: rest =>
    match (if n.namesClasses then classOf? c else none),
      (if n.namesCharacters ∧ c = 'x' then coded? t else none) with
    | some r, _ => .ok (r, rest)
    | none, some (c, rest) => .ok (char c, rest)
    | none, none =>
      if c.isDigit ∧ n.namesClasses ∧ c ≠ '0' then
        let number := c.toNat - '0'.toNat
        if number ≤ groups then .ok (.back number, rest) else .error .badReference
      else if c.isDigit ∧ (Numeral.digit? 8 c).isSome then
        let ds := (t.take 3).takeWhile fun c => (Numeral.digit? 8 c).isSome
        .ok (char (Char.ofNat (codeOf 8 ds % 256)), t.drop ds.length)
      else .ok (char ((if n.namesCharacters then named? c else none).getD c), rest)

mutual

/-- Reads branches any of which may match. -/
def branches (n : Notation) : Nat → Nat → Reading → Except RegexError (Regex × Reading)
  | 0, _, r => .ok (.empty, r)
  | fuel + 1, depth, r => do
    let (a, r) ← branch n fuel depth true r
    match n.isExtended, r.rest with
    | true, '|' :: rest | false, '\\' :: '|' :: rest =>
      let (b, r) ← branches n fuel depth { r with rest }
      return (.alt a b, r)
    | _, _ => return (a, r)

/-- Reads expressions that match one behind the other. -/
def branch (n : Notation) : Nat → Nat → Bool → Reading → Except RegexError (Regex × Reading)
  | 0, _, _, r => .ok (.empty, r)
  | fuel + 1, depth, first, r =>
    if endsBranch n depth r.rest then
      match n.isExtended, depth, r.rest with
      | false, 0, '\\' :: ')' :: _ => .error (.unmatchedParenthesis true)
      | _, _, _ => .ok (.empty, r)
    else do
      let (a, stays, r) ← atom n fuel depth first r
      let (b, r) ← branch n fuel depth stays r
      return (match b with
        | .empty => a
        | _ => .seq a b, r)

/-- Reads one expression with the operators that repeat it; it tells whether what follows still
stands at the begin of the branch. -/
def atom (n : Notation) : Nat → Nat → Bool → Reading → Except RegexError (Regex × Bool × Reading)
  | 0, _, _, r => .ok (.empty, false, r)
  | fuel + 1, depth, first, r =>
    let repeated (a : Regex) (r : Reading) : Except RegexError (Regex × Bool × Reading) := do
      let (a, rest) ← repeats n fuel a r.rest
      return (a, false, { r with rest })
    match n.isExtended, r.rest with
    | _, [] => .ok (.empty, false, r)
    | true, '(' :: rest | false, '\\' :: '(' :: rest => do
      let number := r.groups + 1
      let (a, after) ← branches n fuel (depth + 1) ⟨rest, number⟩
      match n.isExtended, after.rest with
      | true, ')' :: rest | false, '\\' :: ')' :: rest =>
        repeated (.group number a) { after with rest }
      | _, _ => .error (.unmatchedParenthesis false)
    | _, '[' :: rest => do
      let (a, rest) ← bracket n rest
      repeated a { r with rest }
    | _, '.' :: rest => repeated any { r with rest }
    | isExtended, '^' :: rest =>
      if isExtended ∨ first then .ok (.start, true, { r with rest })
      else repeated (char '^') { r with rest }
    | isExtended, '$' :: rest =>
      if isExtended ∨ endsBranch n depth rest then .ok (.finish, false, { r with rest })
      else repeated (char '$') { r with rest }
    | true, '*' :: rest | true, '+' :: rest | true, '?' :: rest =>
      if n.repeatsNothing then .ok (.empty, first, { r with rest }) else .error .nothingToRepeat
    | false, '*' :: rest => repeated (char '*') { r with rest }
    | false, '\\' :: '{' :: rest =>
      if first then repeated (char '{') { r with rest } else .error .nothingToRepeat
    | _, '\\' :: rest => do
      let (a, rest) ← escape n r.groups rest
      repeated a { r with rest }
    | _, c :: rest => repeated (char c) { r with rest }

end

/-- Reads an expression. -/
def parse (n : Notation) (t : Text) : Except RegexError Regex := do
  let (a, r) ← branches n (4 * t.length + 4) 0 ⟨t, 0⟩
  if r.rest.isEmpty then return a else .error (.unmatchedParenthesis true)

/-- Any of the expressions. -/
def anyOf : List Regex → Regex
  | [] => .oneOf false []
  | [r] => r
  | r :: rs => .alt r (anyOf rs)

/-- An expression that matches a text as it stands. -/
def literal (t : Text) : Regex :=
  t.foldr (fun c a => .seq (char c) a) .empty

/-- The expression refers to what a group of it has matched. -/
def refersBack : Regex → Bool
  | .back _ => true
  | .seq a b | .alt a b => a.refersBack || b.refersBack
  | .star a | .group _ a => a.refersBack
  | _ => false

/-! ## Matching -/

/-- A text to be searched, and whether the case of letters counts. -/
structure Subject where
  text : Array Char
  ignoresCase : Bool

/-- A place that a match has come to, and what its groups have matched, the last ones first. -/
structure Place where
  index : Nat
  groups : List (Nat × Nat × Nat)
deriving DecidableEq, Repr

/-- A match: where it begins and ends, and what its groups have matched. -/
structure Match where
  start : Nat
  finish : Nat
  groups : List (Nat × Nat × Nat)
deriving DecidableEq, Repr

namespace Subject

/-- The character at a place is one of a word. -/
def isWordAt (s : Subject) (i : Nat) : Bool :=
  (s.text[i]?).any (isInRanges wordRanges)

/-- The character in front of a place is one of a word. -/
def isWordBefore (s : Subject) (i : Nat) : Bool :=
  0 < i && s.isWordAt (i - 1)

/-- The character at a place lies in ranges. -/
def isIn (s : Subject) (negated : Bool) (ranges : List (Char × Char)) (i : Nat) : Bool :=
  match s.text[i]? with
  | none => false
  | some c =>
    let found := isInRanges ranges c
      || s.ignoresCase && (isInRanges ranges c.toLower || isInRanges ranges c.toUpper)
    found != negated

/-- The text between two places. -/
def slice (s : Subject) (a b : Nat) : Text :=
  (s.text.extract a b).toList

end Subject

/-- Places without those that come to the same index as one before. -/
def distinct (ps : List Place) : List Place :=
  (ps.foldl (fun (seen : List Nat × List Place) p =>
    if seen.1.contains p.index then seen else (p.index :: seen.1, p :: seen.2)) ([], [])).2.reverse

/-- How many characters from a place on lie in ranges. -/
def runLength (s : Subject) (negated : Bool) (ranges : List (Char × Char)) : Nat → Nat → Nat
  | 0, _ => 0
  | fuel + 1, i =>
    if s.isIn negated ranges i then runLength s negated ranges fuel (i + 1) + 1 else 0

/-- The places that steps come to, each further than the one before, the longest way first; those
that have been visited are left out. -/
def starFrom (step : Place → List Place) : Nat → Place → List Nat → List Place × List Nat
  | 0, p, visited => ([p], visited)
  | fuel + 1, p, visited =>
    if visited.contains p.index then ([], visited)
    else
      let further := (step p).filter fun q => p.index < q.index
      let (found, visited) := further.foldl
        (fun (found, visited) q =>
          let (more, visited) := starFrom step fuel q visited
          (found ++ more, visited))
        ([], p.index :: visited)
      (found ++ [p], visited)

/-- The places that a match of the expression from a given one may come to, the preferred ones
first. -/
def ends (s : Subject) (keepsAll : Bool) : Regex → Place → List Place
  | .empty, p => [p]
  | .oneOf negated ranges, p =>
    if s.isIn negated ranges p.index then [{ p with index := p.index + 1 }] else []
  | .seq a b, p =>
    let found := (ends s keepsAll a p).flatMap (ends s keepsAll b)
    if keepsAll then found else distinct found
  | .alt a b, p =>
    let found := (ends s keepsAll a p ++ ends s keepsAll b p).mergeSort
      fun x y => decide (y.index ≤ x.index)
    if keepsAll then found else distinct found
  | .star (.oneOf negated ranges), p =>
    let n := runLength s negated ranges (s.text.size - p.index) p.index
    (List.range (n + 1)).reverse.map fun k => { p with index := p.index + k }
  | .star a, p => (starFrom (ends s keepsAll a) (s.text.size + 1) p []).1
  | .group number a, p =>
    (ends s keepsAll a p).map fun q => { q with groups := (number, p.index, q.index) :: q.groups }
  | .back number, p =>
    match p.groups.find? (·.1 = number) with
    | some (_, a, b) =>
      let wanted := s.slice a b
      if s.slice p.index (p.index + wanted.length) = wanted then
        [{ p with index := p.index + wanted.length }]
      else []
    | none => []
  | .start, p => if p.index = 0 then [p] else []
  | .finish, p => if p.index = s.text.size then [p] else []
  | .wordStart, p => if s.isWordAt p.index ∧ !s.isWordBefore p.index then [p] else []
  | .wordEnd, p => if !s.isWordAt p.index ∧ s.isWordBefore p.index then [p] else []
  | .wordEdge, p => if s.isWordAt p.index ≠ s.isWordBefore p.index then [p] else []
  | .noWordEdge, p => if s.isWordAt p.index = s.isWordBefore p.index then [p] else []
  | .noWordBefore, p => if s.isWordBefore p.index then [] else [p]
  | .noWordBehind, p => if s.isWordAt p.index then [] else [p]

/-- The longest match that begins at a place. -/
def matchAt? (s : Subject) (r : Regex) (i : Nat) : Option Match :=
  let found := ends s r.refersBack r ⟨i, []⟩
  let best := found.foldl
    (fun (best : Option Place) p =>
      match best with
      | none => some p
      | some q => if q.index < p.index then some p else some q)
    none
  best.map fun p => ⟨i, p.index, p.groups⟩

/-- The first match that begins at one of so many places from a given one on. -/
def findFrom (s : Subject) (r : Regex) : Nat → Nat → Option Match
  | 0, _ => none
  | fuel + 1, i =>
    match matchAt? s r i with
    | some m => some m
    | none => findFrom s r fuel (i + 1)

/-- The first match that begins at a place or behind it. -/
def find? (s : Subject) (r : Regex) (i : Nat) : Option Match :=
  findFrom s r (s.text.size + 1 - i) i

/-- Some part of a text matches. -/
def isIn (r : Regex) (ignoresCase : Bool) (t : Text) : Bool :=
  (find? ⟨t.toArray, ignoresCase⟩ r 0).isSome

/-- What a group of a match has matched. -/
def Match.group (m : Match) (s : Subject) (number : Nat) : Text :=
  if number = 0 then s.slice m.start m.finish
  else
    match m.groups.find? (·.1 = number) with
    | some (_, a, b) => s.slice a b
    | none => []

/-- All matches of a text, from the front on; an empty one does not stand right behind another. -/
def allFrom (s : Subject) (r : Regex) : Nat → Nat → Option Nat → List Match
  | 0, _, _ => []
  | fuel + 1, i, last =>
    match find? s r i with
    | none => []
    | some m =>
      if m.start = m.finish then
        let rest := if m.finish < s.text.size then allFrom s r fuel (m.finish + 1) none else []
        if last = some m.start then rest else m :: rest
      else m :: allFrom s r fuel m.finish (some m.finish)

/-- All matches of a text. -/
def all (s : Subject) (r : Regex) : List Match :=
  allFrom s r (s.text.size + 2) 0 none

end Regex

end Postroom.Shell
