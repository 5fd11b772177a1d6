import Postroom.Pattern.Basic
import Postroom.Pattern.PropertyName
import Postroom.Unicode.Case

/-!
# The notation of patterns

Patterns are written as regular expressions with groups, repetitions, bracketed classes, escapes and
inline flags.  `Pattern.parse?` reads one, and refuses what is malformed or nested too deeply.

The reading keeps a stack of open groups.  `Reading.step` takes one item of the notation from the
front of the text; every item takes at least one character, which is what bounds the reading.
-/

namespace Postroom.Pattern

/-- What inline flags switch. -/
structure Flags where
  /-- Letters match in either case. -/
  caseless : Bool := false
  /-- `^` and `$` match at lines. -/
  multiLine : Bool := false
  /-- `.` matches a line feed, too. -/
  dotAll : Bool := false
  /-- Carriage returns end lines, too. -/
  crlf : Bool := false
  /-- Characters are those of Unicode, not of ASCII. -/
  unicode : Bool := true
  /-- Blanks and comments in the notation do not count. -/
  verbose : Bool := false
deriving DecidableEq, Repr

/-! ## Blanks -/

/-- Drops blanks and comments; `inComment` tells that a comment has begun. -/
def dropRemarks (inComment : Bool) : Text → Text
  | [] => []
  | c :: rest =>
    if inComment then dropRemarks (c != '\n') rest
    else if isBlank c then dropRemarks false rest
    else if c = '#' then dropRemarks true rest
    else c :: rest

/-- Drops blanks and comments where they do not count. -/
def Flags.skip (f : Flags) (t : Text) : Text :=
  if f.verbose then dropRemarks false t else t

/-! ## Numbers -/

/-- The digits at the front of a text. -/
def digitsFrom (f : Flags) : Nat → Text → Text × Text
  | fuel + 1, c :: rest =>
    if c.isDigit then
      let (digits, rest) := digitsFrom f fuel (f.skip rest)
      (c :: digits, rest)
    else ([], c :: rest)
  | _, t => ([], t)

/-- A decimal number below 2³², if there are digits; `none` inside stands for no digits. -/
def decimal? (f : Flags) (t : Text) : Option (Option Nat × Text) :=
  let start := t.dropWhile isBlank
  let (digits, rest) := digitsFrom f start.length start
  let rest := rest.dropWhile isBlank
  match Text.toNat? digits with
  | none => some (none, rest)
  | some n => if n < 0x100000000 then some (some n, rest) else none

/-- The bounds of a counted repetition, behind its opening brace. -/
def bounds? (f : Flags) (t : Text) : Option (Nat × Option Nat × Text) :=
  match decimal? f (f.skip t) with
  | some (some least, '}' :: rest) => some (least, some least, rest)
  | some (some least, ',' :: rest) =>
    match f.skip rest with
    | '}' :: rest => some (least, none, rest)
    | rest =>
      match decimal? f rest with
      | some (some most, '}' :: rest) =>
        if least ≤ most then some (least, some most, rest) else none
      | _ => none
  | _ => none

/-! ## Escapes -/

/-- What a single item of the notation stands for. -/
inductive Atom where
  /-- A character; `octet` tells that it was written as the number of an octet. -/
  | literal (c : Char) (octet : Bool)
  | set (s : CodeSet)
  | look (l : Look)
deriving Repr

/-- The character of a number, if there is one. -/
def scalar? (n : Nat) : Option Char :=
  if n < 0xD800 ∨ (0xE000 ≤ n ∧ n < 0x110000) then some (Char.ofNat n) else none

/-- The character whose number is written with these hexadecimal digits. -/
def charOfHex? (digits : Text) : Option Char :=
  if digits.isEmpty then none else (Text.valueFrom 16 0 digits).bind scalar?

/-- A character written with exactly `count` hexadecimal digits. -/
def fixedHex? (f : Flags) (digits : Text) : Nat → Text → Option (Char × Text)
  | 0, t => (charOfHex? digits).map fun c => (c, t)
  | _ + 1, [] => none
  | count + 1, c :: rest =>
    if (Text.hexValue c).isSome then fixedHex? f (digits ++ [c]) count (f.skip rest) else none

/-- The text up to a closing brace, and what stands behind it. -/
def braced? (f : Flags) : Nat → Text → Option (Text × Text)
  | fuel + 1, t =>
    match f.skip t with
    | [] => none
    | '}' :: rest => some ([], rest)
    | c :: rest => (braced? f fuel rest).map fun (inner, rest) => (c :: inner, rest)
  | 0, _ => none

/-- A character written with its number, behind `x`, `u` or `U`. -/
def hex? (f : Flags) (kind : Char) (t : Text) : Option (Atom × Text) :=
  match f.skip t with
  | '{' :: rest =>
    (braced? f (rest.length + 1) rest).bind fun (digits, rest) =>
      (charOfHex? digits).map fun c => (.literal c false, f.skip rest)
  | rest =>
    let count := if kind = 'x' then 2 else if kind = 'u' then 4 else 8
    (fixedHex? f [] count rest).map fun (c, rest) => (.literal c (kind = 'x'), rest)

/-- The set that a name between braces stands for, and whether it is to be inverted. -/
def namedSet? (name : Text) : Option (CodeSet × Bool) :=
  match Text.splitAtInfix ['!', '='] name with
  | some (property, value) => (PropertyName.valueSet? property value).map (·, true)
  | none =>
    match Text.splitAtInfix [':'] name with
    | some (property, value) => (PropertyName.valueSet? property value).map (·, false)
    | none =>
      match Text.splitAtInfix ['='] name with
      | some (property, value) => (PropertyName.valueSet? property value).map (·, false)
      | none => (PropertyName.set? name).map (·, false)

/-- A set with the ASCII letters of its members in either case. -/
def foldAscii (s : CodeSet) : CodeSet :=
  s.union (.ofList (((List.range 26).filter fun i =>
    s.contains (0x41 + i) || s.contains (0x61 + i)).flatMap fun i => [0x41 + i, 0x61 + i]))

/-- A set made caseless as told. -/
def Flags.fold (f : Flags) (s : CodeSet) : CodeSet :=
  if f.caseless then (if f.unicode then Unicode.foldSet s else foldAscii s) else s

/-- A set made caseless and inverted as told.  Outside Unicode nothing can be inverted, for the
inverse would hold octets that are no characters. -/
def Flags.close (f : Flags) (negated : Bool) (s : CodeSet) : Option CodeSet :=
  let s := f.fold s
  if negated then (if f.unicode then some s.compl else none) else some s

/-- The set of a property, behind `p` or `P`. -/
def propertySet? (f : Flags) (negated : Bool) (t : Text) : Option (Atom × Text) :=
  if !f.unicode then none
  else
    match f.skip t with
    | [] => none
    | '{' :: rest =>
      (braced? f (rest.length + 1) rest).bind fun (name, rest) =>
        (namedSet? name).bind fun (s, inverted) =>
          (f.close (negated != inverted) s).map fun s => (.set s, rest)
    | c :: rest =>
      if c = '\\' then none
      else
        (PropertyName.set? [c]).bind fun s =>
          (f.close negated s).map fun s => (.set s, f.skip rest)

/-- The word characters of ASCII. -/
def asciiWord : CodeSet := .ofPairs "09AZ__az".toList

/-- The blanks of ASCII. -/
def asciiBlank : CodeSet := .ofPairs "\t\r  ".toList

/-- The set of a class letter. -/
def letterSet? (f : Flags) (letter : Char) : Option CodeSet :=
  let s : CodeSet :=
    match letter.toLower with
    | 'd' => if f.unicode then Unicode.categorySet [.nd] else .ofPairs ['0', '9']
    | 's' => if f.unicode then Unicode.PropertySet.tabulated "White_Space" else asciiBlank
    | _ => if f.unicode then Unicode.PropertySet.word else asciiWord
  if letter.isUpper then (if f.unicode then some s.compl else none) else some s

/-- The condition of a name between braces, behind `\b`. -/
def edgeOfName? (ascii : Bool) (name : Text) : Option Look :=
  if name = "start".toList then some (.wordStart ascii)
  else if name = "end".toList then some (.wordEnd ascii)
  else if name = "start-half".toList then some (.noWordBefore ascii)
  else if name = "end-half".toList then some (.noWordAfter ascii)
  else none

/-- The name between braces, as far as it may be one. -/
def edgeName (f : Flags) : Nat → Text → Text × Text
  | fuel + 1, c :: rest =>
    if c.isAlpha ∨ c = '-' then
      let (name, rest) := edgeName f fuel (f.skip rest)
      (c :: name, rest)
    else ([], c :: rest)
  | _, t => ([], t)

/-- The condition behind `\b`: of a name between braces, if there is one. -/
def edge? (f : Flags) (t : Text) : Option (Look × Text) :=
  match t with
  | '{' :: rest =>
    match f.skip rest with
    | [] => none
    | c :: inner =>
      if c.isAlpha ∨ c = '-' then
        match edgeName f (inner.length + 1) (c :: inner) with
        | (name, '}' :: rest) => (edgeOfName? (!f.unicode) name).map (·, rest)
        | _ => none
      else some (.wordEdge (!f.unicode), t)
  | _ => some (.wordEdge (!f.unicode), t)

/-- The characters with a meaning of their own in the notation. -/
def isMeta (c : Char) : Bool :=
  "\\.+*?()|[]\x7b\x7d^$#&-~".toList.contains c

/-- A backslash before the character stands for the character. -/
def isEscapable (c : Char) : Bool :=
  isMeta c || (c.toNat < 0x80 && !c.isAlphanum && c != '<' && c != '>')

/-- What an escape stands for, behind its backslash. -/
def escape? (f : Flags) : Text → Option (Atom × Text)
  | [] => none
  | c :: rest =>
    let ascii := !f.unicode
    if c = 'x' ∨ c = 'u' ∨ c = 'U' then hex? f c rest
    else if c = 'p' ∨ c = 'P' then propertySet? f (c = 'P') rest
    else if "dswDSW".toList.contains c then (letterSet? f c).map fun s => (.set s, rest)
    else if isEscapable c then some (.literal c false, rest)
    else
      match c with
      | 'a' => some (.literal '\x07' false, rest)
      | 'f' => some (.literal '\x0c' false, rest)
      | 't' => some (.literal '\t' false, rest)
      | 'n' => some (.literal '\n' false, rest)
      | 'r' => some (.literal '\r' false, rest)
      | 'v' => some (.literal '\x0b' false, rest)
      | 'A' => some (.look .textStart, rest)
      | 'z' => some (.look .textEnd, rest)
      | 'b' => (edge? f rest).map fun (l, rest) => (.look l, rest)
      | 'B' => some (.look (.noWordEdge ascii), rest)
      | '<' => some (.look (.wordStart ascii), rest)
      | '>' => some (.look (.wordEnd ascii), rest)
      | _ => none

/-! ## Bracketed classes -/

/-- A set and how deeply its notation is nested. -/
structure ClassNode where
  set : CodeSet
  depth : Nat
deriving Repr

/-- The operators between sets. -/
inductive ClassOp where
  | inter
  | diff
  | symmDiff
deriving DecidableEq, Repr

/-- The set an operator makes of two. -/
def ClassOp.apply (op : ClassOp) (a b : CodeSet) : CodeSet :=
  match op with
  | inter => a.inter b
  | diff => a.diff b
  | symmDiff => a.symmDiff b

/-- An open bracket: whether its set is inverted, the operand and operator before the current
operand, and the items of the current operand, last first. -/
structure Bracket where
  negated : Bool
  left : Option (ClassNode × ClassOp)
  items : List ClassNode
deriving Repr

namespace Bracket

/-- Adds an item to the current operand. -/
def push (b : Bracket) (node : ClassNode) : Bracket :=
  { b with items := node :: b.items }

/-- The current operand. -/
def operand (b : Bracket) : ClassNode :=
  match b.items with
  | [] => ⟨.empty, 0⟩
  | [node] => node
  | nodes => ⟨.unions (nodes.reverse.map (·.set)), 1 + (nodes.map (·.depth)).foldl max 0⟩

/-- The current operand together with what stands before it. -/
def combined (f : Flags) (b : Bracket) : ClassNode :=
  match b.left with
  | none => b.operand
  | some (left, op) =>
    ⟨op.apply (f.fold left.set) (f.fold b.operand.set), 1 + max left.depth b.operand.depth⟩

/-- Begins the operand behind an operator. -/
def operate (f : Flags) (b : Bracket) (op : ClassOp) : Bracket :=
  { b with left := some (b.combined f, op), items := [] }

end Bracket

/-- The hyphens and the closing bracket that stand for themselves at the start of a class. -/
def leading (f : Flags) : Nat → Bracket → Text → Option (Bracket × Text)
  | fuel + 1, b, t =>
    match t with
    | [] => none
    | '-' :: rest => leading f fuel (b.push ⟨.single 0x2D, 0⟩) (f.skip rest)
    | ']' :: rest =>
      if b.items.isEmpty then
        match f.skip rest with
        | [] => none
        | rest => some (b.push ⟨.single 0x5D, 0⟩, rest)
      else some (b, t)
    | _ => some (b, t)
  | 0, _, _ => none

/-- Opens a bracket, behind the bracket itself. -/
def open? (f : Flags) (t : Text) : Option (Bracket × Text) :=
  match f.skip t with
  | '^' :: rest => leading f (rest.length + 1) ⟨true, none, []⟩ (f.skip rest)
  | rest => leading f (rest.length + 1) ⟨false, none, []⟩ rest

/-- The named classes of ASCII, with the ends of their ranges. -/
def asciiClasses : List (String × String) :=
  [("alnum", "09AZaz"), ("alpha", "AZaz"), ("ascii", "\x00\x7f"), ("blank", "\t\t  "),
   ("cntrl", "\x00\x1f\x7f\x7f"), ("digit", "09"), ("graph", "!~"), ("lower", "az"),
   ("print", " ~"), ("punct", "!/:@[`\x7b~"), ("space", "\t\r  "), ("upper", "AZ"),
   ("word", "09AZ__az"), ("xdigit", "09AFaf")]

/-- A named class of ASCII, behind its opening bracket: the ends of its ranges, whether it is
inverted, and the rest. -/
def asciiClass? (t : Text) : Option (CodeSet × Bool × Text) :=
  match t with
  | ':' :: rest =>
    let (negated, rest) := match rest with
      | '^' :: rest => (true, rest)
      | _ => (false, rest)
    match rest.dropWhile (· ≠ ':') with
    | ':' :: ']' :: after =>
      let name := rest.takeWhile (· ≠ ':')
      (asciiClasses.find? fun entry => entry.1.toList == name).map fun entry =>
        (.ofPairs entry.2.toList, negated, after)
    | _ => none
  | _ => none

/-- An item of a class that is no bracket and no operator. -/
def classAtom? (f : Flags) : Text → Option (Atom × Text)
  | [] => none
  | '\\' :: rest => escape? f rest
  | c :: rest => some (.literal c false, rest)

/-- The character may stand in a class. -/
def Flags.admits (f : Flags) (c : Char) : Bool :=
  f.unicode || c.toNat < 0x80

/-- The first character behind a hyphen that counts. -/
def peek (f : Flags) (t : Text) : Option Char :=
  if f.verbose then
    match t.dropWhile isBlank with
    | '#' :: rest => (rest.dropWhile isBlank).head?
    | rest => rest.head?
  else t.head?

/-- A character, a range or a class, as one item of a bracketed class. -/
def classItem? (f : Flags) (t : Text) : Option (ClassNode × Text) :=
  match classAtom? f t with
  | none => none
  | some (atom, rest) =>
    let after := f.skip rest
    let isRange : Bool := match after with
      | '-' :: more => peek f more != some ']' && peek f more != some '-'
      | _ => false
    match atom with
    | .look _ => none
    | .set s => if isRange ∨ after.isEmpty then none else some (⟨s, 0⟩, after)
    | .literal low _ =>
      if after.isEmpty ∨ !f.admits low then none
      else if isRange then
        match classAtom? f (f.skip (after.drop 1)) with
        | some (.literal high _, rest) =>
          if low ≤ high ∧ f.admits high then some (⟨.span low.toNat high.toNat, 0⟩, rest) else none
        | _ => none
      else some (⟨.single low.toNat, 0⟩, after)

/-- What a step through a bracketed class comes to. -/
inductive ClassStep where
  | more (b : Bracket) (outer : List Bracket) (rest : Text)
  | done (node : ClassNode) (rest : Text)

/-- Takes one item of a bracketed class; `outer` holds the open brackets around the current one. -/
def classStep (f : Flags) (b : Bracket) (outer : List Bracket) (t : Text) : Option ClassStep :=
  match f.skip t with
  | [] => none
  | '[' :: rest =>
    match asciiClass? rest with
    | some (s, negated, rest) =>
      (f.close negated s).map fun s => .more (b.push ⟨s, 0⟩) outer rest
    | none => (open? f rest).map fun (inner, rest) => .more inner (b :: outer) rest
  | ']' :: rest =>
    let node := b.combined f
    (f.close b.negated node.set).map fun s =>
      match outer with
      | [] => .done ⟨s, node.depth + 1⟩ rest
      | around :: outer => .more (around.push ⟨s, node.depth + 1⟩) outer rest
  | '&' :: '&' :: rest => some (.more (b.operate f .inter) outer rest)
  | '-' :: '-' :: rest => some (.more (b.operate f .diff) outer rest)
  | '~' :: '~' :: rest => some (.more (b.operate f .symmDiff) outer rest)
  | t => (classItem? f t).map fun (node, rest) => .more (b.push node) outer rest

/-- Reads a bracketed class to its end. -/
def classFrom? (f : Flags) (b : Bracket) (outer : List Bracket) (t : Text) :
    Option (ClassNode × Text) :=
  match classStep f b outer t with
  | none => none
  | some (.done node rest) => some (node, rest)
  | some (.more b outer rest) =>
    if rest.length < t.length then classFrom? f b outer rest else none
termination_by t.length

/-- Reads a bracketed class, behind its opening bracket. -/
def class? (f : Flags) (t : Text) : Option (ClassNode × Text) :=
  (open? f t).bind fun (b, rest) => classFrom? f b [] rest

/-! ## Groups -/

/-- A pattern with what decides whether it is accepted. -/
structure Node where
  pattern : Pattern
  /-- How deeply the notation is nested. -/
  depth : Nat
  /-- The node may be repeated; switching flags may not. -/
  isRepeatable : Bool
deriving Repr

namespace Node

/-- A pattern without nesting. -/
def leaf (p : Pattern) : Node :=
  ⟨p, 0, true⟩

/-- The greatest depth of some nodes. -/
def maxDepth (nodes : List Node) : Nat :=
  (nodes.map (·.depth)).foldl max 0

/-- Nodes one behind the other. -/
def sequence (nodes : List Node) : Node :=
  match nodes with
  | [] => leaf .empty
  | [node] => node
  | _ => ⟨nodes.foldr (fun n p => .seq n.pattern p) .empty, 1 + maxDepth nodes, true⟩

/-- Nodes of which one is to match. -/
def choice (first : Node) (others : List Node) : Node :=
  match others with
  | [] => first
  | _ =>
    ⟨others.foldl (fun p n => .alt p n.pattern) first.pattern, 1 + maxDepth (first :: others), true⟩

/-- A node in round brackets, numbered if they capture. -/
def group (n : Node) (number : Option Nat) : Node :=
  ⟨.group number n.pattern, 1 + n.depth, true⟩

/-- A node repeated; switching flags cannot be. -/
def repeated (n : Node) (least : Nat) (most : Option Nat) : Option Node :=
  if n.isRepeatable then some ⟨.times least most n.pattern, 1 + n.depth, true⟩ else none

end Node

/-- An open group: the alternatives that are complete and the items of the current one, both last
first, and the number of the group, if it captures. -/
structure Frame where
  complete : List Node
  items : List Node
  number : Option Nat
deriving Repr

namespace Frame

/-- A group that has just been opened. -/
def fresh (number : Option Nat) : Frame :=
  ⟨[], [], number⟩

/-- Adds an item to the current alternative. -/
def push (fr : Frame) (n : Node) : Frame :=
  { fr with items := n :: fr.items }

/-- The current alternative. -/
def current (fr : Frame) : Node :=
  Node.sequence fr.items.reverse

/-- Begins the next alternative. -/
def split (fr : Frame) : Frame :=
  { fr with complete := fr.current :: fr.complete, items := [] }

/-- What stands in the group. -/
def content (fr : Frame) : Node :=
  match (fr.current :: fr.complete).reverse with
  | first :: others => Node.choice first others
  | [] => fr.current

/-- Repeats the last item. -/
def repeatLast (fr : Frame) (least : Nat) (most : Option Nat) : Option Frame :=
  match fr.items with
  | [] => none
  | n :: items => (n.repeated least most).map fun n => { fr with items := n :: items }

end Frame

/-- What has been read: the flags, the names of groups, the number of groups that capture, the
current group, and the groups around it with the flags that hold again when they go on. -/
structure Reading where
  flags : Flags
  names : List Text
  groups : Nat
  frame : Frame
  outer : List (Flags × Frame)
deriving Repr

/-- Switches a flag by its letter. -/
def Flags.switch (f : Flags) (letter : Char) (on : Bool) : Option Flags :=
  match letter with
  | 'i' => some { f with caseless := on }
  | 'm' => some { f with multiLine := on }
  | 's' => some { f with dotAll := on }
  | 'R' => some { f with crlf := on }
  | 'u' => some { f with unicode := on }
  | 'x' => some { f with verbose := on }
  | 'U' => some f
  | _ => none

/-- Reads the letters of flags up to a colon or a closing bracket, which is returned, too.  A letter
stands once, a hyphen once and not at the end; `seen` holds the letters so far. -/
def flags? (f : Flags) (seen : Text) (on dangling : Bool) : Text → Option (Flags × Char × Text)
  | [] => none
  | c :: rest =>
    if c = ':' then (if dangling then none else some (f, c, rest))
    else if c = ')' then (if dangling ∨ seen.isEmpty then none else some (f, c, rest))
    else if c = '-' then (if on then flags? f ('-' :: seen) false true rest else none)
    else if seen.contains c then none
    else
      match f.switch c on with
      | some f => flags? f (c :: seen) on false rest
      | none => none

/-- The character may stand in the name of a group. -/
def isNameChar (c : Char) : Bool :=
  c == '_' || c == '.' || c == '[' || c == ']' || Unicode.isAlphanumeric c

/-- The character may begin the name of a group. -/
def isNameStart (c : Char) : Bool :=
  c == '_' || Unicode.isAlphabetic c

/-- Reads the name of a group, up to and with the closing angle bracket. -/
def groupName? (t : Text) : Option (Text × Text) :=
  match t.dropWhile (· ≠ '>') with
  | [] => none
  | _ :: rest =>
    match t.takeWhile (· ≠ '>') with
    | [] => none
    | c :: name => if isNameStart c ∧ name.all isNameChar then some (c :: name, rest) else none

namespace Reading

/-- The reading of a text that has not begun. -/
def initial : Reading :=
  ⟨{}, [], 0, .fresh none, []⟩

/-- Adds an item. -/
def push (r : Reading) (n : Node) : Reading :=
  { r with frame := r.frame.push n }

/-- Opens a group in which the given flags hold. -/
def enter (r : Reading) (f : Flags) (number : Option Nat) : Reading :=
  { r with flags := f, frame := .fresh number, outer := (r.flags, r.frame) :: r.outer }

/-- Opens a group that captures. -/
def enterCapture (r : Reading) : Reading :=
  { r with groups := r.groups + 1 }.enter r.flags (some (r.groups + 1))

/-- Opens a group with a name, which no other group may have. -/
def enterNamed (r : Reading) (t : Text) : Option (Reading × Text) :=
  match groupName? t with
  | some (name, rest) =>
    if r.names.contains name then none
    else some ({ r with names := name :: r.names }.enterCapture, rest)
  | none => none

/-- Takes what stands behind an opening bracket and a question mark. -/
def stepSpecial (r : Reading) (t : Text) : Option (Reading × Text) :=
  match t with
  | '=' :: _ | '!' :: _ | '<' :: '=' :: _ | '<' :: '!' :: _ => none
  | 'P' :: '<' :: rest => r.enterNamed rest
  | '<' :: rest => r.enterNamed rest
  | _ =>
    match flags? r.flags [] true false t with
    | none => none
    | some (f, stop, rest) =>
      if stop = ':' then some (r.enter f none, rest)
      else some ({ r with flags := f }.push ⟨.empty, 0, false⟩, rest)

/-- Takes what stands behind an opening bracket. -/
def stepGroup (r : Reading) (t : Text) : Option (Reading × Text) :=
  match r.flags.skip t with
  | '?' :: rest => r.stepSpecial rest
  | rest => some (r.enterCapture, rest)

/-- Closes the current group. -/
def leave (r : Reading) : Option Reading :=
  match r.outer with
  | [] => none
  | (f, around) :: outer =>
    some { r with flags := f, outer, frame := around.push (r.frame.content.group r.frame.number) }

/-- Repeats the last item; a question mark behind the repetition changes nothing that matters. -/
def stepRepeat (r : Reading) (least : Nat) (most : Option Nat) (t : Text) :
    Option (Reading × Text) :=
  (r.frame.repeatLast least most).map fun frame =>
    ({ r with frame }, match t with
      | '?' :: rest => rest
      | _ => t)

/-- A character as an item. -/
def literal (f : Flags) (c : Char) (octet : Bool) : Option Node :=
  if !f.unicode ∧ octet ∧ 0x80 ≤ c.toNat then none
  else
    let forms := if !f.caseless then [c]
      else if f.unicode then Unicode.foldClass c
      else [c.toLower, c.toUpper]
    some (.leaf (.chars (.ofList (forms.map Char.toNat))))

/-- What an escape stands for, as an item. -/
def atom (f : Flags) : Atom → Option Node
  | .literal c octet => literal f c octet
  | .set s => some (.leaf (.chars s))
  | .look l => some (.leaf (.look l))

/-- Any character but those that end lines, unless the flags say otherwise. -/
def dot (f : Flags) : Option Node :=
  if !f.unicode then none
  else if f.dotAll then some (.leaf (.chars .all))
  else if f.crlf then some (.leaf (.chars (CodeSet.ofList [0x0A, 0x0D]).compl))
  else some (.leaf (.chars (CodeSet.single 0x0A).compl))

/-- Takes one item of the notation. -/
def step (r : Reading) (t : Text) : Option (Reading × Text) :=
  match t with
  | [] => none
  | '(' :: rest => r.stepGroup rest
  | ')' :: rest => r.leave.map (·, rest)
  | '|' :: rest => some ({ r with frame := r.frame.split }, rest)
  | '[' :: rest =>
    (class? r.flags rest).map fun (node, rest) =>
      (r.push ⟨.chars node.set, node.depth, true⟩, rest)
  | '?' :: rest => r.stepRepeat 0 (some 1) rest
  | '*' :: rest => r.stepRepeat 0 none rest
  | '+' :: rest => r.stepRepeat 1 none rest
  | '{' :: rest =>
    (bounds? r.flags rest).bind fun (least, most, rest) =>
      r.stepRepeat least most (r.flags.skip rest)
  | '\\' :: rest =>
    (escape? r.flags rest).bind fun (a, rest) => (atom r.flags a).map fun n => (r.push n, rest)
  | '.' :: rest => (dot r.flags).map fun n => (r.push n, rest)
  | '^' :: rest =>
    let look := if r.flags.multiLine then .lineStart r.flags.crlf else .textStart
    some (r.push (.leaf (.look look)), rest)
  | '$' :: rest =>
    let look := if r.flags.multiLine then .lineEnd r.flags.crlf else .textEnd
    some (r.push (.leaf (.look look)), rest)
  | c :: rest => (literal r.flags c false).map fun n => (r.push n, rest)

/-- Takes the items of the notation up to its end. -/
def run (r : Reading) (t : Text) : Option Reading :=
  match r.flags.skip t with
  | [] => some r
  | c :: rest =>
    match r.step (c :: rest) with
    | none => none
    | some (next, after) => if after.length < t.length then next.run after else none
termination_by t.length

/-- The pattern that has been read, if no group is open. -/
def finish (r : Reading) : Option Node :=
  if r.outer.isEmpty then some r.frame.content else none

end Reading

/-- How deeply the notation may be nested. -/
def depthLimit : Nat := 250

/-- The pattern that a text stands for. -/
def parse? (t : Text) : Option Pattern :=
  match (Reading.initial.run t).bind Reading.finish with
  | none => none
  | some n => if n.depth ≤ depthLimit then some n.pattern else none

end Postroom.Pattern
