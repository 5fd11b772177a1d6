import Postroom.Shell.Regex

/-!
# Scripts that edit lines

A script is a row of commands, each with the lines that it applies to.

* `Script` — the commands;
* `Script.parse` — reads a script, or tells where it goes wrong.
-/

namespace Postroom.Shell.Utility

/-- Where a command applies. -/
inductive Address where
  | line (n : Nat)
  | last
  | step (first width : Nat)
  /-- Lines that match; without an expression, the one that was used last. -/
  | matching (r : Option Regex) (ignoresCase : Bool)

/-- Where a command that begins to apply ceases to do so. -/
inductive AddressEnd where
  | address (a : Address)
  | after (n : Nat)
  | multiple (n : Nat)

/-- The lines that a command applies to. -/
structure Selector where
  first : Option Address
  last : Option AddressEnd
  isInverted : Bool

/-- How the case of what follows is changed. -/
inductive CaseChange where
  | upper
  | lower
  | upperOne
  | lowerOne
  | none
deriving DecidableEq

/-- A part of a replacement. -/
inductive Replacement where
  | text (c : Char)
  | group (n : Nat)
  | change (c : CaseChange)

/-- A substitution. -/
structure Substitution where
  pattern : Option Regex
  ignoresCase : Bool
  replacement : List Replacement
  isGlobal : Bool
  occurrence : Nat
  prints : Bool
  file : Option Text

/-- What is done with the lines that are selected. -/
inductive Edit where
  | begin
  | finish
  | label (t : Text)
  | branch (t : Text)
  | branchIf (t : Text)
  | branchUnless (t : Text)
  | substitute (s : Substitution)
  | exchange (pairs : List (Char × Char))
  | append (t : Text)
  | insert (t : Text)
  | replace (t : Text)
  | read (path : Text)
  | write (path : Text)
  | delete
  | deleteFirst
  | print
  | printFirst
  | next
  | appendNext
  | hold
  | holdAppend
  | get
  | getAppend
  | swap
  | number
  | list
  | clear
  | quit (status : Nat)
  | quitSilently (status : Nat)

/-- A command of a script; a group has the place of its end. -/
structure EditCommand where
  selector : Selector
  edit : Edit

/-- A script. -/
abbrev Script := Array EditCommand

namespace Script

/-- A complaint that arises in front of the given rest. -/
def refuse {α : Type} (why : String) (rest : Text) : Except (Text × Nat) (α × Text) :=
  .error (why.toList, rest.length)

/-- Drops blanks. -/
def skipBlanks (t : Text) : Text :=
  t.dropWhile fun c => c = ' ' ∨ c = '\t'

/-- Drops blanks and the ends of commands. -/
def skipEnds (t : Text) : Text :=
  t.dropWhile fun c => c = ' ' ∨ c = '\t' ∨ c = '\n' ∨ c = ';'

/-- Takes the text up to a delimiter.  A delimiter behind a backslash belongs to it, without the
backslash; in an expression one between brackets does too. -/
def delimited (d : Char) (isRegex : Bool) : Nat → Bool → Text → Option (Text × Text)
  | 0, _, _ | _, _, [] => none
  | fuel + 1, inBracket, c :: rest =>
    if c = d ∧ !inBracket then some ([], rest)
    else if c = '\n' ∧ isRegex then none
    else if c = '\\' then
      match rest with
      | e :: rest =>
        let kept : Text :=
          if inBracket ∨ e ≠ d ∨ (d = '&' ∧ !isRegex) then ['\\', e] else [e]
        (delimited d isRegex fuel inBracket rest).map fun (t, rest) => (kept ++ t, rest)
      | [] => none
    else if isRegex ∧ c = '[' ∧ !inBracket then
      -- A closing bracket that comes first is a character.
      let front : Text :=
        match rest with
        | '^' :: ']' :: _ => ['^', ']']
        | '^' :: _ => ['^']
        | ']' :: _ => [']']
        | _ => []
      (delimited d isRegex fuel true (rest.drop front.length)).map fun (t, rest) =>
        ('[' :: front ++ t, rest)
    else if isRegex ∧ c = '[' ∧ inBracket ∧ rest.head? = some ':' then
      let name := rest.takeWhile (· ≠ ']')
      (delimited d isRegex fuel true (rest.drop (name.length + 1))).map fun (t, rest) =>
        ('[' :: name ++ ']' :: t, rest)
    else
      (delimited d isRegex fuel (inBracket && c ≠ ']') rest).map fun (t, rest) => (c :: t, rest)

/-- Reads an expression. -/
def regex (isExtended : Bool) (t rest : Text) : Except (Text × Nat) (Option Regex) :=
  if t.isEmpty then .ok none
  else
    match Regex.parse (.edit isExtended) (Regex.decoded (t.length + 1) t) with
    | .ok r => .ok (some r)
    | .error e => .error (e.message, rest.length)

/-- Reads an address, if there is one. -/
def address (isExtended : Bool) (t : Text) : Except (Text × Nat) (Option Address × Text) :=
  match t with
  | '$' :: rest => .ok (some .last, rest)
  | '/' :: rest | '\\' :: _ :: rest =>
    let d := if t.head? = some '/' then '/' else (t.drop 1).headD '/'
    match delimited d true (rest.length + 1) false rest with
    | none => refuse "unterminated address regex" []
    | some (source, rest) => do
      let flags := rest.takeWhile fun c => c = 'I' ∨ c = 'M'
      let rest := rest.drop flags.length
      let r ← regex isExtended source rest
      return (some (.matching r (flags.contains 'I')), rest)
  | c :: _ =>
    if c.isDigit then
      let ds := t.takeWhile Char.isDigit
      let n := (Text.toNat? ds).getD 0
      match skipBlanks (t.drop ds.length) with
      | '~' :: rest =>
        let step := rest.takeWhile Char.isDigit
        .ok (some (.step n ((Text.toNat? step).getD 0)), rest.drop step.length)
      | _ => .ok (some (.line n), t.drop ds.length)
    else .ok (none, t)
  | [] => .ok (none, t)

/-- Reads where a command ceases to apply. -/
def addressEnd (isExtended : Bool) (t : Text) : Except (Text × Nat) (AddressEnd × Text) :=
  let number (t : Text) : Nat × Text :=
    let ds := t.takeWhile Char.isDigit
    ((Text.toNat? ds).getD 0, t.drop ds.length)
  match t with
  | '+' :: rest => .ok (.after (number rest).1, (number rest).2)
  | '~' :: rest => .ok (.multiple (number rest).1, (number rest).2)
  | _ => do
    match ← address isExtended t with
    | (some a, rest) => return (.address a, rest)
    | (none, rest) => refuse "unexpected `,'" rest

/-- Reads the lines that a command applies to. -/
def selector (isExtended : Bool) (t : Text) : Except (Text × Nat) (Selector × Text) := do
  let (first, rest) ← address isExtended t
  let (last, rest) : Option AddressEnd × Text ← (match first, skipBlanks rest with
    | some _, ',' :: behind => do
      let (a, rest) ← addressEnd isExtended (skipBlanks behind)
      return (some a, rest)
    | _, rest => .ok (none, rest) : Except (Text × Nat) (Option AddressEnd × Text))
  let rest := skipBlanks rest
  match rest with
  | '!' :: behind =>
    return (⟨first, last, true⟩, (skipBlanks behind).dropWhile fun c => c = '!' ∨ c = ' ')
  | _ => return (⟨first, last, false⟩, rest)

/-- The parts of a replacement, with the given fuel. -/
def replacementFrom : Nat → Text → List Replacement
  | 0, _ | _, [] => []
  | fuel + 1, '\\' :: c :: rest =>
    match Regex.coded? (c :: rest) with
    | some (c, rest) => .text c :: replacementFrom fuel rest
    | none =>
      let part : Replacement :=
        match c with
        | 'U' => .change .upper
        | 'L' => .change .lower
        | 'u' => .change .upperOne
        | 'l' => .change .lowerOne
        | 'E' => .change .none
        | c => if c.isDigit then .group (c.toNat - '0'.toNat) else .text ((Regex.named? c).getD c)
      part :: replacementFrom fuel rest
  | fuel + 1, '&' :: rest => .group 0 :: replacementFrom fuel rest
  | fuel + 1, c :: rest => .text c :: replacementFrom fuel rest

/-- The parts of a replacement. -/
def replacement (t : Text) : List Replacement :=
  replacementFrom t.length t

/-- Reads the flags of a substitution. -/
def flags (s : Substitution) : Nat → Text → Except (Text × Nat) (Substitution × Text)
  | 0, t => .ok (s, t)
  | fuel + 1, t =>
    match t with
    | 'g' :: rest => flags { s with isGlobal := true } fuel rest
    | 'p' :: rest => flags { s with prints := true } fuel rest
    | 'I' :: rest | 'i' :: rest => flags { s with ignoresCase := true } fuel rest
    | 'M' :: rest | 'm' :: rest => flags s fuel rest
    | 'w' :: rest =>
      let path := (skipBlanks rest).takeWhile (· ≠ '\n')
      .ok ({ s with file := some path }, (skipBlanks rest).drop path.length)
    | c :: rest =>
      if c.isDigit then
        let ds := t.takeWhile Char.isDigit
        let n := (Text.toNat? ds).getD 0
        if n = 0 then refuse "number option to `s' command may not be zero" (t.drop ds.length)
        else flags { s with occurrence := n } fuel (t.drop ds.length)
      else if c = ' ' ∨ c = '\t' ∨ c = '\n' ∨ c = ';' ∨ c = '\x7d' ∨ c = '#' then .ok (s, t)
      else refuse "unknown option to `s'" rest
    | [] => .ok (s, [])

/-- Reads the text of `a`, `i` and `c`: it goes up to the end of a line without a backslash there.
-/
def lines : Text → Text × Text
  | [] => ([], [])
  | '\\' :: c :: rest =>
    let (t, behind) := lines rest
    (c :: t, behind)
  | '\n' :: rest => ([], rest)
  | c :: rest =>
    let (t, behind) := lines rest
    (c :: t, behind)

/-- Reads the text of `a`, `i` and `c` behind the letter. -/
def textOf (t : Text) : Except (Text × Nat) (Text × Text) :=
  match skipBlanks t with
  | '\\' :: rest =>
    match skipBlanks rest with
    | '\n' :: rest =>
      let (t, behind) := lines rest
      .ok (t ++ ['\n'], behind)
    | [] => refuse "expected \\ after `a', `c' or `i'" []
    | _ =>
      let (t, behind) := lines rest
      .ok (t ++ ['\n'], behind)
  | [] => refuse "expected \\ after `a', `c' or `i'" []
  | rest =>
    let (t, behind) := lines rest
    .ok (t ++ ['\n'], behind)

/-- Reads a name up to the end of the command. -/
def name (endsAtMark : Bool) (t : Text) : Text × Text :=
  let t := skipBlanks t
  let name := t.takeWhile fun c => c ≠ '\n' ∧ !(endsAtMark ∧ (c = ';' ∨ c = '\x7d'))
  ((name.reverse.dropWhile fun c => c = ' ' ∧ endsAtMark).reverse, t.drop name.length)

/-- Reads a substitution behind its letter. -/
def substitution (isExtended : Bool) (t : Text) : Except (Text × Nat) (Edit × Text) :=
  match t with
  | [] => refuse "unterminated `s' command" []
  | d :: rest =>
    match delimited d true (rest.length + 1) false rest with
    | none => refuse "unterminated `s' command" []
    | some (source, rest) =>
      match delimited d false (rest.length + 1) false rest with
      | none => refuse "unterminated `s' command" []
      | some (new, rest) => do
        let (s, after) ← flags ⟨none, false, replacement new, false, 1, false, none⟩
          (rest.length + 1) rest
        let r ← regex isExtended source after
        return (.substitute { s with pattern := r }, after)

/-- Reads an exchange of characters behind its letter. -/
def exchange (t : Text) : Except (Text × Nat) (Edit × Text) :=
  let plain : Text → Text :=
    let rec go : Text → Text
      | '\\' :: 'n' :: rest => '\n' :: go rest
      | '\\' :: 't' :: rest => '\t' :: go rest
      | '\\' :: c :: rest => c :: go rest
      | c :: rest => c :: go rest
      | [] => []
    go
  match t with
  | [] => refuse "unterminated `y' command" []
  | d :: rest =>
    match delimited d false (rest.length + 1) false rest with
    | none => refuse "unterminated `y' command" []
    | some (old, rest) =>
      match delimited d false (rest.length + 1) false rest with
      | none => refuse "unterminated `y' command" []
      | some (new, rest) =>
        if (plain old).length = (plain new).length then
          .ok (.exchange (List.zip (plain old) (plain new)), rest)
        else refuse "strings for `y' command are different lengths" rest

/-- Reads the number behind a letter. -/
def status (t : Text) : Nat × Text :=
  let t := skipBlanks t
  let ds := t.takeWhile Char.isDigit
  ((Text.toNat? ds).getD 0, t.drop ds.length)

/-- Reads what is done, by its letter. -/
def edit (isExtended : Bool) (c : Char) (t : Text) : Except (Text × Nat) (Edit × Text) :=
  let plain (e : Edit) : Except (Text × Nat) (Edit × Text) := .ok (e, t)
  let withName (f : Text → Edit) : Except (Text × Nat) (Edit × Text) :=
    let (n, rest) := name true t
    .ok (f n, rest)
  let withText (f : Text → Edit) : Except (Text × Nat) (Edit × Text) := do
    let (x, rest) ← textOf t
    return (f x, rest)
  match c with
  | '{' => plain .begin
  | '}' => plain .finish
  | ':' =>
    let (n, rest) := name false t
    .ok (.label (n.takeWhile fun c => c ≠ ';' ∧ c ≠ ' '), (if n.contains ';' then
      (n.dropWhile (· ≠ ';')) else []) ++ rest)
  | 'b' => withName .branch
  | 't' => withName .branchIf
  | 'T' => withName .branchUnless
  | 's' => substitution isExtended t
  | 'y' => exchange t
  | 'a' => withText .append
  | 'i' => withText .insert
  | 'c' => withText .replace
  | 'r' => let (n, rest) := name false t; .ok (.read n, rest)
  | 'w' => let (n, rest) := name false t; .ok (.write n, rest)
  | 'd' => plain .delete
  | 'D' => plain .deleteFirst
  | 'p' => plain .print
  | 'P' => plain .printFirst
  | 'n' => plain .next
  | 'N' => plain .appendNext
  | 'h' => plain .hold
  | 'H' => plain .holdAppend
  | 'g' => plain .get
  | 'G' => plain .getAppend
  | 'x' => plain .swap
  | '=' => plain .number
  | 'l' => .ok (.list, (status t).2)
  | 'z' => plain .clear
  | 'q' => .ok (.quit (status t).1, (status t).2)
  | 'Q' => .ok (.quitSilently (status t).1, (status t).2)
  | c => .error ("unknown command: `".toList ++ [c, '\''], t.length)

/-- The edit takes all of its line, so that no end of it has to follow. -/
def takesLine : Edit → Bool
  | .begin | .append _ | .insert _ | .replace _ | .label _ | .read _ | .write _ => true
  | _ => false

/-- Reads commands with the given fuel; `depth` groups are open. -/
def commandsFrom (isExtended : Bool) : Nat → Nat → Text →
    Except (Text × Nat) (List EditCommand)
  | 0, _, _ => .ok []
  | fuel + 1, depth, t =>
    match skipEnds t with
    | [] => if depth = 0 then .ok [] else .error ("unmatched `\x7b'".toList, t.length + 1)
    | '#' :: rest => commandsFrom isExtended fuel depth (rest.dropWhile (· ≠ '\n'))
    | t => do
      let (sel, rest) ← selector isExtended t
      match skipBlanks rest with
      | [] => .error ("missing command".toList, 0)
      | c :: rest =>
        if c = '\x7d' ∧ depth = 0 then .error ("unexpected `\x7d'".toList, rest.length)
        else if c = '\x7d' ∧ sel.first.isSome then
          .error ("\x7d doesn't want any addresses".toList, rest.length)
        else if c = ':' ∧ sel.first.isSome then
          .error (": doesn't want any addresses".toList, rest.length)
        else
          let (e, rest) ← edit isExtended c rest
          let depth := if c = '\x7b' then depth + 1 else if c = '\x7d' then depth - 1 else depth
          let behind := skipBlanks rest
          match takesLine e, behind with
          | true, _ | _, [] | _, ';' :: _ | _, '\n' :: _ | _, '\x7d' :: _ | _, '#' :: _ => do
            return ⟨sel, e⟩ :: (← commandsFrom isExtended fuel depth behind)
          | _, _ :: more => .error ("extra characters after command".toList, more.length)

/-- Reads a script, or gives the complaint with the place where it arises. -/
def parse (isExtended : Bool) (t : Text) : Except (Text × Nat) Script :=
  match commandsFrom isExtended (t.length + 2) 0 t with
  | .ok cs => .ok cs.toArray
  | .error (why, left) => .error (why, t.length - left)

end Script

end Postroom.Shell.Utility
