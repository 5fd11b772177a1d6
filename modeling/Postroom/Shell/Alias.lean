import Postroom.Shell.Builtin

/-!
# Aliases

An alias is a name that stands for the beginning of a command.  It is replaced while a line is read,
so that it takes effect from the line behind the one that makes it.

* `Alias.expand` — tokens with the aliases among them replaced;
* `Alias.define`, `Alias.forget` — the commands that make and unmake them.
-/

namespace Postroom.Shell

namespace Alias

/-- Where the next word of a line stands. -/
structure Place where
  /-- The word would be the name of a command. -/
  isCommand : Bool
  /-- The word is what a redirection leads to. -/
  isTarget : Bool

/-- Where a command begins. -/
def Place.start : Place := ⟨true, false⟩

/-- The keywords behind which a command begins. -/
def openers : List Text :=
  ["if".toList, "then".toList, "elif".toList, "else".toList, "while".toList, "until".toList,
    "do".toList, ['\x7b'], ['!']]

/-- The operators behind which a command begins. -/
def separators : List Text :=
  [[';'], ['&'], ['&', '&'], ['|'], ['|', '|'], ['('], [')']]

/-- Where the word behind a token stands, if no alias takes the token's place. -/
def Place.behind (p : Place) (t : Token) : Place :=
  match t.lexeme with
  | .newline => .start
  | .operator op =>
    if separators.contains op then .start
    else if op = [';', ';'] then ⟨false, false⟩ else ⟨p.isCommand, true⟩
  | .word w =>
    if p.isTarget then ⟨p.isCommand, false⟩
    else if !p.isCommand then p
    else
      let goesOn : Bool := w.assignment?.isSome ∨ w.bare?.any openers.contains
      ⟨goesOn, false⟩
  | .document .. | .broken _ => ⟨p.isCommand, false⟩
  | .descriptor _ => p

/-- The text that an alias puts in the place of a token. -/
def text? (aliases : List (Text × Text)) (p : Place) (t : Token) : Option (Text × Text) :=
  if !p.isCommand ∨ p.isTarget then none
  else
    match t.lexeme with
    | .word w =>
      w.bare?.bind fun name =>
        if Command.keywords.contains name then none else aliases.find? (·.1 = name)
    | _ => none

/-- Replaces aliases, those in the texts of others too, with the given fuel; what is left is where
the next word stands.  An alias is not replaced in its own text. -/
def expandFrom : Nat → List (Text × Text) → Place → List Token → List Token × Place
  | 0, _, p, ts => (ts, p)
  | _, _, p, [] => ([], p)
  | fuel + 1, aliases, p, t :: ts =>
    match text? aliases p t with
    | none =>
      let (rest, last) := expandFrom fuel aliases (p.behind t) ts
      (t :: rest, last)
    | some (name, text) =>
      let body := (Command.tokens text).map fun u => { u with line := t.line }
      let (front, next) := expandFrom fuel (aliases.filter (·.1 ≠ name)) p body
      let next : Place := if text.getLast?.any fun c => c = ' ' ∨ c = '\t' then .start else next
      let (rest, last) := expandFrom fuel aliases next ts
      (front ++ rest, last)

/-- The tokens with the aliases among them replaced. -/
def expand (aliases : List (Text × Text)) (ts : List Token) : List Token :=
  if aliases.isEmpty then ts
  else
    let sizes := total (aliases.map (·.2.length))
    (expandFrom (ts.length + sizes + aliases.length + 1) aliases .start ts).1

/-- The tokens behind the `n`-th end of a line. -/
def afterLines : Nat → List Token → List Token
  | 0, ts => ts
  | _, [] => []
  | n + 1, t :: ts => afterLines (if t.lexeme = .newline then n else n + 1) ts

/-- Reads the commands of the next line with its aliases replaced; those of later lines stay as they
are. -/
def nextLine (aliases : List (Text × Text)) (ts : List Token) :
    Except Refusal (Command × List Token) := do
  if aliases.isEmpty then Command.nextLine ts
  else
    let expanded := expand aliases ts
    let (c, rest) ← Command.nextLine expanded
    let count (ts : List Token) : Nat := ts.countP (·.lexeme = .newline)
    return (c, if rest.isEmpty then [] else afterLines (count expanded - count rest) ts)

/-- An alias as it is listed. -/
def listed (a : Text × Text) : Text :=
  a.1 ++ '=' :: Builtin.quoted a.2 ++ ['\n']

/-- The place of a name in a list of all, which has `count` compartments. -/
def compartment (count : Nat) (name : Text) : Nat :=
  ((name.head?.map fun c => c.toNat * 16).getD 0 + total (name.map Char.toNat)) % count

/-- Makes aliases, or lists those that are named. -/
def define : Builtin := fun arguments m =>
  match arguments with
  | [] =>
    let sorted := m.aliases.mergeSort fun a b => compartment 39 a.1 ≤ compartment 39 b.1
    .ok ((m.write 1 (sorted.flatMap listed)).withStatus 0)
  | _ =>
    .ok (arguments.foldl (fun m t =>
      let name := t.take 1 ++ (t.drop 1).takeWhile (· ≠ '=')
      if name.length < t.length then
        let value := t.drop (name.length + 1)
        let others := m.aliases.filter (·.1 ≠ name)
        { m with aliases := others ++ [(name, value)] }
      else
        match m.aliases.find? (·.1 = name) with
        | some a => m.write 1 (listed a)
        | none => (m.complain ("alias: ".toList ++ name ++ " not found".toList)).withStatus 1)
      (m.withStatus 0))

/-- Unmakes aliases. -/
def forget : Builtin := fun arguments m =>
  match arguments with
  | ['-', 'a'] :: _ => .ok { m with aliases := [], status := 0 }
  | ('-' :: c :: _) :: _ => .error ("Illegal option -".toList ++ [c])
  | _ =>
    .ok (arguments.foldl (fun m name =>
      if m.aliases.any (·.1 = name) then
        { m with aliases := m.aliases.filter (·.1 ≠ name) }
      else (m.complain ("unalias: ".toList ++ name ++ " not found".toList)).withStatus 1)
      (m.withStatus 0))

end Alias

end Postroom.Shell
