import Postroom.Shell.Token

/-!
# Shell commands

The structure of command lines: simple commands with redirections, pipelines, conditional and plain
sequences, groups, branches, choices, loops, and functions.

* `Command.nextLine` — reads the commands of the next line, as far as it goes;
* `Command.ofText` — reads all commands of a text;
* `Refusal.message` — the complaint about what is no command.
-/

namespace Postroom.Shell

/-- How a redirection opens a file. -/
inductive Opening where
  | read
  | write
  | append
  | clobber
  | readWrite
deriving DecidableEq, Repr

/-- Where a redirection leads a descriptor. -/
inductive Target (α : Type) where
  | file (opening : Opening) (path : α)
  | duplicate (descriptor : α)
  | document (body : Text) (isLiteral : Bool)
deriving DecidableEq, Repr

/-- A descriptor of a command led elsewhere. -/
structure Redirect (α : Type) where
  descriptor : Nat
  target : Target α
deriving DecidableEq, Repr

/-- A command.  The numbers are those of the lines that commands begin in. -/
inductive Command where
  | skip
  | simple (line : Nat) (assignments : List (Text × Word)) (words : List Word)
    (redirects : List (Redirect Word))
  /-- A group, in the shell itself or apart from it. -/
  | group (line : Nat) (apart : Bool) (body : Command) (redirects : List (Redirect Word))
  | seq (a b : Command)
  /-- The second command is for when the first succeeds or, for `onFailure`, fails. -/
  | cond (onFailure : Bool) (a b : Command)
  | pipe (a b : Command)
  | negate (a : Command)
  /-- A command that is not waited for. -/
  | aside (a : Command)
  /-- One command or the other, by whether the test succeeds. -/
  | branch (test yes no : Command)
  /-- The first of the bodies one of whose patterns matches the subject. -/
  | choose (line : Nat) (subject : Word) (clauses : List (List Word × Command))
  /-- The body again and again, as long as the test succeeds or, for `onFailure`, fails. -/
  | loop (onFailure : Bool) (test body : Command)
  /-- The body once for each field of the words, or for each argument when there are no words. -/
  | each (line : Nat) (name : Text) (words : Option (List Word)) (body : Command)
  | define (name : Text) (body : Command)
deriving Repr

/-- The names that the commands of a pipeline are begun by, where nothing is to be replaced in them.
-/
def Command.heads : Command → List Text
  | .simple _ _ (w :: _) _ => w.value?.toList
  | .pipe a b => a.heads ++ b.heads
  | _ => []

/-- Why tokens are no command. -/
inductive Refusal.Cause where
  /-- A token that cannot stand where it does, and what should have stood there, if that is one
  thing. -/
  | unexpected (expected : Option Text)
  | badLoopVariable
  | badFunctionName
deriving DecidableEq, Repr

/-- The tokens that cannot be read, from the first one that cannot stand where it does, and why. -/
structure Refusal where
  found : List Token
  cause : Refusal.Cause
deriving DecidableEq, Repr

namespace Word

/-- The name and the value of a word that sets a variable. -/
def assignment? (w : Word) : Option (Text × Word) :=
  let name := w.takeWhile fun
    | .char c false => Lexing.isNameChar c
    | _ => false
  match bare? name, w.drop name.length with
  | some name, .char '=' false :: value =>
    if Lexing.isName name then some (name, value) else none
  | _, _ => none

end Word

namespace Command

/-- Refuses the first of the given tokens. -/
def refuse {α : Type} (ts : List Token) (expected : Option Text) : Except Refusal α :=
  .error ⟨ts, .unexpected expected⟩

/-- Drops line ends. -/
def dropNewlines (ts : List Token) : List Token :=
  ts.dropWhile (·.lexeme == .newline)

/-- The token is the given keyword. -/
def isKeyword (name : Text) (t : Token) : Bool :=
  match t.lexeme with
  | .word w => w.bare? == some name
  | _ => false

/-- The token is the given operator. -/
def isOperator (name : Text) (t : Token) : Bool :=
  t.lexeme == .operator name

/-- The keywords that end what stands in front of them, so that no command begins with one. -/
def closers : List Text :=
  ["then".toList, "elif".toList, "else".toList, "fi".toList, "do".toList, "done".toList,
    "esac".toList, ['\x7d']]

/-- The keywords. -/
def keywords : List Text :=
  ["if".toList, "while".toList, "until".toList, "for".toList, "case".toList, "in".toList, ['\x7b'],
    ['!']] ++ closers

/-- The token closes a group or a clause, so that no command begins with it. -/
def isCloser (t : Token) : Bool :=
  isOperator [')'] t || isOperator [';', ';'] t || closers.any (isKeyword · t)

/-- Drops the given keyword, which has to come first. -/
def expect (name : Text) : List Token → Except Refusal (List Token)
  | [] => refuse [] (some (['"'] ++ name ++ ['"']))
  | t :: rest =>
    if isKeyword name t then .ok rest else refuse (t :: rest) (some (['"'] ++ name ++ ['"']))

/-- The commands that belong to the shell so much that no function can have their names. -/
def specialNames : List Text :=
  [":".toList, ".".toList, "break".toList, "continue".toList, "eval".toList, "exec".toList,
    "exit".toList, "export".toList, "local".toList, "readonly".toList, "return".toList,
    "set".toList,
    "shift".toList, "times".toList, "trap".toList, "unset".toList]

/-! ## Simple commands -/

/-- The descriptor and the target of a redirection, by its operator and the word behind it. -/
def redirectOf? (op : Text) (w : Word) : Option (Nat × Target Word) :=
  match op with
  | ['<'] => some (0, .file .read w)
  | ['<', '>'] => some (0, .file .readWrite w)
  | ['<', '&'] => some (0, .duplicate w)
  | ['<', '<'] | ['<', '<', '-'] => some (0, .document [] true)
  | ['>'] => some (1, .file .write w)
  | ['>', '>'] => some (1, .file .append w)
  | ['>', '|'] => some (1, .file .clobber w)
  | ['>', '&'] => some (1, .duplicate w)
  | _ => none

/-- Reads a redirection behind its descriptor, if there is one. -/
def redirect? (descriptor : Option Nat) :
    List Token → Except Refusal (Option (Redirect Word × List Token))
  | ⟨.operator op, _⟩ :: rest =>
    match redirectOf? op [], rest with
    | none, _ => .ok none
    | some (usual, _), ⟨.document body isLiteral, _⟩ :: rest =>
      .ok (some (⟨descriptor.getD usual, .document body isLiteral⟩, rest))
    | some (usual, _), ⟨.word w, _⟩ :: rest =>
      .ok ((redirectOf? op w).map fun r => (⟨descriptor.getD usual, r.2⟩, rest))
    | some _, rest => refuse rest none
  | _ => .ok none

/-- Reads words and redirections, as far as there are any. -/
def simpleFrom :
    Nat → List Token → Except Refusal ((List Word × List (Redirect Word)) × List Token)
  | 0, ts => .ok (([], []), ts)
  | fuel + 1, ts =>
    match ts with
    | ⟨.word w, _⟩ :: rest => do
      let ((ws, rs), rest) ← simpleFrom fuel rest
      return ((w :: ws, rs), rest)
    | ⟨.descriptor n, _⟩ :: rest => do
      match ← redirect? (some n) rest with
      | some (r, rest) =>
        let ((ws, rs), rest) ← simpleFrom fuel rest
        return ((ws, r :: rs), rest)
      | none => refuse rest none
    | _ => do
      match ← redirect? none ts with
      | some (r, rest) =>
        let ((ws, rs), rest) ← simpleFrom fuel rest
        return ((ws, r :: rs), rest)
      | none => return (([], []), ts)

/-- Takes off the words in front that set variables. -/
def splitAssignments : List Word → List (Text × Word) × List Word
  | [] => ([], [])
  | w :: ws =>
    match w.assignment? with
    | some a =>
      let (rest, ws) := splitAssignments ws
      (a :: rest, ws)
    | none => ([], w :: ws)

/-- Reads a simple command. -/
def simpleOf (ts : List Token) : Except Refusal (Command × List Token) := do
  let ((ws, rs), rest) ← simpleFrom (ts.length + 1) ts
  if ws.isEmpty ∧ rs.isEmpty then refuse ts none
  else
    let (assignments, words) := splitAssignments ws
    return (.simple ((ts.head?.map (·.line)).getD 1) assignments words rs, rest)

/-- The redirections behind a compound command, which takes no words. -/
def groupRedirects :
    Nat → List Token → Except Refusal (List (Redirect Word) × List Token)
  | 0, ts => .ok ([], ts)
  | fuel + 1, ts => do
    let (descriptor, behind) : Option Nat × List Token :=
      match ts with
      | ⟨.descriptor n, _⟩ :: rest => (some n, rest)
      | _ => (none, ts)
    match ← redirect? descriptor behind with
    | some (r, rest) =>
      let (rs, rest) ← groupRedirects fuel rest
      return (r :: rs, rest)
    | none => return ([], ts)

/-! ## Compound commands -/

/-- Takes words from the front. -/
def wordsFrom : List Token → List Word × List Token
  | ⟨.word w, _⟩ :: rest =>
    let (ws, rest) := wordsFrom rest
    (w :: ws, rest)
  | ts => ([], ts)

/-- Reads the words of a loop over fields, up to the end of the list of them. -/
def loopWords : List Token → Except Refusal (Option (List Word) × List Token)
  | t :: rest =>
    if isKeyword "in".toList t then
      match wordsFrom rest with
      | (ws, ⟨.operator [';'], _⟩ :: rest) | (ws, ⟨.newline, _⟩ :: rest) =>
        .ok (some ws, dropNewlines rest)
      | (_, rest) => refuse rest none
    else if isOperator [';'] t then .ok (none, dropNewlines rest)
    else .ok (none, t :: rest)
  | [] => .ok (none, [])

/-- Reads the patterns of a clause, up to the parenthesis behind them. -/
def patternsFrom : List Token → Except Refusal (List Word × List Token)
  | ⟨.word w, _⟩ :: ⟨.operator ['|'], _⟩ :: rest => do
    let (ws, rest) ← patternsFrom rest
    return (w :: ws, rest)
  | ⟨.word w, _⟩ :: ⟨.operator [')'], _⟩ :: rest => .ok ([w], rest)
  | ⟨.word _, _⟩ :: rest => refuse rest (some "\")\"".toList)
  | ts => refuse ts (some "\")\"".toList)

mutual

/-- Reads commands up to what closes the group at hand, or to the end.  The `first` of them must be
there, unless the end is. -/
def list : Nat → Bool → List Token → Except Refusal (Command × List Token)
  | 0, _, ts => refuse ts none
  | fuel + 1, first, ts =>
    match dropNewlines ts with
    | [] => .ok (.skip, [])
    | t :: rest =>
      if isCloser t ∧ !first then .ok (.skip, t :: rest)
      else do
        let (c, rest) ← conditional fuel (t :: rest)
        match rest with
        | ⟨.operator [';'], _⟩ :: rest | ⟨.newline, _⟩ :: rest =>
          let (d, rest) ← list fuel false rest
          return (.seq c d, rest)
        | ⟨.operator ['&'], _⟩ :: rest =>
          let (d, rest) ← list fuel false rest
          return (.seq (.aside c) d, rest)
        | _ => return (c, rest)

/-- Reads pipelines joined by `&&` and `||`. -/
def conditional : Nat → List Token → Except Refusal (Command × List Token)
  | 0, ts => refuse ts none
  | fuel + 1, ts => do
    let (c, rest) ← pipeline fuel ts
    conditionalRest fuel c rest

/-- Reads what follows a pipeline in such a chain. -/
def conditionalRest : Nat → Command → List Token → Except Refusal (Command × List Token)
  | 0, _, ts => refuse ts none
  | fuel + 1, c, ts =>
    match ts with
    | ⟨.operator ['&', '&'], _⟩ :: rest => do
      let (d, rest) ← pipeline fuel (dropNewlines rest)
      conditionalRest fuel (.cond false c d) rest
    | ⟨.operator ['|', '|'], _⟩ :: rest => do
      let (d, rest) ← pipeline fuel (dropNewlines rest)
      conditionalRest fuel (.cond true c d) rest
    | _ => .ok (c, ts)

/-- Reads commands joined by `|`, the status of which may be negated. -/
def pipeline : Nat → List Token → Except Refusal (Command × List Token)
  | 0, ts => refuse ts none
  | fuel + 1, ts =>
    match ts with
    | [] => refuse [] none
    | t :: rest =>
      if isKeyword ['!'] t then do
        let (c, rest) ← piped fuel rest
        return (.negate c, rest)
      else piped fuel (t :: rest)

/-- Reads commands joined by `|`. -/
def piped : Nat → List Token → Except Refusal (Command × List Token)
  | 0, ts => refuse ts none
  | fuel + 1, ts => do
    let (c, rest) ← command fuel ts
    match rest with
    | ⟨.operator ['|'], _⟩ :: rest =>
      let (d, rest) ← piped fuel (dropNewlines rest)
      return (.pipe c d, rest)
    | _ => return (c, rest)

/-- Reads commands between a keyword that has been read and the one that closes them. -/
def upTo (close : Text) : Nat → List Token → Except Refusal (Command × List Token)
  | 0, ts => refuse ts none
  | fuel + 1, ts => do
    let (c, rest) ← list fuel true ts
    let rest ← expect close rest
    return (c, rest)

/-- Reads a branch behind the keyword that begins its test. -/
def branchFrom : Nat → List Token → Except Refusal (Command × List Token)
  | 0, ts => refuse ts none
  | fuel + 1, ts => do
    let (test, rest) ← upTo "then".toList fuel ts
    let (yes, rest) ← list fuel true rest
    match rest with
    | t :: rest =>
      if isKeyword "elif".toList t then
        let (no, rest) ← branchFrom fuel rest
        return (.branch test yes no, rest)
      else if isKeyword "else".toList t then
        let (no, rest) ← upTo "fi".toList fuel rest
        return (.branch test yes no, rest)
      else
        let rest ← expect "fi".toList (t :: rest)
        return (.branch test yes (.simple t.line [] [] []), rest)
    | [] => refuse [] (some "\"fi\"".toList)

/-- Reads the clauses of a choice. -/
def clauses :
    Nat → List Token → Except Refusal (List (List Word × Command) × List Token)
  | 0, ts => refuse ts none
  | fuel + 1, ts =>
    match dropNewlines ts with
    | t :: rest =>
      if isKeyword "esac".toList t then .ok ([], rest)
      else do
        let (patterns, rest) ← patternsFrom (if isOperator ['('] t then rest else t :: rest)
        let (body, rest) ← list fuel false rest
        match rest with
        | ⟨.operator [';', ';'], _⟩ :: rest =>
          let (others, rest) ← clauses fuel rest
          return ((patterns, body) :: others, rest)
        | t :: rest =>
          if isKeyword "esac".toList t then return ([(patterns, body)], rest)
          else refuse (t :: rest) (some "\";;\"".toList)
        | [] => refuse [] (some "\";;\"".toList)
    | [] => refuse [] (some "\")\"".toList)

/-- Reads a command that a keyword begins, which stands in the given line. -/
def compound :
    Nat → Nat → Text → List Token → Except Refusal (Command × List Token)
  | 0, _, _, ts => refuse ts none
  | fuel + 1, line, name, ts =>
    if name = ['\x7b'] then upTo ['\x7d'] fuel ts
    else if name = "if".toList then branchFrom fuel ts
    else if name = "for".toList then
      match ts with
      | ⟨.word w, _⟩ :: rest =>
        match w.bare?.filter Lexing.isName with
        | some name => do
          let (words, rest) ← loopWords (dropNewlines rest)
          let rest ← expect "do".toList rest
          let (body, rest) ← upTo "done".toList fuel rest
          return (.each line name words body, rest)
        | none => .error ⟨rest, .badLoopVariable⟩
      | rest => .error ⟨rest, .badLoopVariable⟩
    else if name = "case".toList then
      match ts with
      | ⟨.word w, _⟩ :: rest => do
        let rest ← expect "in".toList (dropNewlines rest)
        let (cs, rest) ← clauses fuel rest
        return (.choose line w cs, rest)
      | rest => refuse rest (some "word".toList)
    else do
      let (test, rest) ← upTo "do".toList fuel ts
      let (body, rest) ← upTo "done".toList fuel rest
      return (.loop (name = "until".toList) test body, rest)

/-- Reads a group, another compound command, a function or a simple command. -/
def command : Nat → List Token → Except Refusal (Command × List Token)
  | 0, ts => refuse ts none
  | fuel + 1, ts =>
    match ts with
    | ⟨.operator ['('], line⟩ :: rest => do
      let (body, rest) ← list fuel true rest
      match rest with
      | ⟨.operator [')'], _⟩ :: rest =>
        let (rs, rest) ← groupRedirects (rest.length + 1) rest
        return (.group line true body rs, rest)
      | _ => refuse rest (some "\")\"".toList)
    | ⟨.word w, line⟩ :: rest =>
      match w.bare?.filter keywords.contains, rest with
      | some name, _ =>
        if closers.contains name ∨ name = "in".toList ∨ name = ['!'] then refuse ts none
        else do
          let (body, rest) ← compound fuel line name rest
          let (rs, rest) ← groupRedirects (rest.length + 1) rest
          return (.group line false body rs, rest)
      | none, ⟨.operator ['('], _⟩ :: ⟨.operator [')'], _⟩ :: rest =>
        match w.bare?.filter fun name => Lexing.isName name ∧ !specialNames.contains name with
        | none => .error ⟨rest, .badFunctionName⟩
        | some name => do
          let (body, rest) ← command fuel (dropNewlines rest)
          return (.define name body, rest)
      | none, ⟨.operator ['('], _⟩ :: rest => refuse rest (some "\")\"".toList)
      | none, _ => simpleOf ts
    | _ => simpleOf ts

end

/-- How much fuel is enough to read the given tokens. -/
def fuelFor (ts : List Token) : Nat :=
  10 * ts.length + 10

/-- Reads commands up to the end of the line, with the given fuel. -/
def lineFrom : Nat → List Token → Except Refusal (Command × List Token)
  | 0, ts => refuse ts none
  | _, [] => .ok (.skip, [])
  | _, ⟨.newline, _⟩ :: rest => .ok (.skip, rest)
  | fuel + 1, ts => do
    let (c, rest) ← conditional (fuelFor ts) ts
    match rest with
    | [] => return (c, [])
    | ⟨.newline, _⟩ :: rest => return (c, rest)
    | ⟨.operator [';'], _⟩ :: rest =>
      let (d, rest) ← lineFrom fuel rest
      return (.seq c d, rest)
    | ⟨.operator ['&'], _⟩ :: rest =>
      let (d, rest) ← lineFrom fuel rest
      return (.seq (.aside c) d, rest)
    | rest => refuse rest none

/-- Reads the commands of the next line, which may go over more than one row. -/
def nextLine (ts : List Token) : Except Refusal (Command × List Token) :=
  lineFrom (ts.length + 1) ts

end Command

namespace Refusal

/-- How a complaint names the first of the given tokens. -/
def label : List Token → Text
  | [] => "end of file".toList
  | ⟨.operator t, _⟩ :: _ => '"' :: t ++ ['"']
  | ⟨.newline, _⟩ :: _ => "newline".toList
  | ⟨.descriptor _, _⟩ :: _ => "redirection".toList
  | ⟨.word w, _⟩ :: _ =>
    match w.bare?.filter Command.keywords.contains with
    | some name => '"' :: name ++ ['"']
    | none => "word".toList
  | ⟨.document _ _, _⟩ :: _ | ⟨.broken _, _⟩ :: _ => "word".toList

/-- The wording of the cause. -/
def wording (r : Refusal) : Text :=
  match r.found, r.cause with
  | ⟨.broken why, _⟩ :: _, _ => why
  | found, .unexpected none => label found ++ " unexpected".toList
  | found, .unexpected (some t) =>
    label found ++ " unexpected (expecting ".toList ++ t ++ [')']
  | _, .badLoopVariable => "Bad for loop variable".toList
  | _, .badFunctionName => "Bad function name".toList

/-- The complaint about tokens that are no command. -/
def message (r : Refusal) : Text :=
  "Syntax error: ".toList ++ r.wording

end Refusal

namespace Command

/-- The closing parenthesis of a command line within a word. -/
def fence : Token :=
  ⟨.operator [')'], 1⟩

mutual

/-- Why a piece of a word cannot be read, if it cannot be. -/
def flaw? : Nat → Piece → Option Text
  | 0, _ => none
  | fuel + 1, p =>
    match p with
    | .command line ticked _ =>
      let ts := vet fuel (lex line) ++ if ticked then [] else [fence]
      match list (fuelFor ts) false ts with
      | .error e => some e.wording
      | .ok (_, []) => none
      | .ok (_, rest) =>
        if !ticked ∧ rest.length = 1 then none else some (Refusal.wording ⟨rest, .unexpected none⟩)
    | .braced content quoted =>
      (Word.inner (if quoted then .quotedWord else .word) content).findSome? (flaw? fuel)
    | _ => none

/-- Marks the words that cannot be read. -/
def vet : Nat → List Token → List Token
  | 0, ts => ts
  | fuel + 1, ts =>
    ts.map fun t =>
      match t.lexeme with
      | .word w =>
        match w.findSome? (flaw? fuel) with
        | some why => { t with lexeme := .broken why }
        | none => t
      | _ => t

end

/-- How deep words within words are looked into. -/
def vetDepth : Nat := 64

/-- The tokens of a text, with those marked that cannot be read. -/
def tokens (t : Text) : List Token :=
  vet vetDepth (lex t)

/-- The commands of a text whose first line has the given number. -/
def ofText (line : Nat) (t : Text) : Except Refusal Command :=
  let ts := (tokens t).map fun u => { u with line := u.line + line - 1 }
  match list (fuelFor ts) false ts with
  | .ok (c, []) => .ok c
  | .ok (_, rest) => refuse rest none
  | .error e => .error e

end Command

end Postroom.Shell
