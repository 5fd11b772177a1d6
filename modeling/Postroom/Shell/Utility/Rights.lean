import Postroom.Shell.Utility.Basic

/-!
# Rights to files

The rights to a file are nine bits for its owner, its group and others, and three more.  A command
gives them as an octal number or as changes such as `u+x,go=r`.

* `Rights.parse?` — the changes that a text asks for;
* `Rights.shown` — the rights as listings show them.
-/

namespace Postroom.Shell.Utility

namespace Rights

/-- What a change does with the rights that it names. -/
inductive Effect where
  | add
  | remove
  | put
deriving DecidableEq

/-- A change: the bits that it may touch, the effect, and the bits of reading, writing and so on,
wherever they apply; a bit to run or search may depend on what the file is. -/
structure Change where
  scope : Nat
  effect : Effect
  bits : Nat
  searches : Bool

/-- All bits of reading, writing and running that a letter stands for. -/
def bitsOf? (c : Char) : Option Nat :=
  match c with
  | 'r' => some 0o444
  | 'w' => some 0o222
  | 'x' => some 0o111
  | 's' => some 0o6000
  | 't' => some 0o1000
  | 'X' => some 0
  | _ => none

/-- All bits of those that a letter stands for. -/
def scopeOf? (c : Char) : Option Nat :=
  match c with
  | 'u' => some 0o4700
  | 'g' => some 0o2070
  | 'o' => some 0o1007
  | 'a' => some 0o7777
  | _ => none

/-- The changes of one clause behind those that it is about. -/
def changes? (scope : Nat) : Nat → Text → Option (List Change)
  | 0, _ => none
  | _, [] => some []
  | fuel + 1, op :: rest =>
    let effect? : Option Effect :=
      match op with
      | '+' => some .add
      | '-' => some .remove
      | '=' => some .put
      | _ => none
    effect?.bind fun effect =>
      let letters := rest.takeWhile fun c => (bitsOf? c).isSome
      let bits := letters.foldl (fun n c => n ||| (bitsOf? c).getD 0) 0
      (changes? scope fuel (rest.drop letters.length)).map fun more =>
        ⟨scope, effect, bits, letters.contains 'X'⟩ :: more

/-- The changes that a text asks for, where new files are not given the rights in `mask`. -/
def parse? (mask : Nat) (t : Text) : Option (List Change) :=
  if t ≠ [] ∧ t.all (fun c => '0' ≤ c ∧ c ≤ '7') then
    let n := t.foldl (fun n c => n * 8 + (c.toNat - 48)) 0
    if n ≤ 0o7777 then some [⟨0o7777, .put, n, false⟩] else none
  else
    ((Text.pieces (· = ',') t).mapM fun clause =>
      let who := clause.takeWhile fun c => (scopeOf? c).isSome
      let named := who.foldl (fun n c => n ||| (scopeOf? c).getD 0) 0
      let scope := if who.isEmpty then 0o7777 &&& (0o7777 ^^^ mask) else named
      if who.length = clause.length then none
      else changes? scope (clause.length + 1) (clause.drop who.length)).map List.flatten

/-- The rights after a change. -/
def Change.apply (isDirectory : Bool) (mode : Nat) (c : Change) : Nat :=
  let runs : Bool := isDirectory ∨ mode &&& 0o111 ≠ 0
  let bits := (c.bits ||| (if c.searches ∧ runs then 0o111 else 0)) &&& c.scope
  match c.effect with
  | .add => mode ||| bits
  | .remove => mode &&& (0o7777 ^^^ bits)
  | .put => (mode &&& (0o7777 ^^^ c.scope)) ||| bits

/-- The rights after changes. -/
def change (isDirectory : Bool) (mode : Nat) (cs : List Change) : Nat :=
  cs.foldl (Change.apply isDirectory) mode

/-- Rights as an octal number. -/
def octal (mode : Nat) : Text :=
  Nat.toDigits 8 mode

/-- Rights as listings show them. -/
def shown (mode : Nat) : Text :=
  let has (bit : Nat) : Bool := mode &&& bit ≠ 0
  let three (shift special : Nat) (mark : Char) : Text :=
    [if has (4 * shift) then 'r' else '-', if has (2 * shift) then 'w' else '-',
      if has special then if has shift then mark else mark.toUpper
      else if has shift then 'x' else '-']
  three 0o100 0o4000 's' ++ three 0o10 0o2000 's' ++ three 1 0o1000 't'

end Rights

end Postroom.Shell.Utility
