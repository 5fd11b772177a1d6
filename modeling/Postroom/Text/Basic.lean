/-!
# Text and octets

Mail is octets on the wire and text to its readers.  Both are lists here, so that every fold,
split and search below is a structural recursion over what it reads.

* `Text.sameName` — equality up to the case of ASCII letters, the only case folding that header
  names, folder paths and tags know;
* `Text.pieces`, `Text.lines`, `Text.splitLast`, `Text.splitAtInfix` — the ways the library cuts a
  text;
* `Text.ofNat`, `Text.ofInt` — decimal numerals;
* `Text.sorted` — texts in the order of their code points, and `total`, the sum of numbers.
-/

namespace Postroom

/-- A text is the list of its characters. -/
abbrev Text := List Char

/-- The octets of a message or of a stream, in order. -/
abbrev Octets := List UInt8

/-- The sum of numbers. -/
def total (ns : List Nat) : Nat :=
  ns.foldr (· + ·) 0

@[simp] theorem total_nil : total [] = 0 := rfl

@[simp] theorem total_cons (n : Nat) (ns : List Nat) : total (n :: ns) = n + total ns := rfl

namespace Text

/-- A text stands no later than another one in the order of code points. -/
def precedes (a b : Text) : Bool :=
  !decide (b < a)

/-- Texts in the order of code points. -/
def sorted (ts : List Text) : List Text :=
  ts.mergeSort precedes

/-- Two texts are the same name when they differ at most in the case of ASCII letters. -/
def sameName (a b : Text) : Bool :=
  a.map Char.toLower == b.map Char.toLower

theorem sameName_iff {a b : Text} :
    sameName a b = true ↔ a.map Char.toLower = b.map Char.toLower := by
  simp [sameName]

@[simp] theorem sameName_refl (a : Text) : sameName a a = true := by
  simp [sameName]

theorem sameName_symm {a b : Text} (h : sameName a b = true) : sameName b a = true := by
  rw [sameName_iff] at *
  exact h.symm

theorem sameName_trans {a b c : Text} (h : sameName a b = true) (h' : sameName b c = true) :
    sameName a c = true := by
  rw [sameName_iff] at *
  exact h.trans h'

theorem sameName_comm (a b : Text) : sameName a b = sameName b a := by
  rw [Bool.eq_iff_iff]
  exact ⟨sameName_symm, sameName_symm⟩

theorem sameName_congr {a b : Text} (h : sameName a b = true) (t : Text) :
    sameName t a = sameName t b := by
  rw [Bool.eq_iff_iff]
  constructor
  · intro ha
    exact sameName_trans ha h
  · intro hb
    exact sameName_trans hb (sameName_symm h)

/-- Cuts a text at every character that satisfies `cut`; the separators are dropped and empty
pieces are kept, so there is always at least one piece. -/
def pieces (cut : Char → Bool) : Text → List Text
  | [] => [[]]
  | c :: rest =>
    match cut c, pieces cut rest with
    | true, ps => [] :: ps
    | false, [] => [[c]]
    | false, p :: ps => (c :: p) :: ps

theorem pieces_ne_nil (cut : Char → Bool) (t : Text) : pieces cut t ≠ [] := by
  cases t with
  | nil => simp [pieces]
  | cons c rest =>
    unfold pieces
    split <;> simp

/-- What stands before and after the last `d` of a text, if it holds one. -/
def splitLast (d : Char) : Text → Option (Text × Text)
  | [] => none
  | c :: rest =>
    match splitLast d rest with
    | some (before, after) => some (c :: before, after)
    | none => if c = d then some ([], rest) else none

theorem eq_of_splitLast {d : Char} {t before after : Text}
    (h : splitLast d t = some (before, after)) : t = before ++ d :: after := by
  induction t generalizing before after with
  | nil => simp [splitLast] at h
  | cons c rest ih =>
    unfold splitLast at h
    split at h
    · rename_i b a hb
      obtain ⟨rfl, rfl⟩ : c :: b = before ∧ a = after := by simpa using h
      simp [ih hb]
    · split at h
      · obtain ⟨rfl, rfl⟩ : [] = before ∧ rest = after := by simpa using h
        simp_all
      · simp at h

/-- Splits off the lines of a text whose current line has been read up to `read`, last character
first: a line ends at a line feed, a carriage return right before it belongs to the line end, and
text after the last line end is a line of its own. -/
def linesFrom (read : Text) : Text → List Text
  | [] => if read.isEmpty then [] else [read.reverse]
  | '\n' :: rest =>
    match read with
    | '\r' :: front => front.reverse :: linesFrom [] rest
    | _ => read.reverse :: linesFrom [] rest
  | c :: rest => linesFrom (c :: read) rest

/-- The lines of a text, without their ends. -/
def lines (t : Text) : List Text :=
  linesFrom [] t

/-- `needle` begins at the head of the text or later. -/
def hasInfix (needle : Text) : Text → Bool
  | [] => needle.isEmpty
  | c :: rest => needle.isPrefixOf (c :: rest) || hasInfix needle rest

theorem hasInfix_iff {needle t : Text} : hasInfix needle t = true ↔ needle <:+: t := by
  induction t with
  | nil => rw [hasInfix, List.isEmpty_iff, List.infix_nil]
  | cons c t ih =>
    rw [hasInfix, Bool.or_eq_true, List.isPrefixOf_iff_prefix, ih, List.infix_cons_iff]

/-- The rest of a text after `front`, if it begins with `front`. -/
def stripFront : Text → Text → Option Text
  | [], t => some t
  | f :: front, c :: rest => if f = c then stripFront front rest else none
  | _ :: _, [] => none

theorem eq_of_stripFront {front t rest : Text} (h : stripFront front t = some rest) :
    t = front ++ rest := by
  induction front generalizing t with
  | nil => simpa [stripFront] using h
  | cons f front ih =>
    cases t with
    | nil => simp [stripFront] at h
    | cons c t =>
      unfold stripFront at h
      split at h
      · rename_i hc
        simp [hc, ih h]
      · simp at h

theorem stripFront_append (front rest : Text) : stripFront front (front ++ rest) = some rest := by
  induction front with
  | nil => rfl
  | cons f front ih => rw [List.cons_append, stripFront, if_pos rfl, ih]

/-- What stands before and after the first occurrence of a text. -/
def splitAtInfix (needle : Text) (t : Text) : Option (Text × Text) :=
  match stripFront needle t with
  | some after => some ([], after)
  | none =>
    match t with
    | [] => none
    | c :: rest =>
      match splitAtInfix needle rest with
      | some (before, after) => some (c :: before, after)
      | none => none

theorem eq_of_splitAtInfix {needle t before after : Text}
    (h : splitAtInfix needle t = some (before, after)) : t = before ++ needle ++ after := by
  induction t generalizing before after with
  | nil =>
    unfold splitAtInfix at h
    split at h
    · rename_i a ha
      obtain ⟨rfl, rfl⟩ : [] = before ∧ a = after := by simpa using h
      simpa using eq_of_stripFront ha
    · simp at h
  | cons c rest ih =>
    unfold splitAtInfix at h
    split at h
    · rename_i a ha
      obtain ⟨rfl, rfl⟩ : [] = before ∧ a = after := by simpa using h
      simpa using eq_of_stripFront ha
    · simp only at h
      split at h
      · rename_i b a hb
        obtain ⟨rfl, rfl⟩ : c :: b = before ∧ a = after := by simpa using h
        rw [ih hb]
        simp
      · simp at h

/-- The rest of a text before `back`, if it ends with `back`. -/
def stripBack (back t : Text) : Option Text :=
  (stripFront back.reverse t.reverse).map List.reverse

/-- The decimal numeral of a natural number. -/
def ofNat (n : Nat) : Text :=
  Nat.toDigits 10 n

theorem ofNat_ne_nil (n : Nat) : ofNat n ≠ [] :=
  Nat.toDigits_ne_nil

theorem isDigit_of_mem_ofNat {n : Nat} {c : Char} (h : c ∈ ofNat n) : c.isDigit = true :=
  Nat.isDigit_of_mem_toDigits (by decide) (by decide) h

/-- A number is read back from its numeral. -/
theorem ofNat_injective : Function.Injective ofNat := by
  intro a b h
  calc
    a = Nat.ofDigitChars 10 (ofNat a) 0 := Nat.ofDigitChars_ten_toDigits.symm
    _ = Nat.ofDigitChars 10 (ofNat b) 0 := by rw [h]
    _ = b := Nat.ofDigitChars_ten_toDigits

/-- The decimal numeral of an integer, with a minus sign when it is negative. -/
def ofInt : Int → Text
  | .ofNat n => ofNat n
  | .negSucc n => '-' :: ofNat (n + 1)

/-- The value of a digit in bases up to 36, in either case. -/
def digitValue (c : Char) : Option Nat :=
  if '0' ≤ c ∧ c ≤ '9' then some (c.toNat - '0'.toNat)
  else if 'a' ≤ c ∧ c ≤ 'z' then some (c.toNat - 'a'.toNat + 10)
  else if 'A' ≤ c ∧ c ≤ 'Z' then some (c.toNat - 'A'.toNat + 10)
  else none

/-- The value of a hexadecimal digit, in either case. -/
def hexValue (c : Char) : Option Nat :=
  (digitValue c).filter (· < 16)

/-- The value of a numeral in the given base, read from the left onto `acc`. -/
def valueFrom (base acc : Nat) : Text → Option Nat
  | [] => some acc
  | c :: rest =>
    match (digitValue c).filter (· < base) with
    | some d => valueFrom base (acc * base + d) rest
    | none => none

/-- The number a nonempty decimal numeral stands for. -/
def toNat? (t : Text) : Option Nat :=
  if t.isEmpty then none else valueFrom 10 0 t

/-- Joins texts with a separator between neighbours. -/
def join (sep : Text) : List Text → Text
  | [] => []
  | [t] => t
  | t :: ts => t ++ sep ++ join sep ts

end Text

end Postroom
