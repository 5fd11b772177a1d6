import Postroom.Text.Basic

/-!
# Punycode

A label with characters beyond ASCII is written in ASCII as its ASCII characters, a hyphen, and the
other characters as numbers: each number says how far to move on, first through the places of the
word and then to the next code point.  Numbers are written in base 36 with digits whose weights
adapt to what has been read.

* `decode?` — the reading; it refuses a stray digit, a number without an end, and numbers beyond 32
  bits or beyond the code space.
* `encode` — the writing.
-/

namespace Postroom.Punycode

/-- The largest number the reading holds. -/
def limit : Nat := 0xFFFFFFFF

/-- The value of a digit. -/
def digit? (c : Char) : Option Nat :=
  if '0' ≤ c ∧ c ≤ '9' then some (c.toNat - 48 + 26)
  else if 'a' ≤ c ∧ c ≤ 'z' then some (c.toNat - 97)
  else if 'A' ≤ c ∧ c ≤ 'Z' then some (c.toNat - 65)
  else none

/-- The character of a digit. -/
def digitChar (d : Nat) : Char :=
  if d < 26 then Char.ofNat (97 + d) else Char.ofNat (48 + d - 26)

/-- The threshold of the digit of position `k`: a smaller digit is the last one. -/
def threshold (k bias : Nat) : Nat :=
  if k ≤ bias then 1 else if bias + 26 ≤ k then 26 else k - bias

theorem threshold_pos (k bias : Nat) : 1 ≤ threshold k bias := by
  unfold threshold
  split
  · omega
  · split <;> omega

theorem threshold_le (k bias : Nat) : threshold k bias ≤ 26 := by
  unfold threshold
  split
  · omega
  · split <;> omega

/-- Divides a number down until it is small, and counts positions. -/
def shrink (delta k : Nat) : Nat × Nat :=
  if 455 < delta then shrink (delta / 35) (k + 36) else (delta, k)
termination_by delta
decreasing_by exact Nat.div_lt_self (by omega) (by omega)

/-- The next bias, from the number just read and the length of the word after it. -/
def adapt (delta points : Nat) (first : Bool) : Nat :=
  let start := if first then delta / 700 else delta / 2
  let (small, k) := shrink (start + start / points) 0
  k + 36 * small / (small + 38)

/-- Reads one number onto `i`, and returns it with the rest of the digits. -/
def number? (bias : Nat) (i weight k : Nat) : Text → Option (Nat × Text)
  | [] => none
  | c :: rest =>
    match digit? c with
    | none => none
    | some d =>
      if (limit - i) / weight < d then none
      else
        let i := i + d * weight
        let t := threshold k bias
        if d < t then some (i, rest)
        else if limit / (36 - t) < weight then none
        else number? bias i (weight * (36 - t)) (k + 36) rest

theorem number?_length {bias i weight k : Nat} {t rest : Text} {n : Nat}
    (h : number? bias i weight k t = some (n, rest)) : rest.length < t.length := by
  induction t generalizing i weight k with
  | nil => simp [number?] at h
  | cons c t ih =>
    unfold number? at h
    split at h
    · simp at h
    · split at h
      · simp at h
      · dsimp only at h
        split at h
        · obtain ⟨-, rfl⟩ : _ ∧ t = rest := by simpa using h
          simp
        · split at h
          · simp at h
          · have := ih h
            simp only [List.length_cons]
            omega

/-- The code point is a character. -/
def isScalar (n : Nat) : Bool :=
  n < 0xD800 || (0xE000 ≤ n && n < 0x110000)

/-- Reads numbers to the end and inserts a character into `word` for each; `point` is the code
point reached, `i` the place after the last insertion. -/
def insertAll (point bias i : Nat) (word : Text) (digits : Text) : Option Text :=
  if digits.isEmpty then some word
  else
    match _h : number? bias i 1 36 digits with
    | none => none
    | some (j, rest) =>
      let length := word.length + 1
      if limit - point < j / length then none
      else
        let next := point + j / length
        if isScalar next then
          insertAll next (adapt (j - i) length (i == 0)) (j % length + 1)
            (word.insertIdx (j % length) (Char.ofNat next)) rest
        else none
termination_by digits.length
decreasing_by exact number?_length _h

/-- The word that a label in ASCII form stands for. -/
def decode? (label : Text) : Option Text :=
  let (base, digits) :=
    match Text.splitLast '-' label with
    | none => ([], label)
    | some ([], _) => ([], label)
    | some (before, after) => (before, after)
  if base.all (·.toNat < 0x80) then insertAll 0x80 72 0 base digits else none

/-- The digits of a number. -/
def digits (bias k q : Nat) : Text :=
  let t := threshold k bias
  if q < t then [digitChar q]
  else digitChar (t + (q - t) % (36 - t)) :: digits bias (k + 36) ((q - t) / (36 - t))
termination_by q
decreasing_by
  have := threshold_pos k bias
  have := threshold_le k bias
  calc (q - threshold k bias) / (36 - threshold k bias)
      ≤ q - threshold k bias := Nat.div_le_self _ _
    _ < q := by omega

/-- What the writing carries along: the text so far, the distance to the next insertion, the bias,
and how many characters the word has so far. -/
structure Writing where
  out : Text
  delta : Nat
  bias : Nat
  handled : Nat

/-- Passes one character of the word while the characters of number `point` are inserted. -/
def Writing.pass (base point : Nat) (w : Writing) (c : Char) : Writing :=
  if c.toNat < point then { w with delta := w.delta + 1 }
  else if c.toNat = point then
    ⟨w.out ++ digits w.bias 36 w.delta, 0, adapt w.delta (w.handled + 1) (w.handled == base),
      w.handled + 1⟩
  else w

/-- Inserts the characters of the given numbers, in ascending order. -/
def writeAll (word : Text) (base : Nat) : List Nat → Nat → Writing → Text
  | [], _, w => w.out
  | point :: points, reached, w =>
    let start := { w with delta := w.delta + (point - reached) * (w.handled + 1) }
    let next := word.foldl (Writing.pass base point) start
    writeAll word base points (point + 1) { next with delta := next.delta + 1 }

/-- The label in ASCII form that stands for a word. -/
def encode (word : Text) : Text :=
  let base := word.filter (·.toNat < 0x80)
  let points := ((word.filter fun c => 0x80 ≤ c.toNat).map Char.toNat).eraseDups.mergeSort
  let front := if base.isEmpty then [] else base ++ ['-']
  writeAll word base.length points 0x80 ⟨front, 0, 72, base.length⟩

end Postroom.Punycode
