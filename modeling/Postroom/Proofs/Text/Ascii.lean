import Postroom.Text.Blank
import Postroom.Text.Utf8
import Mathlib.Algebra.Order.Ring.Nat
import Mathlib.Data.List.Basic

/-!
# ASCII in texts and octets

`Text.asciiCount` and `asciiOctets` count what is ASCII in texts and in octets.  UTF-8 keeps these
numbers in both directions: a sequence of several octets has no ASCII octet, and
`Utf8.Pending.IsWide` is the invariant of the scan by which it comes to no ASCII character.
-/

namespace Postroom

/-- The number of ASCII characters. -/
def Text.asciiCount (t : Text) : ℕ :=
  t.countP fun c => c.toNat < 0x80

/-- The number of ASCII octets. -/
def asciiOctets (bytes : Octets) : ℕ :=
  bytes.countP fun b => b.toNat < 0x80

namespace Text

@[simp] theorem asciiCount_nil : asciiCount [] = 0 := rfl

theorem asciiCount_cons (c : Char) (t : Text) :
    asciiCount (c :: t) = asciiCount t + if c.toNat < 0x80 then 1 else 0 := by
  simp [asciiCount, List.countP_cons]

@[simp] theorem asciiCount_append (s t : Text) :
    asciiCount (s ++ t) = asciiCount s + asciiCount t :=
  List.countP_append

@[simp] theorem asciiCount_reverse (t : Text) : asciiCount t.reverse = asciiCount t :=
  List.countP_reverse

theorem asciiCount_le_of_sublist {s t : Text} (h : s.Sublist t) : asciiCount s ≤ asciiCount t :=
  h.countP_le

theorem trimEnd_sublist (t : Text) : (trimEnd t).Sublist t := by
  have h := (List.dropWhile_sublist isBlank (l := t.reverse)).reverse
  rwa [List.reverse_reverse] at h

theorem asciiCount_cons_le (c : Char) (t : Text) : asciiCount (c :: t) ≤ asciiCount t + 1 := by
  rw [asciiCount_cons]
  split <;> omega

theorem asciiCount_cons_of_not_ascii {c : Char} (h : 0x80 ≤ c.toNat) (t : Text) :
    asciiCount (c :: t) = asciiCount t := by
  rw [asciiCount_cons, if_neg (by omega), Nat.add_zero]

end Text

open Text

@[simp] theorem asciiOctets_nil : asciiOctets [] = 0 := rfl

theorem asciiOctets_cons (b : UInt8) (bytes : Octets) :
    asciiOctets (b :: bytes) = asciiOctets bytes + if b.toNat < 0x80 then 1 else 0 := by
  simp [asciiOctets, List.countP_cons]

@[simp] theorem asciiOctets_append (s t : Octets) :
    asciiOctets (s ++ t) = asciiOctets s + asciiOctets t :=
  List.countP_append

theorem asciiOctets_le_of_sublist {s t : Octets} (h : s.Sublist t) :
    asciiOctets s ≤ asciiOctets t :=
  h.countP_le

theorem asciiOctets_le_length (bytes : Octets) : asciiOctets bytes ≤ bytes.length :=
  List.countP_le_length

/-- The number of a valid code point's character. -/
theorem toNat_ofNat_of_valid {n : ℕ} (h : n.isValidChar) : (Char.ofNat n).toNat = n := by
  rw [Char.ofNat, dif_pos h]
  show (UInt32.ofNatLT n _).toNat = n
  exact UInt32.toNat_ofNatLT ..

theorem toNat_ofNat_octet (b : UInt8) : (Char.ofNat b.toNat).toNat = b.toNat :=
  toNat_ofNat_of_valid (Or.inl (by have := b.toNat_lt; omega))

/-! ## UTF-8 -/

namespace Utf8

/-- Whatever character the sequence comes to, it is none of ASCII. -/
structure Pending.IsWide (p : Pending) : Prop where
  missing : 1 ≤ p.missing ∧ p.missing ≤ 3
  range : 0x80 ≤ p.low.toNat ∧ p.high.toNat ≤ 0xBF
  least : 0x80 ≤ (p.bits * 64 + (p.low.toNat - 0x80)) * 64 ^ (p.missing - 1)
  valid : (p.bits * 64 + (p.high.toNat - 0x80) + 1) * 64 ^ (p.missing - 1) ≤ 0xD800 ∨
    0xE000 ≤ (p.bits * 64 + (p.low.toNat - 0x80)) * 64 ^ (p.missing - 1) ∧
      (p.bits * 64 + (p.high.toNat - 0x80) + 1) * 64 ^ (p.missing - 1) ≤ 0x110000

theorem isWide_of_lead {b : UInt8} {p : Pending} (h : lead b = .opens p) : p.IsWide := by
  unfold lead at h
  simp only [UInt8.lt_iff_toNat_lt, ← UInt8.toNat_inj, UInt8.reduceToNat] at h
  split at h
  · cases h
  · split at h
    · cases h
    · split at h
      · cases h
        constructor <;> simp <;> omega
      · split at h
        · cases h
          -- the narrowed ranges keep the sequence off what is shorter and off the surrogates
          constructor <;>
            simp only [apply_ite UInt8.toNat, UInt8.reduceToNat, Nat.reduceSub, Nat.reducePow,
              Nat.reduceLeDiff, and_self] <;>
            split_ifs <;> omega
        · split at h
          · cases h
            constructor <;>
              simp only [apply_ite UInt8.toNat, UInt8.reduceToNat, Nat.reduceSub, Nat.reducePow,
                Nat.reduceLeDiff, and_self] <;>
              split_ifs <;> omega
          · cases h

theorem toNat_of_lead_char {b : UInt8} {c : Char} (h : lead b = .char c) : c.toNat = b.toNat := by
  unfold lead at h
  repeat' split at h
  all_goals cases h
  exact toNat_ofNat_octet b

/-- The next octet of a sequence leaves it wide. -/
theorem Pending.IsWide.next {p : Pending} (h : p.IsWide) {b : UInt8}
    (hb : p.low ≤ b ∧ b ≤ p.high) (hmissing : p.missing ≠ 1) :
    Pending.IsWide ⟨p.missing - 1, p.bits * 64 + (b.toNat - 0x80), 0x80, 0xBF⟩ := by
  obtain ⟨⟨hone, hthree⟩, ⟨hlow, hhigh⟩, hleast, hvalid⟩ := h
  rw [UInt8.le_iff_toNat_le, UInt8.le_iff_toNat_le] at hb
  generalize hbits : p.bits * 64 + (b.toNat - 0x80) = bits
  have hmin : p.bits * 64 + (p.low.toNat - 0x80) ≤ bits := by omega
  have hmax : bits + 1 ≤ p.bits * 64 + (p.high.toNat - 0x80) + 1 := by omega
  generalize p.bits * 64 + (p.low.toNat - 0x80) = least at *
  generalize p.bits * 64 + (p.high.toNat - 0x80) + 1 = bound at *
  obtain htwo | hthree : p.missing = 2 ∨ p.missing = 3 := by omega
  · rw [htwo] at hleast hvalid ⊢
    constructor <;> simp only [UInt8.reduceToNat, Nat.reduceSub, Nat.reducePow] at * <;> omega
  · rw [hthree] at hleast hvalid ⊢
    constructor <;> simp only [UInt8.reduceToNat, Nat.reduceSub, Nat.reducePow] at * <;> omega

/-- The last octet of a sequence makes a character beyond ASCII. -/
theorem Pending.IsWide.char {p : Pending} (h : p.IsWide) {b : UInt8}
    (hb : p.low ≤ b ∧ b ≤ p.high) (hmissing : p.missing = 1) :
    0x80 ≤ (Char.ofNat (p.bits * 64 + (b.toNat - 0x80))).toNat := by
  obtain ⟨missing, bits, low, high⟩ := p
  obtain ⟨-, ⟨hlow, hhigh⟩, hleast, hvalid⟩ := h
  simp only [UInt8.le_iff_toNat_le] at *
  subst hmissing
  simp only [Nat.sub_self, Nat.pow_zero, Nat.mul_one] at hleast hvalid
  have hchar : (bits * 64 + (b.toNat - 0x80)).isValidChar := by
    unfold Nat.isValidChar
    omega
  rw [toNat_ofNat_of_valid hchar]
  omega

/-- The scan finds as many ASCII characters as there are ASCII octets, at most. -/
theorem ascii_scanFrom (pending : Option Pending) (h : ∀ p, pending = some p → p.IsWide)
    (bytes : Octets) :
    (scanFrom pending bytes).countP (·.any (·.toNat < 0x80)) ≤ asciiOctets bytes := by
  -- an octet either goes on with the open sequence, or the scan is as if it began here
  induction bytes generalizing pending with
  | nil => cases pending <;> simp [scanFrom]
  | cons b rest ih =>
    have hnone := ih none (by simp)
    have hfresh : (scanFrom none (b :: rest)).countP (·.any (·.toNat < 0x80)) ≤
        asciiOctets (b :: rest) := by
      rw [asciiOctets_cons]
      simp only [scanFrom]
      split
      · rename_i c hlead
        simp only [List.countP_cons, Option.any_some, toNat_of_lead_char hlead, decide_eq_true_eq]
        omega
      · rw [List.countP_cons_of_neg (by simp)]
        exact Nat.le_add_right_of_le hnone
      · rename_i p hlead
        refine Nat.le_add_right_of_le (ih (some p) ?_)
        rintro _ ⟨⟩
        exact isWide_of_lead hlead
    cases pending with
    | none => exact hfresh
    | some p =>
      have hwide := h p rfl
      show List.countP _ (if p.low ≤ b ∧ b ≤ p.high then
          if p.missing = 1 then
            some (Char.ofNat (p.bits * 64 + (b.toNat - 0x80))) :: scanFrom none rest
          else
            scanFrom (some ⟨p.missing - 1, p.bits * 64 + (b.toNat - 0x80), 0x80, 0xBF⟩) rest
        else none :: scanFrom none (b :: rest)) ≤ _
      split
      · rename_i hb
        rw [asciiOctets_cons]
        split
        · rename_i hmissing
          rw [List.countP_cons_of_neg (by simpa using hwide.char hb hmissing)]
          exact Nat.le_add_right_of_le hnone
        · rename_i hmissing
          refine Nat.le_add_right_of_le (ih _ ?_)
          rintro _ ⟨⟩
          exact hwide.next hb hmissing
      · rw [List.countP_cons_of_neg (by simp)]
        exact hfresh

theorem ascii_scan (bytes : Octets) :
    (scan bytes).countP (·.any (·.toNat < 0x80)) ≤ asciiOctets bytes :=
  ascii_scanFrom none (by simp) bytes

theorem eq_map_some_of_mapM_id {cs : List (Option Char)} {t : Text} (h : cs.mapM id = some t) :
    cs = t.map some := by
  induction cs generalizing t with
  | nil =>
    obtain rfl : t = [] := by simpa using h.symm
    rfl
  | cons c cs ih =>
    rw [List.mapM_cons] at h
    obtain ⟨d, hd, h⟩ := Option.bind_eq_some_iff.1 h
    obtain ⟨t, ht, h⟩ := Option.bind_eq_some_iff.1 h
    cases h
    rw [ih ht, List.map_cons, show c = some d from hd]

theorem asciiCount_decode? {bytes : Octets} {t : Text} (h : decode? bytes = some t) :
    asciiCount t ≤ asciiOctets bytes := by
  have hscan := ascii_scan bytes
  rw [eq_map_some_of_mapM_id h, List.countP_map] at hscan
  exact hscan

theorem asciiCount_decodeLossy (bytes : Octets) :
    asciiCount (decodeLossy bytes) ≤ asciiOctets bytes := by
  refine Nat.le_trans (Nat.le_of_eq ?_) (ascii_scan bytes)
  rw [asciiCount, decodeLossy, List.countP_map]
  refine List.countP_congr fun c _ => ?_
  cases c <;> simp

theorem asciiCount_ofLatin1 (bytes : Octets) : asciiCount (ofLatin1 bytes) = asciiOctets bytes := by
  rw [asciiCount, ofLatin1, List.countP_map]
  exact List.countP_congr fun b _ => by simp [toNat_ofNat_octet]

theorem asciiCount_decodeOrLatin1 (bytes : Octets) :
    asciiCount (decodeOrLatin1 bytes) ≤ asciiOctets bytes := by
  unfold decodeOrLatin1
  cases h : decode? bytes with
  | some t => exact asciiCount_decode? h
  | none => exact (asciiCount_ofLatin1 bytes).le

/-- An ASCII octet of a character is the character. -/
theorem eq_of_mem_encodeChar {c : Char} {b : UInt8} (hb : b.toNat < 0x80)
    (h : b ∈ String.utf8EncodeChar c) : c = Char.ofNat b.toNat := by
  unfold String.utf8EncodeChar at h
  simp only at h
  split at h
  · rename_i hc
    obtain rfl := List.mem_singleton.1 h
    have hmod : c.val.toNat % 256 = c.val.toNat := Nat.mod_eq_of_lt (by omega)
    simp only [UInt8.toNat_ofNat', Nat.reducePow, hmod]
    exact (Char.ofNat_toNat c).symm
  · -- the octets of a longer sequence are not ASCII
    exfalso
    split at h
    · simp only [List.mem_cons, List.not_mem_nil, or_false] at h
      rcases h with rfl | rfl <;> simp at hb <;> omega
    · split at h
      · simp only [List.mem_cons, List.not_mem_nil, or_false] at h
        rcases h with rfl | rfl | rfl <;> simp at hb <;> omega
      · simp only [List.mem_cons, List.not_mem_nil, or_false] at h
        rcases h with rfl | rfl | rfl | rfl <;> simp at hb <;> omega

theorem asciiOctets_encodeChar (c : Char) :
    asciiOctets (String.utf8EncodeChar c) ≤ if c.toNat < 0x80 then 1 else 0 := by
  split
  · rename_i hc
    have hsize : c.utf8Size = 1 :=
      Char.utf8Size_eq_one_iff.2 (UInt32.le_iff_toNat_le.2 (Nat.le_of_lt_succ hc))
    refine (asciiOctets_le_length _).trans ?_
    rw [String.length_utf8EncodeChar, hsize]
  · rename_i hc
    refine Nat.le_of_eq (List.countP_eq_zero.2 fun b hmem hb => hc ?_)
    have hb : b.toNat < 0x80 := by simpa using hb
    rw [eq_of_mem_encodeChar hb hmem, toNat_ofNat_octet]
    exact hb

/-- In UTF-8, ASCII octets stand for ASCII characters only. -/
theorem asciiOctets_encode (t : Text) : asciiOctets (encode t) ≤ asciiCount t := by
  induction t with
  | nil => rfl
  | cons c t ih =>
    rw [encode, List.flatMap_cons, asciiOctets_append, asciiCount_cons]
    have hchar := asciiOctets_encodeChar c
    exact (Nat.add_comm _ _).trans_le (Nat.add_le_add ih hchar)

end Utf8

end Postroom
