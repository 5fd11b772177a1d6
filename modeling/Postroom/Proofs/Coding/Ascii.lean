import Postroom.Coding.Charset
import Postroom.Coding.QuotedPrintable
import Postroom.Proofs.Text.Ascii

/-!
# ASCII is not made up

No character set turns octets into more ASCII characters than there are ASCII octets, and no coding
of words turns a text into more ASCII octets than it has ASCII characters.  Other characters may
well be multiplied, as when octets in UTF-8 are read in a set of one octet a character, so that the
length of a text says nothing about what it was read from.
-/

namespace Postroom

open Text

/-! ## UTF-16 -/

namespace Utf16

theorem toNat_ofNat_unit {u : ℕ} (hu : u < 0x10000) (hhigh : isHigh u = false)
    (hlow : isLow u = false) : (Char.ofNat u).toNat = u := by
  refine toNat_ofNat_of_valid ?_
  simp only [isHigh, isLow, Bool.and_eq_false_iff, decide_eq_false_iff_not] at hhigh hlow
  unfold Nat.isValidChar
  omega

theorem toNat_pair {high low : ℕ} (hhigh : isHigh high = true) (hlow : isLow low = true) :
    0x80 ≤ (pair high low).toNat := by
  simp only [isHigh, isLow, Bool.and_eq_true, decide_eq_true_eq] at hhigh hlow
  rw [pair, toNat_ofNat_of_valid]
  · omega
  · unfold Nat.isValidChar
    omega

theorem asciiCount_replacement (t : Text) : asciiCount (replacement :: t) = asciiCount t :=
  asciiCount_cons_of_not_ascii (by decide) t

theorem asciiCount_ofUnitsFrom (high : Option ℕ) (h : ∀ v, high = some v → isHigh v = true)
    {us : List ℕ} (hus : ∀ u ∈ us, u < 0x10000) :
    asciiCount (ofUnitsFrom high us) ≤ us.countP (· < 0x80) := by
  induction us generalizing high with
  | nil => cases high <;> simp [ofUnitsFrom, asciiCount_replacement]
  | cons u rest ih =>
    have hrest : ∀ v ∈ rest, v < 0x10000 := fun v hv => hus v (List.mem_cons_of_mem _ hv)
    have hnone := ih none (by simp) hrest
    -- a unit that is no surrogate is the number of its character
    have hunit : isHigh u = false → isLow u = false →
        asciiCount (Char.ofNat u :: ofUnitsFrom none rest) ≤ (u :: rest).countP (· < 0x80) := by
      intro hhigh hlow
      rw [asciiCount_cons, toNat_ofNat_unit (hus u List.mem_cons_self) hhigh hlow,
        List.countP_cons]
      simpa using hnone
    have hopen : isHigh u = true →
        asciiCount (ofUnitsFrom (some u) rest) ≤ (u :: rest).countP (· < 0x80) := by
      intro hhigh
      refine (ih (some u) ?_ hrest).trans ((List.sublist_cons_self u rest).countP_le)
      rintro _ ⟨⟩
      exact hhigh
    have hlater : asciiCount (ofUnitsFrom none rest) ≤ (u :: rest).countP (· < 0x80) :=
      hnone.trans ((List.sublist_cons_self u rest).countP_le)
    cases high with
    | none =>
      simp only [ofUnitsFrom]
      split_ifs with hhigh hlow
      · exact hopen hhigh
      · rwa [asciiCount_replacement]
      · exact hunit (by simpa using hhigh) (by simpa using hlow)
    | some v =>
      simp only [ofUnitsFrom]
      split_ifs with hlow hhigh
      · rwa [asciiCount_cons_of_not_ascii (toNat_pair (h v rfl) hlow)]
      · rw [asciiCount_replacement]
        exact hopen hhigh
      · rw [asciiCount_replacement]
        exact hunit (by simpa using hhigh) (by simpa using hlow)

theorem asciiCount_text {read : List ℕ × Bool} (h : ∀ u ∈ read.1, u < 0x10000) :
    asciiCount (text read) ≤ read.1.countP (· < 0x80) := by
  have hunits := asciiCount_ofUnitsFrom none (by simp) h
  unfold text ofUnits
  simp only
  split
  · rwa [asciiCount_append, asciiCount_replacement]
  · exact hunits

/-- An ASCII unit is a zero octet and an ASCII octet. -/
theorem asciiOctets_unit (high low : UInt8) :
    high.toNat * 256 + low.toNat < 0x10000 ∧
      (if high.toNat * 256 + low.toNat < 0x80 then 1 else 0) ≤ asciiOctets [high, low] := by
  have hhigh := high.toNat_lt
  have hlow := low.toNat_lt
  refine ⟨by omega, ?_⟩
  simp only [asciiOctets_cons, asciiOctets_nil]
  split_ifs <;> omega

/-- One more unit in front of units that make no ASCII. -/
theorem units_cons (high low : UInt8) {us : List ℕ} {bytes : Octets}
    (h : (∀ u ∈ us, u < 0x10000) ∧ us.countP (· < 0x80) ≤ asciiOctets bytes) :
    (∀ u ∈ (high.toNat * 256 + low.toNat) :: us, u < 0x10000) ∧
      ((high.toNat * 256 + low.toNat) :: us).countP (· < 0x80) ≤
        asciiOctets (high :: low :: bytes) := by
  obtain ⟨hunit, hone⟩ := asciiOctets_unit high low
  refine ⟨List.forall_mem_cons.2 ⟨hunit, h.1⟩, ?_⟩
  rw [List.countP_cons, show high :: low :: bytes = [high, low] ++ bytes from rfl,
    asciiOctets_append, Nat.add_comm]
  exact Nat.add_le_add (by simpa using hone) h.2

theorem unitsBigEndian_spec (bytes : Octets) :
    (∀ u ∈ (unitsBigEndian bytes).1, u < 0x10000) ∧
      (unitsBigEndian bytes).1.countP (· < 0x80) ≤ asciiOctets bytes := by
  fun_induction unitsBigEndian bytes with
  | case1 a b rest us odd hunits ih =>
    rw [hunits] at ih
    exact units_cons a b ih
  | case2 | case3 => simp

theorem unitsLittleEndian_spec (bytes : Octets) :
    (∀ u ∈ (unitsLittleEndian bytes).1, u < 0x10000) ∧
      (unitsLittleEndian bytes).1.countP (· < 0x80) ≤ asciiOctets bytes := by
  fun_induction unitsLittleEndian bytes with
  | case1 a b rest us odd hunits ih =>
    have hswap : asciiOctets (b :: a :: rest) = asciiOctets (a :: b :: rest) := by
      simp only [asciiOctets_cons]
      omega
    rw [hunits] at ih
    exact hswap ▸ units_cons b a ih
  | case2 | case3 => simp

theorem asciiCount_decodeBigEndian (bytes : Octets) :
    asciiCount (decodeBigEndian bytes) ≤ asciiOctets bytes :=
  (asciiCount_text (unitsBigEndian_spec bytes).1).trans (unitsBigEndian_spec bytes).2

theorem asciiCount_decodeLittleEndian (bytes : Octets) :
    asciiCount (decodeLittleEndian bytes) ≤ asciiOctets bytes :=
  (asciiCount_text (unitsLittleEndian_spec bytes).1).trans (unitsLittleEndian_spec bytes).2

end Utf16

/-! ## Sets of one octet a character -/

namespace CodePage

/-- The upper half of the set holds no ASCII character. -/
def IsWide (page : CodePage) : Prop :=
  ∀ c ∈ page.upper.toList, 0x80 ≤ c.toNat

/-- Rows of a table without ASCII characters, each taken apart once. -/
inductive WideRows : List String → Prop
  | nil : WideRows []
  | cons (row : Text) {rows : List String} (h : row.all (0x80 ≤ ·.toNat) = true)
      (hrows : WideRows rows) : WideRows (String.ofList row :: rows)

theorem WideRows.mem {rows : List String} (h : WideRows rows) :
    ∀ c ∈ rows.flatMap String.toList, 0x80 ≤ c.toNat := by
  induction h with
  | nil => simp
  | cons row h hrows ih =>
    rw [List.flatMap_cons, String.toList_ofList]
    intro c hc
    rcases List.mem_append.1 hc with hc | hc
    · simpa using List.all_eq_true.1 h c hc
    · exact ih c hc

theorem WideRows.isWide_ofUpper {rows : List String} (h : WideRows rows) : (ofUpper rows).IsWide :=
  h.mem

theorem WideRows.isWide_ofPrintable {rows : List String} (h : WideRows rows) :
    (ofPrintable rows).IsWide := by
  intro c hc
  rcases List.mem_append.1 hc with hc | hc
  · obtain ⟨n, hn, rfl⟩ := List.mem_map.1 hc
    have hlt := List.mem_range.1 hn
    rw [toNat_ofNat_of_valid (Or.inl (by omega))]
    omega
  · exact h.mem c hc

theorem isWide_userDefined : userDefined.IsWide := by
  intro c hc
  obtain ⟨n, hn, rfl⟩ := List.mem_map.1 hc
  have hlt := List.mem_range.1 hn
  rw [toNat_ofNat_of_valid (Or.inr (by omega))]
  omega

theorem IsWide.toNat_char {page : CodePage} (h : page.IsWide) (b : UInt8) :
    (page.char b).toNat < 0x80 ↔ b.toNat < 0x80 := by
  unfold char
  split
  · rw [toNat_ofNat_octet]
  · rename_i hb
    refine iff_of_false ?_ (by simpa [UInt8.lt_iff_toNat_lt] using hb)
    rw [Array.getD_eq_getD_getElem?]
    cases hget : page.upper[b.toNat - 0x80]? with
    | none => decide
    | some c => simpa using h c (Array.mem_toList_iff.2 (Array.mem_of_getElem? hget))

theorem asciiCount_decode {page : CodePage} (h : page.IsWide) (bytes : Octets) :
    asciiCount (page.decode bytes) = asciiOctets bytes := by
  rw [asciiCount, decode, List.countP_map]
  exact List.countP_congr fun b _ => by simp [h.toNat_char]

end CodePage

/-- Every known set of one octet a character extends ASCII. -/
def Charset.IsWide : Charset → Prop
  | codePage page => page.IsWide
  | utf8 | utf7 | utf16be | utf16le => True

theorem isWide_of_mem_labels : ∀ entry ∈ Charset.labels, entry.1.IsWide := by
  simp only [Charset.labels, List.forall_mem_cons]
  repeat' apply And.intro
  all_goals first
    | exact trivial
    | exact CodePage.isWide_userDefined
    | exact CodePage.WideRows.isWide_ofUpper (by repeat' constructor)
    | exact CodePage.WideRows.isWide_ofPrintable (by repeat' constructor)
    | exact List.forall_mem_nil _

/-! ## Base64 and UTF-7 -/

namespace Base64

/-- The number of base64 digits. -/
def digitCount (t : Text) : ℕ :=
  t.countP fun c => (value? c).isSome

theorem isAscii_of_value? {c : Char} (h : (value? c).isSome = true) : c.toNat < 0x80 := by
  have hle : ∀ d : Char, c ≤ d → c.toNat ≤ d.toNat := fun d h => UInt32.le_iff_toNat_le.1 h
  unfold value? at h
  simp only at h
  split at h
  · rename_i hc
    exact Nat.lt_of_le_of_lt (hle _ hc.2) (by decide)
  · split at h
    · rename_i hc
      exact Nat.lt_of_le_of_lt (hle _ hc.2) (by decide)
    · split at h
      · rename_i hc
        exact Nat.lt_of_le_of_lt (hle _ hc.2) (by decide)
      · split at h
        · rename_i hc
          rw [hc]
          decide
        · split at h
          · rename_i hc
            rw [hc]
            decide
          · cases h

theorem digitCount_le_asciiCount (t : Text) : digitCount t ≤ asciiCount t :=
  List.countP_mono_left fun c _ h => by simpa using isAscii_of_value? h

theorem digitCount_le_length (t : Text) : digitCount t ≤ t.length :=
  List.countP_le_length

/-- A group has no more octets than digits. -/
theorem length_group? {a b c d : Char} {bytes : Octets} (h : group? a b c d = some bytes) :
    bytes.length ≤ digitCount [a, b, c, d] := by
  unfold group? at h
  obtain ⟨x, ha, h⟩ := Option.bind_eq_some_iff.1 h
  obtain ⟨y, hb, h⟩ := Option.bind_eq_some_iff.1 h
  split at h
  · split at h
    · cases h
      simp [digitCount, List.countP_cons, ha, hb]
    · cases h
  · obtain ⟨z, hc, h⟩ := Option.bind_eq_some_iff.1 h
    split at h
    · split at h
      · cases h
        simp [digitCount, List.countP_cons, ha, hb, hc]
      · cases h
    · obtain ⟨w, hd, h⟩ := Option.bind_eq_some_iff.1 h
      cases h
      simp [digitCount, ha, hb, hc, hd]

theorem length_decode? {t : Text} {bytes : Octets} (h : decode? t = some bytes) :
    bytes.length ≤ digitCount t := by
  fun_induction decode? t generalizing bytes with
  | case1 =>
    cases h
    simp
  | case2 a b c d rest ih =>
    obtain ⟨head, hhead, h⟩ := Option.bind_eq_some_iff.1 h
    obtain ⟨tail, htail, h⟩ := Option.bind_eq_some_iff.1 h
    cases h
    rw [show a :: b :: c :: d :: rest = [a, b, c, d] ++ rest from rfl, digitCount,
      List.countP_append, List.length_append]
    exact Nat.add_le_add (length_group? hhead) (ih htail)
  | case3 => cases h

theorem length_decodeLines? {t : Text} {bytes : Octets} (h : decodeLines? t = some bytes) :
    bytes.length ≤ asciiCount t :=
  calc bytes.length
    _ ≤ digitCount (t.filter fun c => c ≠ '\r' ∧ c ≠ '\n') := length_decode? h
    _ ≤ asciiCount (t.filter fun c => c ≠ '\r' ∧ c ≠ '\n') := digitCount_le_asciiCount _
    _ ≤ asciiCount t := asciiCount_le_of_sublist List.filter_sublist

end Base64

namespace Utf7

theorem length_octets (digits : Text) : (octets digits).1.length ≤ digits.length := by
  fun_induction octets digits with
  | case1 a b c d rest ih =>
    have hhead : ((Base64.group? a b c d).getD []).length ≤ 4 := by
      cases hgroup : Base64.group? a b c d with
      | none => simp
      | some bytes => exact (Base64.length_group? hgroup).trans (Base64.digitCount_le_length _)
    simp only [List.length_append, List.length_cons]
    omega
  | case2 => simp
  | case3 short _ _ bytes hbytes =>
    have hpad : Base64.digitCount (List.replicate (4 - short.length) '=') = 0 := by
      simp [Base64.digitCount, List.countP_replicate, Base64.value?]
    calc bytes.length
      _ ≤ Base64.digitCount (short ++ List.replicate (4 - short.length) '=') :=
        Base64.length_decode? hbytes
      _ = Base64.digitCount short := by
        rw [Base64.digitCount, List.countP_append, ← Base64.digitCount, ← Base64.digitCount, hpad,
          Nat.add_zero]
      _ ≤ short.length := Base64.digitCount_le_length short
  | case4 => simp

theorem asciiCount_stretchText (digits : Text) :
    asciiCount (stretchText digits) ≤ digits.length := by
  have hbytes : asciiCount (Utf16.decodeBigEndian (octets digits).1) ≤ digits.length :=
    calc asciiCount (Utf16.decodeBigEndian (octets digits).1)
      _ ≤ asciiOctets (octets digits).1 := Utf16.asciiCount_decodeBigEndian _
      _ ≤ (octets digits).1.length := asciiOctets_le_length _
      _ ≤ digits.length := length_octets digits
  unfold stretchText
  simp only [asciiCount_append]
  split
  · exact hbytes
  · rwa [Utf16.asciiCount_replacement]

/-- What a stretch comes to where it ends, if it holds digits. -/
theorem asciiCount_ended (digits short : Text) :
    asciiCount (if digits.isEmpty then short else stretchText digits.reverse) ≤
      asciiCount short + digits.length := by
  have hstretch := asciiCount_stretchText digits.reverse
  rw [List.length_reverse] at hstretch
  split <;> omega

/-- The digits of the stretch that is open in front are counted with the octets. -/
theorem asciiCount_decodeFrom (stretch : Option Text) (bytes : Octets) :
    asciiCount (decodeFrom stretch bytes) ≤
      (stretch.map List.length).getD 0 + asciiOctets bytes := by
  induction bytes generalizing stretch with
  | nil =>
    cases stretch with
    | none => simp [decodeFrom]
    | some digits =>
      cases digits with
      | nil => exact Nat.le_of_eq (Utf16.asciiCount_replacement [])
      | cons c digits => simpa [decodeFrom] using asciiCount_stretchText (c :: digits).reverse
  | cons b rest ih =>
    have hascii : ∀ c : Char, Char.ofNat b.toNat = c → c.toNat < 0x80 → b.toNat < 0x80 := by
      rintro _ rfl h
      rwa [toNat_ofNat_octet] at h
    have hnone := ih none
    simp only [Option.map_none, Option.getD_none, Nat.zero_add] at hnone
    -- an octet that is shown for itself
    have hshown : asciiCount (if b < 0x80 then [Char.ofNat b.toNat] else [Utf16.replacement]) ≤
        if b.toNat < 0x80 then 1 else 0 := by
      simp only [UInt8.lt_iff_toNat_lt, UInt8.reduceToNat]
      split
      · exact asciiCount_cons_le _ []
      · exact Nat.le_of_eq (Utf16.asciiCount_replacement [])
    rw [asciiOctets_cons]
    cases stretch with
    | none =>
      simp only [decodeFrom, Option.map_none, Option.getD_none, Nat.zero_add]
      by_cases hplus : Char.ofNat b.toNat = '+'
      · rw [if_pos hplus]
        exact Nat.le_add_right_of_le (by simpa using ih (some []))
      · have hone : (if b < 0x80 then Char.ofNat b.toNat :: decodeFrom none rest
            else Utf16.replacement :: decodeFrom none rest) =
            (if b < 0x80 then [Char.ofNat b.toNat] else [Utf16.replacement]) ++
              decodeFrom none rest := by
          split <;> rfl
        rw [if_neg hplus, hone, asciiCount_append]
        omega
    | some digits =>
      simp only [decodeFrom, Option.map_some, Option.getD_some]
      by_cases hdigit : (Base64.value? (Char.ofNat b.toNat)).isSome = true
      · have hmore := ih (some (Char.ofNat b.toNat :: digits))
        simp only [Option.map_some, Option.getD_some, List.length_cons] at hmore
        rw [if_pos hdigit, if_pos (hascii _ rfl (Base64.isAscii_of_value? hdigit))]
        omega
      · rw [if_neg hdigit]
        by_cases hminus : Char.ofNat b.toNat = '-'
        · have hended := asciiCount_ended digits ['+']
          have hsign : asciiCount ['+'] = 1 := rfl
          rw [if_pos hminus, if_pos (hascii _ hminus (by decide)), asciiCount_append]
          omega
        · have hended := asciiCount_ended digits [Utf16.replacement]
          have hsign : asciiCount [Utf16.replacement] = 0 := rfl
          rw [if_neg hminus, asciiCount_append, asciiCount_append]
          omega

end Utf7

theorem Charset.asciiCount_decode {set : Charset} (h : set.IsWide) (bytes : Octets) :
    asciiCount (set.decode bytes) ≤ asciiOctets bytes := by
  cases set with
  | utf8 => exact Utf8.asciiCount_decodeLossy bytes
  | utf7 => simpa [decode, Utf7.decode] using Utf7.asciiCount_decodeFrom none bytes
  | utf16be => exact Utf16.asciiCount_decodeBigEndian bytes
  | utf16le => exact Utf16.asciiCount_decodeLittleEndian bytes
  | codePage page => exact (CodePage.asciiCount_decode h bytes).le

/-! ## Quoted-printable -/

namespace QuotedPrintable

theorem asciiOctets_decodeLine (t : Text) : asciiOctets (decodeLine t) ≤ asciiCount t := by
  have hencode := Utf8.asciiOctets_encode
  fun_induction decodeLine t with
  | case1 => simp
  | case2 => simp
  | case3 c => exact hencode ['=', c]
  | case4 a b rest x y hx hy ih =>
    have hequals : asciiCount ('=' :: a :: b :: rest) = asciiCount (a :: b :: rest) + 1 :=
      asciiCount_cons '=' _
    have hrest : asciiCount rest ≤ asciiCount (a :: b :: rest) :=
      asciiCount_le_of_sublist (List.sublist_append_right [a, b] rest)
    rw [asciiOctets_cons, hequals]
    split <;> omega
  | case5 a b rest _ ih =>
    rw [show '=' :: a :: b :: rest = ['=', a, b] ++ rest from rfl, asciiOctets_append,
      asciiCount_append]
    exact Nat.add_le_add (hencode _) ih
  | case6 c rest _ _ _ ih =>
    rw [show c :: rest = [c] ++ rest from rfl, asciiOctets_append, asciiCount_append]
    exact Nat.add_le_add (hencode _) ih

theorem asciiOctets_decode (line : Text) : asciiOctets (decode line) ≤ asciiCount line :=
  calc asciiOctets (decode line)
    _ ≤ asciiCount (Text.trimEnd (line.filter isAllowed)) := asciiOctets_decodeLine _
    _ ≤ asciiCount (line.filter isAllowed) := asciiCount_le_of_sublist (trimEnd_sublist _)
    _ ≤ asciiCount line := asciiCount_le_of_sublist List.filter_sublist

theorem asciiOctets_decodeWord (word : Text) :
    asciiOctets (decodeWord word) ≤ asciiCount word := by
  have hspaced : asciiCount (word.map fun c => if c = '_' then ' ' else c) = asciiCount word := by
    rw [asciiCount, List.countP_map]
    refine List.countP_congr fun c _ => ?_
    by_cases hc : c = '_' <;> simp [hc]
  unfold decodeWord
  simp only [asciiOctets_append]
  rw [← hspaced]
  generalize (word.map fun c => if c = '_' then ' ' else c) = spaced
  calc asciiOctets (decode (Text.trimEnd spaced)) +
        asciiOctets (Utf8.encode (Text.trailingBlanks spaced))
    _ ≤ asciiCount (Text.trimEnd spaced) + asciiCount (Text.trailingBlanks spaced) :=
      Nat.add_le_add (asciiOctets_decode _) (Utf8.asciiOctets_encode _)
    _ = asciiCount spaced := by
      rw [← asciiCount_append, Text.trimEnd_append_trailingBlanks]

end QuotedPrintable

end Postroom
