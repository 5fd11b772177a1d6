import Postroom.Proofs.Transport.ListCommand

/-!
# Command lines that append to a mailbox

The command that appends a message has the encoded name of the mailbox between quotation marks, as
it is.  In the grammar a quotation mark ends what stands between them, and a backslash makes the
character behind it stand for itself.  So the line names the mailbox exactly when neither is in its
name: `Imap.appendsIfQuotable`.  What it names otherwise is what the encoded name means as a quoted
text: `Imap.isAppendCommand_iff`.
-/

namespace Postroom.Imap

/-! ## The grammar -/

/-- A flag as it is written: an atom, in front of which a backslash may stand. -/
def isFlagText : Text → Bool
  | '\\' :: name => !name.isEmpty && name.all isAtomChar
  | name => !name.isEmpty && name.all isAtomChar

/-- What is written of the flags of a message, which may be left out. -/
inductive FlagsText : Text → Prop
  | absent : FlagsText []
  | given {flags : List Text} (h : ∀ f ∈ flags, isFlagText f) :
      FlagsText (' ' :: '(' :: (Text.join [' '] flags ++ [')']))

/-- What is written of the date of a message, which may be left out.  Which texts are dates makes
no difference here, so that all quoted ones pass. -/
inductive DateText : Text → Prop
  | absent : DateText []
  | given {t v : Text} (h : QuotedText t v) : DateText (' ' :: '"' :: (t ++ ['"']))

/-- A numeral, and its number. -/
def IsNumeral (t : Text) (n : Nat) : Prop :=
  t ≠ [] ∧ (∀ c ∈ t, c.isDigit) ∧ Nat.ofDigitChars 10 t 0 = n

/-- The line is a command that appends a message of a size to the mailbox of a name. -/
def IsAppendCommand (line name : Text) (size : Nat) : Prop :=
  ∃ tag keyword mailbox flags date number, IsTag tag ∧ Text.sameName keyword "APPEND".toList ∧
    MailboxText mailbox name ∧ FlagsText flags ∧ DateText date ∧ IsNumeral number size ∧
    line = tag ++ ' ' :: (keyword ++ ' ' :: (mailbox ++ (flags ++ date) ++
      ' ' :: '{' :: (number ++ ['}'])))

/-! ## What has no quotation mark -/

theorem not_quote_of_isFlagText {t : Text} (h : isFlagText t = true) : '"' ∉ t := by
  have hatom : ∀ name : Text, name.all isAtomChar = true → '"' ∉ name := by
    intro name hname hmem
    exact absurd (List.all_eq_true.1 hname _ hmem) (by decide)
  unfold isFlagText at h
  split at h
  · simp only [Bool.and_eq_true] at h
    exact List.not_mem_cons_of_ne_of_not_mem (by decide) (hatom _ h.2)
  · simp only [Bool.and_eq_true] at h
    exact hatom _ h.2

theorem not_mem_join {c d : Char} {ts : List Text} (hd : c ≠ d) (h : ∀ t ∈ ts, c ∉ t) :
    c ∉ Text.join [d] ts := by
  cases ts with
  | nil => exact List.not_mem_nil
  | cons t ts =>
    obtain ⟨ht, hts⟩ := List.forall_mem_cons.1 h
    rw [Text.join_cons, List.mem_append, List.mem_flatMap]
    rintro (hmem | ⟨u, hu, hmem⟩)
    · exact ht hmem
    · rcases List.mem_cons.1 hmem with rfl | hmem
      · exact hd rfl
      · exact hts u hu hmem

/-! ## Quoted texts -/

/-- A mailbox that is written with a quotation mark in front is a quoted text. -/
theorem MailboxText.quoted_of_head {t v behind rest : Text} (h : MailboxText t v)
    (hhead : t ++ behind = '"' :: rest) : ∃ u, t = '"' :: (u ++ ['"']) ∧ QuotedText u v := by
  rcases h with h | ⟨hne, h⟩ | ⟨h⟩ | ⟨-, -⟩
  · cases t with
    | nil => cases h
    | cons c t =>
      obtain ⟨rfl, -⟩ := List.cons.inj hhead
      have hlower := (List.cons.inj (Text.sameName_iff.1 h)).1
      exact absurd hlower (by decide)
  · cases t with
    | nil => exact absurd rfl hne
    | cons c t =>
      obtain ⟨rfl, -⟩ := List.cons.inj hhead
      exact absurd (h _ List.mem_cons_self) (by decide)
  · exact ⟨_, rfl, h⟩
  · cases hhead

/-- The character may stand between quotation marks and stands for itself there. -/
def IsQuotedChar (c : Char) : Prop :=
  (0 < c.toNat ∧ c.toNat ≤ 0x7F) ∧ c ∉ ['\r', '\n', '"', '\\']

instance : DecidablePred IsQuotedChar :=
  fun c => inferInstanceAs
    (Decidable ((0 < c.toNat ∧ c.toNat ≤ 0x7F) ∧ c ∉ ['\r', '\n', '"', '\\']))

/-- Every backslash that makes a character stand for itself is missing from what a text means. -/
theorem QuotedText.isQuotedChar {t v : Text} (h : QuotedText t v) (hlength : v.length = t.length) :
    ∀ c ∈ t, IsQuotedChar c := by
  induction h with
  | nil => exact List.forall_mem_nil _
  | plain hascii hc h ih =>
    exact List.forall_mem_cons.2 ⟨⟨hascii, hc⟩, ih (Nat.succ.inj hlength)⟩
  | escaped hc h ih =>
    have hle := h.length_le
    simp only [List.length_cons] at hlength
    omega

/-- A quoted text means itself when all of its characters do. -/
theorem quotedText_self_iff {t : Text} : QuotedText t t ↔ ∀ c ∈ t, IsQuotedChar c := by
  constructor
  · exact fun h => h.isQuotedChar rfl
  · intro h
    induction t with
    | nil => exact .nil
    | cons c t ih =>
      obtain ⟨⟨hascii, hc⟩, ht⟩ := List.forall_mem_cons.1 h
      exact .plain hascii hc (ih ht)

theorem QuotedText.unique {t v v' : Text} (h : QuotedText t v) (h' : QuotedText t v') : v = v' := by
  induction h generalizing v' with
  | nil =>
    cases h'
    rfl
  | plain hascii hc h ih =>
    cases h' with
    | plain _ _ h' => rw [ih h']
    | escaped => exact absurd hc (by decide)
  | escaped hc h ih =>
    cases h' with
    | plain _ hc' _ => exact absurd hc' (by decide)
    | escaped _ h' => rw [ih h']

/-- The name of a mailbox holds no quotation mark and no backslash. -/
def IsQuotable (name : Text) : Prop :=
  ∀ c ∈ name, c ≠ '"' ∧ c ≠ '\\'

instance (name : Text) : Decidable (IsQuotable name) :=
  List.decidableBAll _ name

theorem isQuotedChar_iff_of_isPlain {c : Char} (h : MailboxName.isPlain c = true) :
    IsQuotedChar c ↔ c ≠ '"' ∧ c ≠ '\\' := by
  have hbounds : 0x20 ≤ c.toNat ∧ c.toNat ≤ 0x7F := by simpa [MailboxName.isPlain] using h
  have hcr : c ≠ '\r' := by rintro rfl; exact absurd hbounds.1 (by decide)
  have hlf : c ≠ '\n' := by rintro rfl; exact absurd hbounds.1 (by decide)
  simp only [IsQuotedChar, List.mem_cons, List.not_mem_nil, or_false, not_or, hcr, hlf,
    not_false_eq_true, true_and]
  exact and_iff_right ⟨by omega, hbounds.2⟩

/-- The encoded name of a mailbox means itself between quotation marks exactly when the name holds
none, and no backslash. -/
theorem quotedText_encode_iff (name : Text) :
    QuotedText (MailboxName.encode name) (MailboxName.encode name) ↔ IsQuotable name := by
  have hall : groupChars.all fun c => decide (IsQuotedChar c) := rfl
  have hgroup : ∀ c ∈ groupChars, IsQuotedChar c :=
    fun c hc => of_decide_eq_true (List.all_eq_true.1 hall c hc)
  have hspecial : ∀ c, c = '"' ∨ c = '\\' → MailboxName.isPlain c = true := by
    rintro c (rfl | rfl) <;> rfl
  rw [quotedText_self_iff]
  refine (forall_mem_encodeFrom hgroup [] name).trans (forall₂_congr fun c _ => ?_)
  constructor
  · intro h
    by_contra hc
    have hplain := hspecial c (by rwa [not_and_or, not_not, not_not] at hc)
    exact hc ((isQuotedChar_iff_of_isPlain hplain).1 (h hplain))
  · exact fun h hplain => (isQuotedChar_iff_of_isPlain hplain).2 h

/-! ## The line that is sent -/

theorem isFlagText_wire_of_mem_ofBitmask {mask : Bitmask} {f : TransportFlag}
    (h : f ∈ TransportFlag.ofBitmask mask) : isFlagText f.wire = true := by
  have hsystem : ∀ entry ∈ Flag.system,
      isFlagText (TransportFlag.ofMailboxFlag entry.1 entry.2.toList).wire = true := by
    decide +kernel
  rw [TransportFlag.ofBitmask, List.mem_eraseDups, List.mem_append] at h
  rcases h with h | h
  · rw [List.mem_ite_nil_right, List.mem_singleton] at h
    rw [h.2]
    rfl
  · obtain ⟨entry, hentry, hform⟩ := List.mem_filterMap.1 h
    rw [Option.ite_none_right_eq_some, Option.some_inj] at hform
    rw [← hform.2]
    exact hsystem entry hentry

theorem isNumeral_ofNat (n : Nat) : IsNumeral (Text.ofNat n) n :=
  ⟨Text.ofNat_ne_nil n, fun _ hc => Text.isDigit_of_mem_ofNat hc, Nat.ofDigitChars_ten_toDigits⟩

theorem IsNumeral.not_blank {t : Text} {n : Nat} (h : IsNumeral t n) : ' ' ∉ '{' :: (t ++ ['}']) := by
  intro hmem
  rcases List.mem_cons.1 hmem with hmem | hmem
  · exact absurd hmem (by decide)
  · rcases List.mem_append.1 hmem with hmem | hmem
    · exact absurd (h.2.1 _ hmem) (by decide)
    · exact absurd hmem (by decide)

/-- What is written behind the mailbox, and the flags in it. -/
theorem not_quote_of_flags {flags : List Text} (h : ∀ f ∈ flags, isFlagText f = true) :
    '"' ∉ ' ' :: '(' :: (Text.join [' '] flags ++ [')']) := by
  have hjoin : '"' ∉ Text.join [' '] flags :=
    not_mem_join (by decide) fun f hf => not_quote_of_isFlagText (h f hf)
  simpa using hjoin

/-- The parts of the line as the grammar has them. -/
theorem appendCommand_eq (folder : RemoteFolder) (flags : List TransportFlag) (size : ℕ) :
    appendCommand folder flags size = "APPEND".toList ++ ' ' ::
      ('"' :: (folder.id ++ ['"']) ++
        (' ' :: '(' :: (Text.join [' '] (flags.map TransportFlag.wire) ++ [')']) ++ []) ++
          ' ' :: '{' :: (Text.ofNat size ++ ['}'])) := by
  have hfront : "APPEND \"".toList = "APPEND".toList ++ [' ', '"'] := rfl
  unfold appendCommand
  rw [hfront]
  -- with the texts folded, only the brackets are left
  generalize "APPEND".toList = keyword
  generalize Text.join [' '] (flags.map TransportFlag.wire) = list
  simp

/-- **What the line names.**  It is read as a command that appends to a mailbox exactly when the
folder's name, as a quoted text, means the name of this mailbox. -/
theorem isAppendCommand_iff (n : ℕ) (folder : RemoteFolder) {flags : List TransportFlag}
    (hflags : ∀ f ∈ flags, isFlagText f.wire = true) (size : ℕ) (name : Text) :
    IsAppendCommand (tag n ++ ' ' :: appendCommand folder flags size) name size ↔
      QuotedText folder.id name := by
  have hwire : ∀ f ∈ flags.map TransportFlag.wire, isFlagText f = true :=
    List.forall_mem_map.2 hflags
  constructor
  · rintro ⟨tag', keyword, mailbox, options, date, number, htag, hkeyword, hmailbox, hoptions, hdate,
      hnumber, hline⟩
    -- the tag and the keyword are what stands before the first two blanks
    have hno : ' ' ∉ tag n := not_blank_of_isArgumentChar fun c hc => ((isTag_tag n).2 c hc).1
    have hno' : ' ' ∉ tag' := not_blank_of_isArgumentChar fun c hc => (htag.2 c hc).1
    rw [appendCommand_eq] at hline
    obtain ⟨-, hline⟩ := Text.eq_of_append_cons hno hno' hline
    obtain ⟨-, hline⟩ := Text.eq_of_append_cons (by decide)
      (not_blank_of_sameName hkeyword (by decide)) hline
    -- the number is what stands behind the last one
    obtain ⟨hline, -⟩ := Text.eq_of_append_cons_last (isNumeral_ofNat size).not_blank
      hnumber.not_blank hline
    obtain ⟨u, rfl, hquoted⟩ := hmailbox.quoted_of_head hline.symm
    generalize hlist : Text.join [' '] (flags.map TransportFlag.wire) = list at hline
    have hbehind : folder.id ++ '"' :: ' ' :: '(' :: (list ++ [')']) =
        u ++ '"' :: (options ++ date) := by simpa using hline
    -- it ends in a bracket, so that no date is written, but flags are
    have hend : ∀ front : Text, folder.id ++ '"' :: ' ' :: '(' :: list ++ [')'] ≠ front ++ ['"'] :=
      fun front h => absurd (List.append_inj' h rfl).2 (by decide)
    rcases hdate with _ | @⟨t, v, hdate⟩
    · rcases hoptions with _ | hfs
      · exact absurd (by simpa using hbehind) (hend u)
      · rw [List.append_nil] at hbehind
        obtain ⟨rfl, -⟩ := Text.eq_of_append_cons_last (hlist ▸ not_quote_of_flags hwire)
          (not_quote_of_flags hfs) hbehind
        exact hquoted
    · exact absurd (by simpa using hbehind) (hend (u ++ '"' :: (options ++ ' ' :: '"' :: t)))
  · intro h
    exact ⟨tag n, "APPEND".toList, '"' :: (folder.id ++ ['"']), _, [], Text.ofNat size, isTag_tag n,
      Text.sameName_refl _, .string (.quoted h), .given hwire, .absent, isNumeral_ofNat size,
      congrArg (tag n ++ ' ' :: ·) (appendCommand_eq folder flags size)⟩

/-- The line appends to the mailbox of this name, and to no other, if the name can stand between
quotation marks; if it cannot, the line does not append to this mailbox. -/
def AppendsIfQuotable (line name : Text) (size : Nat) : Prop :=
  (IsQuotable name → ∀ v, IsAppendCommand line v size ↔ v = MailboxName.encode name) ∧
    (¬ IsQuotable name → ¬ IsAppendCommand line (MailboxName.encode name) size)

/-- **The line names its mailbox, if the name can stand between quotation marks.** -/
theorem appendsIfQuotable (n : ℕ) {folder : RemoteFolder} {name : Text}
    (hid : folder.id = MailboxName.encode name) {flags : List TransportFlag}
    (hflags : ∀ f ∈ flags, isFlagText f.wire = true) (size : ℕ) :
    AppendsIfQuotable (tag n ++ ' ' :: appendCommand folder flags size) name size := by
  constructor
  · intro hname v
    have hself := (quotedText_encode_iff name).2 hname
    rw [isAppendCommand_iff n folder hflags, hid]
    exact ⟨fun h => h.unique hself, fun h => h ▸ hself⟩
  · intro hname
    rw [isAppendCommand_iff n folder hflags, hid]
    exact mt (quotedText_encode_iff name).1 hname

end Postroom.Imap
