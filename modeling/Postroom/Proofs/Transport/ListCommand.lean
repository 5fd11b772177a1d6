import Mathlib.Data.Bool.AllAny
import Mathlib.Data.List.Basic
import Postroom.Proofs.Transport.Wire

/-!
# Command lines that list one mailbox

The grammar of command lines lets a mailbox be named by an atom, by a quoted string or by a literal;
an atom may not hold blanks, quotation marks, brackets and a few more.  The connector writes the
encoded name of a mailbox as it is.  So the line is a command that lists this mailbox exactly when
the name is an atom: `Imap.connector_lists_iff`.

The encoding itself is never in the way.  What it writes for a stretch of other characters is made
of characters that an atom may hold, and all that remains is the printable ones, which stand for
themselves.
-/

namespace Postroom

/-- Texts that are cut at the same character in front of which it does not stand are cut alike. -/
theorem Text.eq_of_append_cons {a b s t : Text} {d : Char} (ha : d ∉ a) (hb : d ∉ b)
    (h : a ++ d :: s = b ++ d :: t) : a = b ∧ s = t := by
  induction a generalizing b with
  | nil =>
    cases b with
    | nil => exact ⟨rfl, (List.cons.inj h).2⟩
    | cons c b => exact absurd (List.cons.inj h).1 (List.ne_of_not_mem_cons hb)
  | cons c a ih =>
    cases b with
    | nil => exact absurd (List.cons.inj h).1.symm (List.ne_of_not_mem_cons ha)
    | cons c' b =>
      obtain ⟨rfl, htail⟩ := List.cons.inj h
      obtain ⟨rfl, hrest⟩ := ih (List.not_mem_of_not_mem_cons ha)
        (List.not_mem_of_not_mem_cons hb) htail
      exact ⟨rfl, hrest⟩

namespace Imap

variable {ρ : Type}

/-! ## The grammar -/

/-- The character may stand in an atom: it is in ASCII, no control character, and has no meaning of
its own. -/
def isAtomChar (c : Char) : Bool :=
  0x20 < c.toNat && c.toNat < 0x7F && c ∉ ['(', ')', '{', '%', '*', '"', '\\', ']']

/-- The character may stand in an argument that is no string. -/
def isArgumentChar (c : Char) : Bool :=
  isAtomChar c || c == ']'

/-- The character may stand in the name of listed mailboxes, where two of them are wildcards. -/
def isListChar (c : Char) : Bool :=
  isArgumentChar c || c == '%' || c == '*'

/-- What stands between quotation marks, and what it means. -/
inductive QuotedText : Text → Text → Prop
  | nil : QuotedText [] []
  | plain {c : Char} {t v : Text} (hascii : 0 < c.toNat ∧ c.toNat ≤ 0x7F)
    (hc : c ∉ ['\r', '\n', '"', '\\']) (h : QuotedText t v) : QuotedText (c :: t) (c :: v)
  | escaped {c : Char} {t v : Text} (hc : c = '"' ∨ c = '\\') (h : QuotedText t v) :
    QuotedText ('\\' :: c :: t) (c :: v)

/-- A string, between quotation marks or behind the number of its characters, and what it means. -/
inductive StringText : Text → Text → Prop
  | quoted {t v : Text} (h : QuotedText t v) : StringText ('"' :: (t ++ ['"'])) v
  | literal {digits v : Text} (hdigits : Text.toNat? digits = some v.length)
    (hv : ∀ c ∈ v, 0 < c.toNat ∧ c.toNat ≤ 0xFF) :
    StringText ('{' :: (digits ++ ['}', '\r', '\n'] ++ v)) v

/-- The name of a mailbox as it is written, and the name. -/
inductive MailboxText : Text → Text → Prop
  | inbox {t : Text} (h : Text.sameName t "INBOX".toList) : MailboxText t "INBOX".toList
  | atom {v : Text} (hne : v ≠ []) (h : ∀ c ∈ v, isArgumentChar c) : MailboxText v v
  | string {t v : Text} (h : StringText t v) : MailboxText t v

/-- The name of listed mailboxes as it is written, and the name. -/
inductive ListedText : Text → Text → Prop
  | atom {v : Text} (hne : v ≠ []) (h : ∀ c ∈ v, isListChar c) : ListedText v v
  | string {t v : Text} (h : StringText t v) : ListedText t v

/-- What a command begins with. -/
def IsTag (t : Text) : Prop :=
  t ≠ [] ∧ ∀ c ∈ t, isArgumentChar c ∧ c ≠ '+'

/-- The line is a command that lists the mailboxes of a name under a reference. -/
def IsListCommand (line reference name : Text) : Prop :=
  ∃ tag keyword first second, IsTag tag ∧ Text.sameName keyword "LIST".toList ∧
    MailboxText first reference ∧ ListedText second name ∧
    line = tag ++ ' ' :: (keyword ++ ' ' :: (first ++ ' ' :: second))

/-! ## Strings mean less than they show -/

theorem QuotedText.length_le {t v : Text} (h : QuotedText t v) : v.length ≤ t.length := by
  induction h with
  | nil => exact Nat.le_refl _
  | plain _ _ _ ih => exact Nat.succ_le_succ ih
  | escaped _ _ ih => exact Nat.le_succ_of_le (Nat.succ_le_succ ih)

theorem StringText.length_lt {t v : Text} (h : StringText t v) : v.length < t.length := by
  cases h with
  | quoted h =>
    have hle := h.length_le
    rw [List.length_cons, List.length_append]
    omega
  | literal =>
    rw [List.length_cons, List.length_append]
    omega

/-- Only an atom is written as what it means. -/
theorem listedText_self_iff {v : Text} : ListedText v v ↔ v ≠ [] ∧ ∀ c ∈ v, isListChar c := by
  constructor
  · rintro (⟨hne, h⟩ | h)
    · exact ⟨hne, h⟩
    · exact absurd h.length_lt (Nat.lt_irrefl _)
  · exact fun ⟨hne, h⟩ => .atom hne h

/-- The empty name is written as a string: between quotation marks, unless as a literal. -/
theorem MailboxText.of_empty {t : Text} (h : MailboxText t []) :
    t = ['"', '"'] ∨ t.head? = some '{' := by
  rcases h with _ | ⟨hne, -⟩ | h
  · exact absurd rfl hne
  · rcases h with ⟨⟨⟩⟩ | _
    · exact .inl rfl
    · exact .inr rfl

/-! ## The line that is sent -/

/-- What holds of the characters up to a number holds of every character up to it. -/
theorem of_toNat_lt {P : Char → Prop} {bound : ℕ} (h : ∀ n < bound, P (Char.ofNat n)) {c : Char}
    (hc : c.toNat < bound) : P c :=
  Char.ofNat_toNat c ▸ h c.toNat hc

theorem isArgumentChar_of_isDigit {c : Char} (h : c.isDigit = true) :
    isArgumentChar c ∧ c ≠ '+' := by
  have hlt : c.toNat < 0x3A := by
    simp only [Char.isDigit, Bool.and_eq_true, decide_eq_true_eq] at h
    exact Nat.lt_succ_of_le h.2
  revert h
  exact of_toNat_lt (P := fun c => c.isDigit = true → isArgumentChar c ∧ c ≠ '+') (by decide) hlt

theorem isTag_tag (n : ℕ) : IsTag (tag n) := by
  refine ⟨List.cons_ne_nil _ _, List.forall_mem_cons.2 ⟨by decide, ?_⟩⟩
  intro c hc
  exact isArgumentChar_of_isDigit (Nat.isDigit_of_mem_toDigits (by decide) (by decide) hc)

theorem not_blank_of_isArgumentChar {t : Text} (h : ∀ c ∈ t, isArgumentChar c) : ' ' ∉ t :=
  fun hmem => absurd (h ' ' hmem) (by decide)

/-- A keyword is one word, however it is spelled. -/
theorem not_blank_of_sameName {t keyword : Text} (h : Text.sameName t keyword)
    (hkeyword : ' ' ∉ keyword.map Char.toLower) : ' ' ∉ t := by
  intro hmem
  have hlower : ' '.toLower ∈ t.map Char.toLower := List.mem_map_of_mem hmem
  rw [Text.sameName_iff.1 h] at hlower
  exact hkeyword hlower

theorem isListCommand_iff (n : ℕ) (encoded : Text) :
    IsListCommand (tag n ++ ' ' :: listCommand encoded) [] encoded ↔
      encoded ≠ [] ∧ ∀ c ∈ encoded, isListChar c := by
  have hcommand : listCommand encoded =
      "LIST".toList ++ ' ' :: (['"', '"'] ++ ' ' :: encoded) := rfl
  rw [← listedText_self_iff]
  constructor
  · rintro ⟨tag', keyword, first, second, htag, hkeyword, hfirst, hsecond, hline⟩
    have hno : ' ' ∉ tag n := not_blank_of_isArgumentChar fun c hc => ((isTag_tag n).2 c hc).1
    have hno' : ' ' ∉ tag' := not_blank_of_isArgumentChar fun c hc => (htag.2 c hc).1
    rw [hcommand] at hline
    obtain ⟨-, hline⟩ := Text.eq_of_append_cons hno hno' hline
    obtain ⟨-, hline⟩ := Text.eq_of_append_cons (by decide)
      (not_blank_of_sameName hkeyword (by decide)) hline
    rcases hfirst.of_empty with rfl | hhead
    · obtain ⟨-, rfl⟩ := Text.eq_of_append_cons (by decide) (by decide) hline
      exact hsecond
    · obtain ⟨first, rfl⟩ := List.head?_eq_some_iff.1 hhead
      cases hline
  · intro h
    exact ⟨tag n, "LIST".toList, ['"', '"'], encoded, isTag_tag n, Text.sameName_refl _,
      .string (.quoted .nil), h, by rw [hcommand]⟩

/-! ## The encoded name -/

/-- The characters that stand for themselves in an encoded name, but not in a command line. -/
def reserved : Text :=
  [' ', '"', '(', ')', '\\', '{', '\x7f']

/-- The name of a mailbox can be written as an atom. -/
def IsListable (name : Text) : Prop :=
  name ≠ [] ∧ ∀ c ∈ name, c ∉ reserved

theorem isListChar_iff_of_isPlain {c : Char} (h : MailboxName.isPlain c = true) :
    isListChar c = true ↔ c ∉ reserved := by
  have hlt : c.toNat < 0x80 := by
    simp only [MailboxName.isPlain, Bool.and_eq_true, decide_eq_true_eq] at h
    exact Nat.lt_succ_of_le h.2
  revert h
  exact of_toNat_lt (P := fun c => MailboxName.isPlain c = true →
    (isListChar c = true ↔ c ∉ reserved)) (by decide) hlt

/-- The characters that an encoded name can hold besides those that stand for themselves. -/
def groupChars : Text :=
  '&' :: '-' :: ',' :: Base64.alphabet

theorem mem_groupChars_of_mem_group {stretch : Text} {c : Char}
    (h : c ∈ MailboxName.group stretch) : c ∈ groupChars := by
  have hdigit : ∀ bytes, ∀ d ∈ Base64.encode bytes, d ∈ groupChars ∨ d = '=' :=
    forall_mem_base64 (fun d hd => Or.inl (List.mem_cons_of_mem _ (List.mem_cons_of_mem _
      (List.mem_cons_of_mem _ hd)))) (Or.inr rfl)
  unfold MailboxName.group at h
  rcases List.mem_cons.1 h with rfl | h
  · decide
  · rcases List.mem_append.1 h with h | h
    · obtain ⟨d, hd, rfl⟩ := List.mem_map.1 h
      obtain ⟨hd, hpad⟩ := List.mem_filter.1 hd
      split
      · decide
      · exact (hdigit _ d hd).resolve_right (by simpa using hpad)
    · obtain rfl := List.mem_singleton.1 h
      decide

theorem mem_groupChars_of_mem_flush {stretch : Text} {c : Char}
    (h : c ∈ MailboxName.flush stretch) : c ∈ groupChars := by
  unfold MailboxName.flush at h
  split at h
  · cases h
  · exact mem_groupChars_of_mem_group h

/-- Of the characters of a name only those that stand for themselves matter. -/
theorem forall_mem_encodeFrom {P : Char → Prop} (hP : ∀ c ∈ groupChars, P c)
    (stretch name : Text) :
    (∀ c ∈ MailboxName.encodeFrom stretch name, P c) ↔
      ∀ c ∈ name, MailboxName.isPlain c → P c := by
  have hflush : ∀ stretch, ∀ c ∈ MailboxName.flush stretch, P c :=
    fun stretch c hc => hP c (mem_groupChars_of_mem_flush hc)
  induction name generalizing stretch with
  | nil => simpa [MailboxName.encodeFrom] using hflush stretch
  | cons c name ih =>
    unfold MailboxName.encodeFrom
    split
    · rename_i hplain
      have hself : (∀ d ∈ if c = '&' then ['&', '-'] else [c], P d) ↔ P c := by
        split
        · rename_i hc
          subst hc
          have hsubset : ['&', '-'] ⊆ groupChars := by decide
          have hmarks : ∀ d ∈ ['&', '-'], P d := fun d hd => hP d (hsubset hd)
          exact iff_of_true hmarks (hmarks _ List.mem_cons_self)
        · exact List.forall_mem_singleton
      rw [List.forall_mem_append, List.forall_mem_append, List.forall_mem_cons, hself]
      exact ⟨fun h => ⟨fun _ => h.1.2, (ih []).1 h.2⟩,
        fun h => ⟨⟨hflush stretch, h.1 hplain⟩, (ih []).2 h.2⟩⟩
    · rename_i hplain
      rw [List.forall_mem_cons]
      exact (ih (c :: stretch)).trans ⟨fun h => ⟨fun hc => absurd hc hplain, h⟩, And.right⟩

theorem encodeFrom_eq_nil_iff (stretch name : Text) :
    MailboxName.encodeFrom stretch name = [] ↔ stretch = [] ∧ name = [] := by
  induction name generalizing stretch with
  | nil => cases stretch <;> simp [MailboxName.encodeFrom, MailboxName.flush, MailboxName.group]
  | cons c name ih =>
    unfold MailboxName.encodeFrom
    split
    · split <;> simp
    · simp [ih]

theorem isListable_iff (name : Text) :
    (MailboxName.encode name ≠ [] ∧ ∀ c ∈ MailboxName.encode name, isListChar c) ↔
      IsListable name := by
  have hreserved : ∀ c ∈ reserved, MailboxName.isPlain c = true := List.all_iff_forall_prop.1 rfl
  refine and_congr (not_congr ((encodeFrom_eq_nil_iff [] name).trans (and_iff_right rfl))) ?_
  have hgroup : ∀ c ∈ groupChars, isListChar c := List.all_iff_forall_prop.1 rfl
  refine (forall_mem_encodeFrom hgroup [] name).trans (forall₂_congr fun c _ => ?_)
  constructor
  · intro h hmem
    exact (isListChar_iff_of_isPlain (hreserved c hmem)).1 (h (hreserved c hmem)) hmem
  · intro h hplain
    exact (isListChar_iff_of_isPlain hplain).2 h

/-- Between the two records one line has been sent, and it is a command that lists the mailbox of
this name, and no other, exactly when the name can be written as an atom. -/
def ListsIfListable (before after : List Exchange) (name : Text) : Prop :=
  ∃ e, after = before ++ [e] ∧
    (IsListCommand e.line [] (MailboxName.encode name) ↔ IsListable name)

theorem findMailbox_lists (s : Server ρ) (name : Text) (session : Session)
    (w : List Exchange × ρ) :
    ListsIfListable w.1 (findMailbox s.recorded name session w).2.2.1 name := by
  obtain ⟨added, hadded, n, lines, rfl, -⟩ := looksUp_findMailbox s name session w
  refine ⟨_, hadded, ?_⟩
  rw [exchange, isListCommand_iff, isListable_iff]

/-- **A look-up lists exactly its mailbox, if its name can be written as an atom.** -/
theorem connector_lists_iff (c : ImapConfig) (s : Server ρ)
    (runner : CommandRunner (List Exchange × ρ)) (session : Session) (w : List Exchange × ρ) :
    (∀ item name, c.mount? item = some name → ListsIfListable w.1
      ((connector c s.recorded runner).folder item session w).2.2.1 name) ∧
    ∀ parent path, ListsIfListable w.1
      ((connector c s.recorded runner).subfolder parent path session w).2.2.1
      (mailboxName parent path) := by
  constructor
  · intro item name hmount
    show ListsIfListable w.1 (findMounted c s.recorded item session w).2.2.1 name
    rw [findMounted, hmount]
    exact findMailbox_lists s name session w
  · exact fun parent path => findMailbox_lists s (mailboxName parent path) session w

/-- The line for a mailbox whose name holds a blank is not a command that lists it. -/
theorem blank_not_listed : ¬ ∀ (n : ℕ) (name : Text),
    IsListCommand (tag n ++ ' ' :: listCommand (MailboxName.encode name)) []
      (MailboxName.encode name) := by
  intro h
  have hlistable := (isListable_iff _).1 ((isListCommand_iff 2 _).1 (h 2 "My Folder".toList))
  exact absurd (hlistable.2 ' ' (by decide)) (by decide)

end Imap

end Postroom
