import Mathlib.Data.List.Basic
import Postroom.Mail.Idn
import Postroom.Proofs.Text.Ascii
import Postroom.Proofs.Text.Pieces

/-!
# What decoding does to an address

Decoding takes characters of an address away and puts others beyond ASCII in.  `Idn.Condenses` says
how much of it holds for every part of an address: what is decoded is the same or shorter, and its
ASCII characters are ASCII characters of the original, in order.  So an address that decodes to the
same name has not changed at all, and no delimiter comes up that was not there before.
-/

namespace Postroom

namespace Text

/-- The ASCII characters of a text, in order. -/
def asciiPart (t : Text) : Text :=
  t.filter fun c => c.toNat < 0x80

@[simp] theorem asciiPart_append (s t : Text) : asciiPart (s ++ t) = asciiPart s ++ asciiPart t :=
  List.filter_append s t

end Text

open Text

namespace Idn

/-- The text is the same as the original or shorter, and its ASCII characters are ASCII characters
of the original, in order. -/
structure Condenses (text original : Text) : Prop where
  ascii : (asciiPart text).Sublist (asciiPart original)
  eq_or_shorter : text = original ∨ text.length < original.length

variable {s s' t t' : Text}

theorem Condenses.refl (t : Text) : Condenses t t :=
  ⟨List.Sublist.refl _, .inl rfl⟩

theorem Condenses.length_le (h : Condenses t' t) : t'.length ≤ t.length := by
  rcases h.eq_or_shorter with rfl | hlt
  · exact Nat.le_refl _
  · exact Nat.le_of_lt hlt

theorem Condenses.append (hs : Condenses s' s) (ht : Condenses t' t) :
    Condenses (s' ++ t') (s ++ t) := by
  refine ⟨?_, ?_⟩
  · rw [asciiPart_append, asciiPart_append]
    exact hs.ascii.append ht.ascii
  · have hsle := hs.length_le
    have htle := ht.length_le
    rw [List.length_append, List.length_append]
    rcases hs.eq_or_shorter with rfl | hlt
    · rcases ht.eq_or_shorter with rfl | hlt
      · exact .inl rfl
      · exact .inr (Nat.add_lt_add_left hlt _)
    · exact .inr (Nat.add_lt_add_of_lt_of_le hlt htle)

/-- A text that is left out may stand in front of the original. -/
theorem Condenses.behind (ht : Condenses t' t) (hs : s ≠ []) : Condenses t' (s ++ t) := by
  refine ⟨?_, .inr ?_⟩
  · rw [asciiPart_append]
    exact ht.ascii.trans (List.sublist_append_right _ _)
  · have hpos := List.length_pos_of_ne_nil hs
    have hle := ht.length_le
    rw [List.length_append]
    omega

/-- The same number of characters have not changed. -/
theorem Condenses.eq_of_sameName (h : Condenses t' t) (hname : sameName t' t) : t' = t := by
  have hlength := congrArg List.length (sameName_iff.1 hname)
  rw [List.length_map, List.length_map] at hlength
  exact h.eq_or_shorter.resolve_right fun hlt => Nat.ne_of_lt hlt hlength

theorem Condenses.mem (h : Condenses t' t) {c : Char} (hc : c.toNat < 0x80) (hmem : c ∈ t') :
    c ∈ t := by
  have hpart : c ∈ asciiPart t' := List.mem_filter.2 ⟨hmem, decide_eq_true hc⟩
  exact (List.mem_filter.1 (h.ascii.subset hpart)).1

end Idn

namespace Punycode

theorem asciiPart_insertIdx (word : Text) (i : ℕ) {c : Char} (hc : 0x80 ≤ c.toNat) :
    asciiPart (word.insertIdx i c) = asciiPart word := by
  have hdrop : ∀ t, asciiPart (c :: t) = asciiPart t :=
    fun t => List.filter_cons_of_neg (by simpa using hc)
  induction word generalizing i with
  | nil =>
    cases i with
    | zero => exact hdrop []
    | succ i => rfl
  | cons d word ih =>
    cases i with
    | zero => exact hdrop _
    | succ i =>
      rw [List.insertIdx_succ_cons]
      unfold asciiPart at ih ⊢
      rw [List.filter_cons, List.filter_cons, ih]

/-- What is inserted stands beyond ASCII, and takes a digit or more. -/
theorem insertAll_spec {point bias i : ℕ} {word digits result : Text} (hpoint : 0x80 ≤ point)
    (h : insertAll point bias i word digits = some result) :
    asciiPart result = asciiPart word ∧ result.length ≤ word.length + digits.length := by
  fun_induction insertAll point bias i word digits with
  | case1 =>
    cases h
    exact ⟨rfl, Nat.le_add_right _ _⟩
  | case2 => cases h
  | case3 => cases h
  | case4 point bias i word digits hdigits j rest hnumber length hlimit next hscalar ih =>
    have hnext : 0x80 ≤ next := Nat.le_add_right_of_le hpoint
    have hchar : (Char.ofNat next).toNat = next := toNat_ofNat_of_valid (by
      unfold isScalar at hscalar
      simp only [Bool.or_eq_true, Bool.and_eq_true, decide_eq_true_eq] at hscalar
      exact hscalar.imp_right fun h => ⟨by omega, h.2⟩)
    obtain ⟨hascii, hlength⟩ := ih hnext h
    rw [asciiPart_insertIdx _ _ (hchar.symm ▸ hnext)] at hascii
    refine ⟨hascii, ?_⟩
    have hinsert := List.length_insertIdx_le_succ
      (l := word) (x := Char.ofNat next) (i := j % length)
    have hrest := number?_length hnumber
    omega
  | case5 => cases h

/-- A label stands for a word that is not longer, with ASCII characters of the label. -/
theorem decode?_spec {label word : Text} (h : decode? label = some word) :
    (asciiPart word).Sublist (asciiPart label) ∧ word.length ≤ label.length := by
  have hread : ∀ {base digits}, (asciiPart base).Sublist (asciiPart label) →
      base.length + digits.length ≤ label.length →
      (if base.all (·.toNat < 0x80) then insertAll 0x80 72 0 base digits else none) = some word →
      (asciiPart word).Sublist (asciiPart label) ∧ word.length ≤ label.length := by
    intro base digits hascii hlength h
    split_ifs at h
    obtain ⟨heq, hword⟩ := insertAll_spec (Nat.le_refl _) h
    exact ⟨heq ▸ hascii, hword.trans hlength⟩
  unfold decode? at h
  split at h
  rename_i base digits hsplit
  refine hread ?_ ?_ h
  all_goals
    split at hsplit
    · obtain ⟨rfl, rfl⟩ := Prod.mk.inj hsplit
      simp [asciiPart]
    · obtain ⟨rfl, rfl⟩ := Prod.mk.inj hsplit
      simp [asciiPart]
    · rename_i hlast
      obtain ⟨rfl, rfl⟩ := Prod.mk.inj hsplit
      rw [eq_of_splitLast hlast]
      simp [asciiPart]

end Punycode

namespace Idn

/-- What a label is shown as.  A label in ASCII form that stands for a word is shown as this word;
any other label, also one that stands for no word or for the empty one, is shown as it is. -/
inductive Shows : Text → Text → Prop
  | word {rest word} (h : Punycode.decode? rest = some word) (hne : word ≠ []) :
    Shows (DomainName.acePrefix ++ rest) word
  | itself {label}
    (h : ∀ rest word, label = DomainName.acePrefix ++ rest → Punycode.decode? rest = some word →
      word = []) : Shows label label

theorem shows_decodeLabel (label : Text) : Shows label (decodeLabel label) := by
  unfold decodeLabel
  cases hstrip : stripFront DomainName.acePrefix label with
  | none =>
    refine .itself ?_
    rintro rest word rfl
    rw [stripFront_append] at hstrip
    cases hstrip
  | some rest =>
    obtain rfl := eq_of_stripFront hstrip
    rw [Option.bind_some]
    split
    · rename_i c word hword
      exact .word hword (List.cons_ne_nil c word)
    · rename_i hnone
      refine .itself ?_
      intro rest' word hrest hword
      obtain rfl := List.append_cancel_left hrest
      cases word with
      | nil => rfl
      | cons c word => exact absurd hword (hnone c word)

theorem Shows.condenses {label shown : Text} (h : Shows label shown) : Condenses shown label := by
  cases h with
  | @word rest _ hword =>
    obtain ⟨hascii, hlength⟩ := Punycode.decode?_spec hword
    refine ⟨?_, .inr ?_⟩
    · rw [asciiPart_append]
      exact hascii.trans (List.sublist_append_right _ _)
    · have hprefix : DomainName.acePrefix.length = 4 := rfl
      rw [List.length_append, hprefix]
      omega
  | itself => exact .refl label

theorem condenses_decodeLabel (label : Text) : Condenses (decodeLabel label) label :=
  (shows_decodeLabel label).condenses

/-- Labels are put behind labels that are decoded already. -/
theorem Condenses.addLabels {decoded domain : Text} (h : Condenses decoded domain)
    (labels : List Text) :
    Condenses (labels.foldl addLabel decoded) (domain ++ labels.flatMap ('.' :: ·)) := by
  induction labels generalizing decoded domain with
  | nil => rwa [List.flatMap_nil, List.append_nil]
  | cons label labels ih =>
    have hlabel := condenses_decodeLabel label
    have hadd : Condenses (addLabel decoded label) (domain ++ '.' :: label) := by
      unfold addLabel
      split_ifs with hempty
      · rw [List.nil_append, List.append_cons]
        exact hlabel.behind (List.append_ne_nil_of_right_ne_nil _ (List.cons_ne_nil _ _))
      · rw [List.append_assoc]
        exact h.append ((Condenses.refl ['.']).append hlabel)
    rw [List.foldl_cons, List.flatMap_cons, ← List.append_assoc]
    exact ih hadd

theorem condenses_decodeDomain (domain : Text) : Condenses (decodeDomain domain) domain := by
  unfold decodeDomain
  split_ifs
  · cases hlabels : pieces (· == '.') domain with
    | nil => exact absurd hlabels (pieces_ne_nil _ domain)
    | cons label labels =>
      have hfirst : addLabel [] label = decodeLabel label := rfl
      rw [List.foldl_cons, hfirst, eq_of_pieces hlabels]
      exact (condenses_decodeLabel label).addLabels labels
  · exact .refl domain

/-- **Decoding shortens an address or leaves it as it is, and brings no ASCII character into it.**
-/
theorem condenses_decodeAddress (address : Text) : Condenses (decodeAddress address) address := by
  unfold decodeAddress
  split
  · rename_i user domain hlast
    have hdomain := (Condenses.refl ['@']).append (condenses_decodeDomain domain)
    rw [eq_of_splitLast hlast]
    exact (Condenses.refl user).append hdomain
  · exact condenses_decodeDomain address

/-- What stands behind the last `@` is decoded as a domain. -/
theorem decodeAddress_append {domain : Text} (h : '@' ∉ domain) (user : Text) :
    decodeAddress (user ++ '@' :: domain) = user ++ '@' :: decodeDomain domain := by
  rw [decodeAddress, splitLast_append_cons h]

/-- The contact with its address decoded. -/
def decodeContact (contact : Contact) : Contact :=
  { contact with address := decodeAddress contact.address }

theorem atSign_mem_decodeAddress {address : Text} (h : '@' ∈ address) :
    '@' ∈ decodeAddress address := by
  unfold decodeAddress
  split
  · exact List.mem_append_right _ List.mem_cons_self
  · rename_i hlast
    exact absurd h (splitLast_eq_none_iff.1 hlast)

end Idn

end Postroom
