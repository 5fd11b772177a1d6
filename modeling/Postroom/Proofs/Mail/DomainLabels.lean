import Mathlib.Data.List.Forall2
import Postroom.Proofs.Mail.DecodedAddress

/-!
# The labels of a decoded domain

A domain is a list of labels with dots between them, and each label is shown on its own
(`Idn.Shows`).  The labels are put behind one another, with a dot wherever something stands already,
so a dot at the very beginning is lost; by `Idn.keepsLabels_decodeDomain_iff`, nothing else is.

Whatever a domain or an address is decoded to, no ASCII character comes into it, and what stands
before the last `@` stays (`Idn.decodeAddress_adds_no_ascii`).
-/

namespace Postroom.Idn

open Text

/-- The labels of a domain. -/
def labels (domain : Text) : List Text :=
  pieces (· == '.') domain

/-- The text is made of the labels of the domain, each shown on its own, with dots between them; so
it has as many labels as the domain. -/
def KeepsLabels (domain decoded : Text) : Prop :=
  ∃ shown, List.Forall₂ Shows (labels domain) shown ∧ decoded = join ['.'] shown ∧
    (labels decoded).length = (labels domain).length

/-- The domain begins with a dot, and somewhere in it stands what marks the ASCII form. -/
def LosesDot (domain : Text) : Prop :=
  domain.head? = some '.' ∧ DomainName.acePrefix <:+: domain

variable {domain decoded label shown : Text}

/-! ## Labels -/

/-- A label is shown as one text only. -/
theorem Shows.unique {shown' : Text} (h : Shows label shown) (h' : Shows label shown') :
    shown = shown' := by
  cases h with
  | @word rest _ hword hne =>
    generalize hlabel : DomainName.acePrefix ++ rest = label at h'
    cases h' with
    | word hword' =>
      obtain rfl := List.append_cancel_left hlabel
      exact Option.some_inj.1 (hword.symm.trans hword')
    | itself hnone => exact absurd (hnone rest shown hlabel.symm hword) hne
  | itself hnone =>
    cases h' with
    | @word rest _ hword hne => exact absurd (hnone rest shown' rfl hword) hne
    | itself => rfl

theorem shows_iff : Shows label shown ↔ decodeLabel label = shown := by
  constructor
  · intro h
    exact (shows_decodeLabel label).unique h
  · rintro rfl
    exact shows_decodeLabel label

theorem forall₂_shows_iff {ls shown : List Text} :
    List.Forall₂ Shows ls shown ↔ ls.map decodeLabel = shown := by
  have hshows : Shows = fun label shown => decodeLabel label = shown := by
    funext label shown
    exact propext shows_iff
  rw [hshows, ← List.forall₂_map_left_iff, List.forall₂_eq_eq_eq]

theorem decodeLabel_ne_nil (h : label ≠ []) : decodeLabel label ≠ [] := by
  generalize hshown : decodeLabel label = shown
  cases shows_iff.2 hshown with
  | word _ hne => exact hne
  | itself => exact h

theorem dot_not_mem_decodeLabel (h : '.' ∉ label) : '.' ∉ decodeLabel label :=
  fun hmem => h ((condenses_decodeLabel label).mem (by decide) hmem)

theorem dot_not_mem_of_mem_labels (h : label ∈ labels domain) : '.' ∉ label := by
  intro hmem
  have hcut := not_cut_of_mem_pieces h '.' hmem
  cases hcut

theorem labels_ne_nil (domain : Text) : labels domain ≠ [] :=
  pieces_ne_nil _ domain

/-- The labels of a domain are the ones that are shown, since no dot comes into a label. -/
theorem labels_join_decodeLabel (domain : Text) :
    labels (join ['.'] ((labels domain).map decodeLabel)) = (labels domain).map decodeLabel := by
  refine pieces_join (mt List.map_eq_nil_iff.1 (labels_ne_nil domain)) ?_
  intro shown hshown c hc
  obtain ⟨label, hlabel, rfl⟩ := List.mem_map.1 hshown
  rw [beq_eq_false_iff_ne]
  rintro rfl
  exact dot_not_mem_decodeLabel (dot_not_mem_of_mem_labels hlabel) hc

theorem keepsLabels_iff_eq :
    KeepsLabels domain decoded ↔ decoded = join ['.'] ((labels domain).map decodeLabel) := by
  constructor
  · rintro ⟨shown, hshown, hdecoded, -⟩
    rw [hdecoded, forall₂_shows_iff.1 hshown]
  · intro hdecoded
    refine ⟨(labels domain).map decodeLabel, forall₂_shows_iff.2 rfl, hdecoded, ?_⟩
    rw [hdecoded, labels_join_decodeLabel, List.length_map]

/-! ## Labels behind one another -/

/-- Behind something, each label gets a dot in front. -/
theorem foldl_addLabel (h : decoded ≠ []) (ls : List Text) :
    ls.foldl addLabel decoded = decoded ++ (ls.map decodeLabel).flatMap ('.' :: ·) := by
  induction ls generalizing decoded with
  | nil => exact (List.append_nil decoded).symm
  | cons label ls ih =>
    have hadd : addLabel decoded label = decoded ++ '.' :: decodeLabel label := by
      rw [addLabel, if_neg (by simpa using h), List.append_assoc]
      rfl
    have hne : decoded ++ '.' :: decodeLabel label ≠ [] :=
      List.append_ne_nil_of_left_ne_nil h _
    rw [List.foldl_cons, hadd, ih hne, List.map_cons, List.flatMap_cons, List.append_assoc]

/-- What begins with no dot does not get one in front. -/
theorem head?_foldl_addLabel {ls : List Text} (h : ∀ label ∈ ls, '.' ∉ label)
    (hdecoded : decoded.head? ≠ some '.') : (ls.foldl addLabel decoded).head? ≠ some '.' := by
  induction ls generalizing decoded with
  | nil => exact hdecoded
  | cons label ls ih =>
    obtain ⟨hlabel, hls⟩ := List.forall_mem_cons.1 h
    refine ih hls ?_
    cases decoded with
    | nil =>
      intro hhead
      exact dot_not_mem_decodeLabel hlabel (List.mem_of_mem_head? hhead)
    | cons c decoded => exact hdecoded

/-! ## Domains -/

theorem decodeDomain_of_marked (h : DomainName.acePrefix <:+: domain) :
    decodeDomain domain = (labels domain).foldl addLabel [] := by
  rw [decodeDomain, if_pos (hasInfix_iff.2 h)]
  rfl

/-- Where nothing is in ASCII form, nothing changes. -/
theorem keepsLabels_of_not_marked (h : ¬ DomainName.acePrefix <:+: domain) :
    KeepsLabels domain (decodeDomain domain) := by
  have hlabels : (labels domain).map decodeLabel = labels domain := by
    refine (List.map_congr_left ?_).trans (List.map_id _)
    intro label hlabel
    refine shows_iff.1 (.itself ?_)
    rintro rest word rfl
    exact absurd ((List.prefix_append _ rest).isInfix.trans (isInfix_of_mem_pieces hlabel)) h
  have hdomain : decodeDomain domain = domain := if_neg (mt hasInfix_iff.1 h)
  rw [keepsLabels_iff_eq, hdomain, hlabels]
  exact (join_pieces '.' domain).symm

/-- Behind a first label that is not empty, every label gets its dot. -/
theorem keepsLabels_of_head?_ne (hmark : DomainName.acePrefix <:+: domain)
    (hhead : domain.head? ≠ some '.') : KeepsLabels domain (decodeDomain domain) := by
  rw [keepsLabels_iff_eq, decodeDomain_of_marked hmark]
  cases hlabels : labels domain with
  | nil => exact absurd hlabels (labels_ne_nil domain)
  | cons first others =>
    have hdomain : domain = first ++ others.flatMap ('.' :: ·) := eq_of_pieces hlabels
    have hfirst : first ≠ [] := by
      rintro rfl
      cases others with
      | nil =>
        rw [hdomain] at hmark
        cases List.infix_nil.1 hmark
      | cons label others =>
        rw [hdomain] at hhead
        exact hhead rfl
    have hadd : addLabel [] first = decodeLabel first := rfl
    rw [List.foldl_cons, hadd, foldl_addLabel (decodeLabel_ne_nil hfirst), List.map_cons, join_cons]

/-- The dot that a domain begins with is lost. -/
theorem not_keepsLabels (h : LosesDot domain) : ¬ KeepsLabels domain (decodeDomain domain) := by
  obtain ⟨hhead, hmark⟩ := h
  obtain ⟨rest, rfl⟩ := List.head?_eq_some_iff.1 hhead
  have hlabels : labels ('.' :: rest) = [] :: labels rest := rfl
  have hlost : (decodeDomain ('.' :: rest)).head? ≠ some '.' := by
    rw [decodeDomain_of_marked hmark]
    exact head?_foldl_addLabel (fun label hlabel => dot_not_mem_of_mem_labels hlabel) nofun
  rw [keepsLabels_iff_eq]
  intro hkept
  refine hlost ?_
  rw [hkept, hlabels, List.map_cons, join_cons]
  cases hrest : labels rest with
  | nil => exact absurd hrest (labels_ne_nil rest)
  | cons label ls => rfl

/-- **Each label of a domain is decoded on its own**, and so it is behind the last `@` of an
address, unless the domain begins with a dot and has a mark of the ASCII form in it. -/
theorem keepsLabels_decodeDomain_iff (domain : Text) :
    (KeepsLabels domain (decodeDomain domain) ↔ ¬ LosesDot domain) ∧
      ('@' ∉ domain → ∀ user,
        (∃ decoded, KeepsLabels domain decoded ∧
          decodeAddress (user ++ '@' :: domain) = user ++ '@' :: decoded) ↔ ¬ LosesDot domain) := by
  have hdomain : KeepsLabels domain (decodeDomain domain) ↔ ¬ LosesDot domain := by
    constructor
    · intro hkept hloses
      exact not_keepsLabels hloses hkept
    · intro hloses
      by_cases hmark : DomainName.acePrefix <:+: domain
      · exact keepsLabels_of_head?_ne hmark fun hhead => hloses ⟨hhead, hmark⟩
      · exact keepsLabels_of_not_marked hmark
  refine ⟨hdomain, ?_⟩
  intro hat user
  rw [← hdomain, decodeAddress_append hat]
  constructor
  · rintro ⟨decoded, hkept, hdecoded⟩
    obtain ⟨-, rfl⟩ := List.cons.inj (List.append_cancel_left hdecoded)
    exact hkept
  · intro hkept
    exact ⟨decodeDomain domain, hkept, rfl⟩

/-- Empty labels within a domain and at its end are kept, and so is a label that stands for nothing.
-/
theorem keepsLabels_decodeDomain_empty_labels :
    let domain := "xn--bcher-kva..xn--!!.".toList
    '@' ∉ domain ∧ ¬ LosesDot domain ∧
      ∃ decoded, KeepsLabels domain decoded ∧
        decodeAddress ("al@ice".toList ++ '@' :: domain) = "al@ice".toList ++ '@' :: decoded := by
  intro domain
  have hat : '@' ∉ domain := by decide
  have hhead : domain.head? ≠ some '.' := by decide
  have hloses : ¬ LosesDot domain := fun h => hhead h.1
  have hkept := ((keepsLabels_decodeDomain_iff domain).2 hat "al@ice".toList).2 hloses
  exact ⟨hat, hloses, hkept⟩

/-- The empty label that a domain begins with is lost, together with its dot. -/
theorem decodeDomain_loses_dot : ¬ ∀ domain, KeepsLabels domain (decodeDomain domain) := by
  intro h
  let domain := ".xn--bcher-kva".toList
  have hhead : domain.head? = some '.' := by decide
  have hmark : hasInfix DomainName.acePrefix domain = true := by decide +kernel
  exact not_keepsLabels ⟨hhead, hasInfix_iff.1 hmark⟩ (h domain)

/-! ## ASCII characters -/

/-- **No ASCII character comes into an address when it is decoded.**  All of it up to its last `@`
stays, and what stands behind that holds no `@` and no other ASCII character that the domain did not
hold. -/
theorem decodeAddress_adds_no_ascii (address : Text) :
    (asciiPart (decodeAddress address)).Sublist (asciiPart address) ∧
      ∀ user domain, address = user ++ '@' :: domain → '@' ∉ domain →
        ∃ decoded, decodeAddress address = user ++ '@' :: decoded ∧ '@' ∉ decoded ∧
          ∀ c ∈ decoded, c.toNat < 0x80 → c ∈ domain := by
  refine ⟨(condenses_decodeAddress address).ascii, ?_⟩
  rintro user domain rfl hat
  have hdomain := condenses_decodeDomain domain
  refine ⟨decodeDomain domain, decodeAddress_append hat user, ?_, ?_⟩
  · intro hmem
    exact hat (hdomain.mem (by decide) hmem)
  · intro c hc hascii
    exact hdomain.mem hascii hc

/-- A comma in front of the last hyphen of a label comes out as it went in, and no `@` is added to
those of the address. -/
theorem decodeAddress_adds_no_ascii_comma :
    let user := "al@ice".toList
    let domain := "xn--b,cher-kva.example".toList
    '@' ∉ domain ∧
      (asciiPart (decodeAddress (user ++ '@' :: domain))).Sublist
        (asciiPart (user ++ '@' :: domain)) ∧
      ∃ decoded, decodeAddress (user ++ '@' :: domain) = user ++ '@' :: decoded ∧ '@' ∉ decoded ∧
        ∀ c ∈ decoded, c.toNat < 0x80 → c ∈ domain := by
  intro user domain
  have hat : '@' ∉ domain := by decide
  obtain ⟨hascii, hbehind⟩ := decodeAddress_adds_no_ascii (user ++ '@' :: domain)
  exact ⟨hat, hascii, hbehind user domain rfl hat⟩

end Postroom.Idn
