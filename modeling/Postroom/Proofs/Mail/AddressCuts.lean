import Mathlib.Data.List.Forall2
import Postroom.Mail.Idn
import Postroom.Proofs.Text.Pieces

/-!
# Where a value is cut

A value is cut at the offsets of its delimiters, which count octets.  `Idn.splitFrom` reads the
same addresses character by character, and `Idn.forall₂_cutsFrom` is the invariant that ties the
two: what has been read is `front`, up to the address that is being read, and then `address`, so
every cut falls between characters.  Nothing of the value is lost that way
(`Idn.splitAddresses_lossless`), and its addresses are its pieces
(`Idn.pieces_eq_splitAddresses`).
-/

namespace Postroom.Idn

open Text

variable {value text : Text} {split : Text × Text} {cut : Cut}

/-- The addresses of the rest of a value, each with the delimiter behind it; `address` is what has
been read of the first one. -/
def splitFrom (address : Text) : Text → List (Text × Text)
  | [] => if address.isEmpty then [] else [(address, [])]
  | c :: rest =>
    if isDelimiter c then (address, [c]) :: splitFrom [] rest
    else splitFrom (address ++ [c]) rest

theorem splitFrom_cons (current : Text) (c : Char) (rest : Text) :
    splitFrom current (c :: rest) =
      if isDelimiter c then (current, [c]) :: splitFrom [] rest
      else splitFrom (current ++ [c]) rest :=
  rfl

/-- A delimiter takes one octet. -/
theorem octetCount_of_isDelimiter {d : Char} (h : isDelimiter d = true) : octetCount [d] = 1 := by
  rcases isDelimiter_iff.1 h with rfl | rfl
  · rfl
  · rfl

/-! ## The cuts -/

/-- A cut that falls between characters is read. -/
theorem read?_eq_some (front address delimiter back : Text)
    (h : front ++ address ++ delimiter ++ back = value) :
    Cut.read? value ⟨octetCount front, octetCount (front ++ address),
      octetCount (front ++ address ++ delimiter)⟩ = some (address, delimiter) := by
  have haddress : slice? value (octetCount front) (octetCount (front ++ address)) =
      some address :=
    slice?_eq_some_iff.2
      ⟨front, delimiter ++ back, by rw [← h, List.append_assoc _ delimiter], rfl, rfl⟩
  have hdelimiter : slice? value (octetCount (front ++ address))
      (octetCount (front ++ address ++ delimiter)) = some delimiter :=
    slice?_eq_some_iff.2 ⟨front ++ address, back, h.symm, rfl, rfl⟩
  unfold Cut.read?
  rw [haddress, Option.bind_some, hdelimiter, Option.map_some]

/-- The cuts of the rest of a value are read as the addresses that stand there. -/
theorem forall₂_cutsFrom (front address rest : Text) (h : front ++ address ++ rest = value) :
    List.Forall₂ (fun cut split => Cut.read? value cut = some split)
      (cutsFrom (octetCount value) (octetCount front)
        (indexedFrom (octetCount (front ++ address)) rest))
      (splitFrom address rest) := by
  induction rest generalizing front address with
  | nil =>
    rw [List.append_nil] at h
    subst h
    rw [indexedFrom, cutsFrom, splitFrom]
    cases address with
    | nil => simp
    | cons c address =>
      have hlt : octetCount front < octetCount (front ++ c :: address) := by
        have hpos := c.utf8Size_pos
        rw [octetCount_append, octetCount_cons]
        omega
      have hread := read?_eq_some front (c :: address) [] [] rfl
      simp only [List.append_nil] at hread
      rw [if_pos hlt, List.isEmpty_cons, if_neg Bool.false_ne_true]
      exact .cons hread .nil
  | cons c rest ih =>
    have hvalue : front ++ address ++ [c] ++ rest = value := by rwa [List.append_assoc _ [c]]
    rw [indexedFrom_cons, cutsFrom, splitFrom_cons]
    split_ifs with hc
    · -- the next address begins behind the delimiter, which takes one octet
      have hnext : octetCount (front ++ address) + 1 = octetCount (front ++ address ++ [c]) := by
        rw [octetCount_append (front ++ address), octetCount_of_isDelimiter hc]
      have hrest := ih (front ++ address ++ [c]) [] (by rwa [List.append_nil])
      rw [List.append_nil] at hrest
      rw [hnext]
      exact .cons (read?_eq_some front address [c] rest hvalue) hrest
    · have hrest := ih front (address ++ [c]) (by rwa [← List.append_assoc])
      rwa [← List.append_assoc] at hrest

/-- The cuts of a value are read as its addresses. -/
theorem forall₂_cuts (value : Text) :
    List.Forall₂ (fun cut split => Cut.read? value cut = some split) (cuts value)
      (splitFrom [] value) :=
  forall₂_cutsFrom [] [] value rfl

/-- A cut that is read begins and ends between characters, and so does its delimiter. -/
theorem isBoundary_of_read? (h : Cut.read? value cut = some split) :
    IsBoundary value cut.start ∧ IsBoundary value cut.stop ∧ IsBoundary value cut.next := by
  obtain ⟨address, haddress, h⟩ := Option.bind_eq_some_iff.1 h
  obtain ⟨delimiter, hdelimiter, -⟩ := Option.map_eq_some_iff.1 h
  obtain ⟨-, hstart, hstop⟩ := slice?_isSome_iff.1 (Option.isSome_iff_exists.2 ⟨_, haddress⟩)
  obtain ⟨-, -, hnext⟩ := slice?_isSome_iff.1 (Option.isSome_iff_exists.2 ⟨_, hdelimiter⟩)
  exact ⟨hstart, hstop, hnext⟩

theorem isBoundary_of_mem_cuts (h : cut ∈ cuts value) :
    IsBoundary value cut.start ∧ IsBoundary value cut.stop ∧ IsBoundary value cut.next := by
  have hcuts := (forall₂_cuts value).imp fun cut split hread =>
    And.intro (isBoundary_of_read? hread) hread
  exact ((List.forall₂_and_left _ _).1 hcuts).1 cut h

theorem mapM_eq_some_of_forall₂ {α β : Type} {f : α → Option β} {as : List α} {bs : List β}
    (h : List.Forall₂ (fun a b => f a = some b) as bs) : as.mapM f = some bs := by
  induction h with
  | nil => rfl
  | cons hread _ ih => rw [List.mapM_cons, hread, ih]; rfl

theorem splitAddresses?_eq (value : Text) : splitAddresses? value = some (splitFrom [] value) :=
  mapM_eq_some_of_forall₂ (forall₂_cuts value)

/-- Cut by offsets or read character by character, the addresses are the same. -/
theorem splitAddresses_eq (value : Text) : splitAddresses value = splitFrom [] value := by
  rw [splitAddresses, splitAddresses?_eq, Option.getD_some]

/-! ## The addresses -/

theorem splitFrom_append (h : ∀ c ∈ text, isDelimiter c = false) (current rest : Text) :
    splitFrom current (text ++ rest) = splitFrom (current ++ text) rest := by
  induction text generalizing current with
  | nil => rw [List.nil_append, List.append_nil]
  | cons c text ih =>
    obtain ⟨hc, htext⟩ := List.forall_mem_cons.1 h
    rw [List.cons_append, splitFrom_cons, hc, if_neg Bool.false_ne_true, ih htext,
      List.append_assoc]
    rfl

theorem splitAddresses_piece (h : ∀ c ∈ text, isDelimiter c = false) :
    splitAddresses text = if text.isEmpty then [] else [(text, [])] := by
  have hsplit := splitFrom_append h [] []
  rwa [List.append_nil, List.nil_append, ← splitAddresses_eq] at hsplit

theorem splitAddresses_append_cons (h : ∀ c ∈ text, isDelimiter c = false) {d : Char}
    (hd : isDelimiter d = true) (rest : Text) :
    splitAddresses (text ++ d :: rest) = (text, [d]) :: splitAddresses rest := by
  rw [splitAddresses_eq, splitAddresses_eq, splitFrom_append h, List.nil_append, splitFrom_cons,
    if_pos hd]

/-- A value is cut at its delimiters; only an empty text behind the last one is no piece. -/
theorem pieces_eq_splitAddresses (value : Text) :
    ∃ ends, pieces isDelimiter value = (splitAddresses value).map (·.1) ++ ends ∧
      ∀ p ∈ ends, p = [] := by
  induction value using pieces_induction isDelimiter with
  | piece p hp =>
    rw [pieces_of_not_cut hp, splitAddresses_piece hp]
    split_ifs with hempty
    · rw [List.isEmpty_iff.1 hempty]
      exact ⟨[[]], rfl, by simp⟩
    · exact ⟨[], rfl, List.forall_mem_nil _⟩
  | behind p d rest hp hd ih =>
    obtain ⟨ends, hrest, hends⟩ := ih
    refine ⟨ends, ?_, hends⟩
    rw [pieces_append_cons hp hd, splitAddresses_append_cons hp hd, hrest]
    rfl

/-- Cutting a value loses nothing of it. -/
theorem splitAddresses_flatten (value : Text) :
    ((splitAddresses value).flatMap fun split => split.1 ++ split.2) = value := by
  induction value using pieces_induction isDelimiter with
  | piece p hp =>
    rw [splitAddresses_piece hp]
    split_ifs with hempty
    · rw [List.isEmpty_iff.1 hempty]
      rfl
    · simp
  | behind p d rest hp hd ih =>
    rw [splitAddresses_append_cons hp hd, List.flatMap_cons, ih]
    simp

/-- No address holds a delimiter. -/
theorem not_isDelimiter_of_mem_splitAddresses (h : split ∈ splitAddresses value) :
    ∀ c ∈ split.1, isDelimiter c = false := by
  obtain ⟨ends, hpieces, -⟩ := pieces_eq_splitAddresses value
  refine not_cut_of_mem_pieces (t := value) ?_
  rw [hpieces]
  exact List.mem_append_left _ (List.mem_map_of_mem h)

/-- A delimiter stands behind every address, unless the address ends the value. -/
theorem delimiter_of_splitAddresses {before after : List (Text × Text)}
    (h : splitAddresses value = before ++ split :: after) :
    (∃ d, isDelimiter d = true ∧ split.2 = [d]) ∨ after = [] ∧ split.2 = [] ∧ split.1 ≠ [] := by
  induction value using pieces_induction isDelimiter generalizing before with
  | piece p hp =>
    rw [splitAddresses_piece hp] at h
    split_ifs at h with hempty
    · simp at h
    · obtain ⟨-, hsplit⟩ | ⟨-, hnil⟩ := List.append_eq_singleton_iff.1 h.symm
      · obtain ⟨rfl, rfl⟩ := List.cons.inj hsplit
        exact .inr ⟨rfl, rfl, fun hp => hempty (List.isEmpty_iff.2 hp)⟩
      · cases hnil
  | behind p d rest hp hd ih =>
    rw [splitAddresses_append_cons hp hd] at h
    cases before with
    | nil =>
      obtain ⟨rfl, -⟩ := List.cons.inj h
      exact .inl ⟨d, hd, rfl⟩
    | cons first before => exact ih (List.cons.inj h).2

/-- **Cutting a value loses nothing and cuts no character.**  Every cut begins and ends between
characters, so every slice is taken; the addresses hold no delimiter, and with the delimiters behind
them they make up the value. -/
theorem splitAddresses_lossless (value : Text) :
    splitAddresses? value = some (splitAddresses value) ∧
      (∀ cut ∈ cuts value,
        IsBoundary value cut.start ∧ IsBoundary value cut.stop ∧ IsBoundary value cut.next) ∧
      ((splitAddresses value).flatMap fun split => split.1 ++ split.2) = value ∧
      (∀ split ∈ splitAddresses value, ',' ∉ split.1 ∧ ';' ∉ split.1) ∧
      ∀ before split after, splitAddresses value = before ++ split :: after →
        split.2 = [','] ∨ split.2 = [';'] ∨ after = [] ∧ split.2 = [] ∧ split.1 ≠ [] := by
  refine ⟨?_, fun cut hcut => isBoundary_of_mem_cuts hcut, splitAddresses_flatten value, ?_, ?_⟩
  · rw [splitAddresses_eq, splitAddresses?_eq]
  · intro split hsplit
    have hno := not_isDelimiter_of_mem_splitAddresses hsplit
    exact ⟨fun hmem => absurd (hno _ hmem) (by decide), fun hmem => absurd (hno _ hmem) (by decide)⟩
  · intro before split after hvalue
    rcases delimiter_of_splitAddresses hvalue with ⟨d, hd, hdelimiter⟩ | hlast
    · rcases isDelimiter_iff.1 hd with rfl | rfl
      · exact .inl hdelimiter
      · exact .inr (.inl hdelimiter)
    · exact .inr (.inr hlast)

example : cuts "ü,é; ".toList = [⟨0, 2, 3⟩, ⟨3, 5, 6⟩, ⟨6, 7, 7⟩] := by decide

end Postroom.Idn
