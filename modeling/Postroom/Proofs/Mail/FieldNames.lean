import Mathlib.Data.List.Basic
import Mathlib.Data.List.Induction
import Postroom.Mail.Message

/-!
# The names of the fields of a message

A message lists each name of its fields once.  A name is added at the end unless it is there in some
spelling, so the names are those of the first fields, in order (`Message.isIndex_headerNames`).
The fields of these names, one name after the other, are all fields of the message
(`Message.flatMap_headers_perm`).
-/

namespace Postroom.Message

open Text

/-- The names of a list, each once. -/
def eachOnce (names : List Text) : List Text :=
  names.foldl addName []

/-- The position of the first field of a name. -/
def firstAt (m : Message) (name : Text) : ℕ :=
  m.fields.findIdx fun field => sameName field.1 name

/-- The names are those of the fields of the message, each once, spelled as its first field spells
it, in the order of these fields. -/
structure IsIndex (m : Message) (names : List Text) : Prop where
  spelled : ∀ name ∈ names,
    (m.fields.find? fun field => sameName field.1 name).map (·.1) = some name
  ordered : names.Pairwise fun a b => sameName a b = false ∧ m.firstAt a < m.firstAt b
  complete : ∀ field ∈ m.fields, ∃ name, names.filter (sameName · field.1) = [name]

variable {names : List Text} {name other : Text}

/-! ## Adding names -/

theorem eachOnce_concat (names : List Text) (name : Text) :
    eachOnce (names ++ [name]) = addName (eachOnce names) name := by
  unfold eachOnce
  rw [List.foldl_append, List.foldl_cons, List.foldl_nil]

/-- A name is there in some spelling after another one has been added if it was there before or is
the other one. -/
theorem any_addName (names : List Text) (other name : Text) :
    (addName names other).any (sameName · name) =
      (names.any (sameName · name) || sameName other name) := by
  unfold addName
  split_ifs with hany
  · cases hother : sameName other name with
    | false => rw [Bool.or_false]
    | true =>
      obtain ⟨known, hknown, hsame⟩ := List.any_eq_true.1 hany
      rw [Bool.or_true]
      exact List.any_eq_true.2 ⟨known, hknown, sameName_trans hsame hother⟩
  · rw [List.any_append, List.any_cons, List.any_nil, Bool.or_false]

theorem any_eachOnce (names : List Text) (name : Text) :
    (eachOnce names).any (sameName · name) = names.any (sameName · name) := by
  induction names using List.reverseRecOn with
  | nil => rfl
  | append_singleton names other ih =>
    rw [eachOnce_concat, any_addName, ih, List.any_append, List.any_cons, List.any_nil,
      Bool.or_false]

/-- A listed name is spelled as the first name of the list that is the same. -/
theorem find?_of_mem_eachOnce (h : name ∈ eachOnce names) :
    names.find? (sameName · name) = some name := by
  induction names using List.reverseRecOn with
  | nil => cases h
  | append_singleton names other ih =>
    rw [eachOnce_concat, addName] at h
    rw [List.find?_append]
    split_ifs at h with hany
    · rw [ih h]
      rfl
    · rcases List.mem_append.1 h with h | h
      · rw [ih h]
        rfl
      · obtain rfl := List.mem_singleton.1 h
        rw [any_eachOnce] at hany
        have hnone : names.find? (sameName · name) = none :=
          List.find?_eq_none.2 fun known hknown hsame =>
            hany (List.any_eq_true.2 ⟨known, hknown, hsame⟩)
        rw [hnone, Option.none_or]
        exact List.find?_cons_of_pos (sameName_refl name)

theorem findIdx_lt_of_mem_eachOnce (h : name ∈ eachOnce names) :
    names.findIdx (sameName · name) < names.length :=
  List.findIdx_lt_length.2
    ⟨name, List.mem_of_find?_eq_some (find?_of_mem_eachOnce h), sameName_refl name⟩

/-- Listed names differ, and each stands behind the ones whose first names come earlier. -/
theorem pairwise_eachOnce (names : List Text) :
    (eachOnce names).Pairwise fun a b =>
      sameName a b = false ∧ names.findIdx (sameName · a) < names.findIdx (sameName · b) := by
  induction names using List.reverseRecOn with
  | nil => exact List.Pairwise.nil
  | append_singleton names other ih =>
    have hfirst : ∀ name ∈ eachOnce names,
        (names ++ [other]).findIdx (sameName · name) = names.findIdx (sameName · name) := by
      intro name hname
      rw [List.findIdx_append, if_pos (findIdx_lt_of_mem_eachOnce hname)]
    have hbefore : (eachOnce names).Pairwise fun a b =>
        sameName a b = false ∧ (names ++ [other]).findIdx (sameName · a) <
          (names ++ [other]).findIdx (sameName · b) := by
      refine ih.imp_of_mem ?_
      intro a b ha hb hab
      rwa [hfirst a ha, hfirst b hb]
    rw [eachOnce_concat, addName]
    split_ifs with hany
    · exact hbefore
    · refine List.pairwise_append.2 ⟨hbefore, List.pairwise_singleton _ _, ?_⟩
      intro name hname _ hother
      rw [List.mem_singleton.1 hother]
      have hnone : ∀ known ∈ names, sameName known other = false := by
        rw [any_eachOnce] at hany
        simpa using hany
      have hlast : (names ++ [other]).findIdx (sameName · other) = names.length := by
        rw [List.findIdx_append, List.findIdx_eq_length_of_false hnone,
          if_neg (Nat.lt_irrefl _), List.findIdx_cons, sameName_refl, cond_true, Nat.zero_add]
      have hmem : name ∈ names := List.mem_of_find?_eq_some (find?_of_mem_eachOnce hname)
      rw [hfirst name hname, hlast]
      exact ⟨hnone name hmem, findIdx_lt_of_mem_eachOnce hname⟩

/-! ## Names that differ -/

/-- Of names that differ, one is the same as a given name at most. -/
theorem filter_of_distinct (h : names.Pairwise fun a b => sameName a b = false)
    (hname : name ∈ names) (hsame : sameName name other = true) :
    names.filter (sameName · other) = [name] := by
  simp only [← sameName_congr hsame]
  clear hsame
  induction names with
  | nil => cases hname
  | cons first names ih =>
    obtain ⟨hfirst, hnames⟩ := List.pairwise_cons.1 h
    rw [List.filter_cons]
    rcases List.mem_cons.1 hname with rfl | hname
    · have hnone : names.filter (sameName · name) = [] := by
        refine List.filter_eq_nil_iff.2 ?_
        intro later hlater
        rw [sameName_comm, hfirst later hlater]
        exact Bool.false_ne_true
      rw [if_pos (sameName_refl name), hnone]
    · rw [hfirst name hname, if_neg Bool.false_ne_true]
      exact ih hnames hname

/-- Fields that are sorted by names that differ are all there, if each has one of the names. -/
theorem flatMap_filter_perm (h : names.Pairwise fun a b => sameName a b = false)
    (fields : List (Text × Text))
    (hnames : ∀ field ∈ fields, ∃ name ∈ names, sameName field.1 name = true) :
    (names.flatMap fun name => fields.filter fun field => sameName field.1 name).Perm fields := by
  induction names generalizing fields with
  | nil =>
    cases fields with
    | nil => exact List.Perm.nil
    | cons field fields =>
      obtain ⟨name, hname, -⟩ := hnames field List.mem_cons_self
      cases hname
  | cons first names ih =>
    obtain ⟨hfirst, hdistinct⟩ := List.pairwise_cons.1 h
    let others := fields.filter fun field => !sameName field.1 first
    -- the other names find their fields among those that do not have the first name
    have hothers : ∀ name ∈ names, (fields.filter fun field => sameName field.1 name) =
        others.filter fun field => sameName field.1 name := by
      intro name hname
      rw [List.filter_filter]
      refine List.filter_congr ?_
      intro field _
      cases hsame : sameName field.1 name with
      | false => rfl
      | true =>
        have hne : sameName field.1 first = false := by
          rw [sameName_comm, sameName_congr hsame, hfirst name hname]
        rw [hne]
        rfl
    have hcovered : ∀ field ∈ others, ∃ name ∈ names, sameName field.1 name = true := by
      intro field hfield
      obtain ⟨hmem, hne⟩ := List.mem_filter.1 hfield
      obtain ⟨name, hname, hsame⟩ := hnames field hmem
      rcases List.mem_cons.1 hname with rfl | hname
      · rw [hsame] at hne
        cases hne
      · exact ⟨name, hname, hsame⟩
    rw [List.flatMap_cons, List.flatMap_congr hothers]
    exact ((ih hdistinct others hcovered).append_left _).trans
      (List.filter_append_perm (fun field => sameName field.1 first) fields)

/-! ## The names of a message -/

variable {m : Message}

theorem headers_congr (h : sameName name other = true) (m : Message) :
    m.headers name = m.headers other := by
  unfold headers
  simp only [sameName_congr h]

theorem headers_eq_nil_iff :
    m.headers name = [] ↔ ∀ field ∈ m.fields, sameName field.1 name = false := by
  rw [headers, List.map_eq_nil_iff, List.filter_eq_nil_iff]
  simp only [Bool.not_eq_true]

theorem headerNames_eq_eachOnce (m : Message) :
    m.headerNames = eachOnce (m.fields.map (·.1)) :=
  rfl

theorem distinct_headerNames (m : Message) :
    m.headerNames.Pairwise fun a b => sameName a b = false :=
  (pairwise_eachOnce _).imp And.left

/-- Each field has one of the names. -/
theorem exists_mem_headerNames {field : Text × Text} (h : field ∈ m.fields) :
    ∃ name ∈ m.headerNames, sameName name field.1 = true := by
  have hany : (m.fields.map (·.1)).any (sameName · field.1) = true :=
    List.any_eq_true.2 ⟨field.1, List.mem_map_of_mem h, sameName_refl field.1⟩
  rw [← any_eachOnce, ← headerNames_eq_eachOnce] at hany
  exact List.any_eq_true.1 hany

/-- A field of a message has one of the names only, in whatever spelling. -/
theorem filter_headerNames {field : Text × Text} (h : field ∈ m.fields)
    (hsame : sameName field.1 name = true) :
    ∃ spelling, sameName spelling name = true ∧
      m.headerNames.filter (sameName · name) = [spelling] := by
  obtain ⟨spelling, hmem, hspelling⟩ := exists_mem_headerNames h
  have heq := sameName_trans hspelling hsame
  exact ⟨spelling, heq, filter_of_distinct (distinct_headerNames m) hmem heq⟩

theorem isIndex_headerNames (m : Message) : m.IsIndex m.headerNames where
  spelled name hname := by
    rw [headerNames_eq_eachOnce] at hname
    have hfind := find?_of_mem_eachOnce hname
    rwa [List.find?_map] at hfind
  ordered := by
    refine (pairwise_eachOnce (m.fields.map (·.1))).imp ?_
    intro a b hab
    rwa [List.findIdx_map, List.findIdx_map] at hab
  complete field hfield := by
    obtain ⟨name, -, hname⟩ := filter_headerNames hfield (sameName_refl field.1)
    exact ⟨name, hname⟩

/-- The values of all names are the values of all fields. -/
theorem flatMap_headers_perm (m : Message) :
    (m.headerNames.flatMap m.headers).Perm (m.fields.map (·.2)) := by
  have hcovered : ∀ field ∈ m.fields, ∃ name ∈ m.headerNames, sameName field.1 name = true := by
    intro field hfield
    obtain ⟨name, hname, hsame⟩ := exists_mem_headerNames hfield
    exact ⟨name, hname, sameName_symm hsame⟩
  have hperm := (flatMap_filter_perm (distinct_headerNames m) m.fields hcovered).map (·.2)
  rwa [List.map_flatMap] at hperm

end Postroom.Message
