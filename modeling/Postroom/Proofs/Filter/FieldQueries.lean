import Postroom.Filter.Query
import Postroom.Proofs.Mail.ExpandedValues
import Postroom.Proofs.Mail.FieldNames

/-!
# What rules get to see of the fields

The values that a field offers are the values in the message, in order, with decoded ones in between
(`Query.header_adds_decoded_values`).  Whichever way a rule asks for a field, by its first value, by
all of its values or through the list of names, the answers are the same values
(`Query.queries_agree`).
-/

namespace Postroom

open Text

namespace Query

variable {m : Message} {name other : Text}

/-- A field offers the same values in whatever spelling it is asked for. -/
theorem header_congr (h : sameName name other = true) (m : Message) :
    (header m name).1 = (header m other).1 := by
  unfold header
  rw [Message.headers_congr h, Idn.isAddressField_congr h]
  simp only
  split_ifs
  · exact Idn.expand_fst_congr name other _
  · rfl

theorem headers_sublist (m : Message) (name : Text) :
    (m.headers name).Sublist (header m name).1 := by
  unfold header
  simp only
  split_ifs
  · exact Idn.sublist_expand name _
  · exact List.Sublist.refl _

theorem header_of_not_address (h : Idn.isAddressField name = false) :
    (header m name).1 = m.headers name := by
  unfold header
  simp only
  rw [h, Bool.and_false, if_neg Bool.false_ne_true]

theorem header_eq_nil_iff : (header m name).1 = [] ↔ m.headers name = [] := by
  constructor
  · intro hnil
    have hsublist := headers_sublist m name
    rw [hnil] at hsublist
    exact List.sublist_nil.1 hsublist
  · intro hnil
    unfold header
    rw [hnil]
    rfl

/-- **Decoded values are added, and nothing is lost.**  Each value of a list is offered alone or
behind its decoded form, with one warning for each invalid piece; so a field offers all of its
values in order, nothing else if it holds no addresses, and nothing at all only if the message does
not have it. -/
theorem header_adds_decoded_values :
    (∀ (field : Text) (values : List Text),
      (∃ forms, List.Forall₂ Idn.Offers values forms ∧
        (Idn.expand field values).1 = forms.flatten) ∧
      (Idn.expand field values).2 = values.flatMap (Idn.complaints field)) ∧
    ∀ (m : Message) (name : Text),
      (m.headers name).Sublist (header m name).1 ∧
      (Idn.isAddressField name = false → (header m name).1 = m.headers name) ∧
      ((header m name).1 = [] ↔ ∀ field ∈ m.fields, sameName field.1 name = false) := by
  constructor
  · intro field values
    exact ⟨Idn.offers_expand field values, Idn.notices_expand field values⟩
  · intro m name
    have habsent : (header m name).1 = [] ↔ ∀ field ∈ m.fields, sameName field.1 name = false :=
      header_eq_nil_iff.trans Message.headers_eq_nil_iff
    exact ⟨headers_sublist m name, header_of_not_address, habsent⟩

/-- The values in a field that holds no addresses are offered as they are, even if they look like an
address to be decoded. -/
theorem header_adds_decoded_values_other_field :
    let value := "bob@xn--bcher-kva.example".toList
    let m : Message := ⟨[], [("To".toList, value), ("X-Original-To".toList, value)]⟩
    Idn.isAddressField "x-original-to".toList = false ∧
      (header m "x-original-to".toList).1 = m.headers "x-original-to".toList ∧
      m.headers "x-original-to".toList = [value] := by
  intro value m
  have hfield : Idn.isAddressField "x-original-to".toList = false := by decide +kernel
  have hvalues : m.headers "x-original-to".toList = [value] := by decide +kernel
  have hheader := (header_adds_decoded_values.2 m "x-original-to".toList).2.1 hfield
  exact ⟨hfield, hheader, hvalues⟩

/-! ## The ways to ask -/

/-- At most one name of a message is the one that is asked for, so its fields are taken once. -/
theorem matching_eq (m : Message) (name : Text) :
    (matching m name).1 = (header m name).1.map trim := by
  unfold matching spellings
  by_cases hfield : ∃ field ∈ m.fields, sameName field.1 name = true
  · obtain ⟨field, hmem, hsame⟩ := hfield
    obtain ⟨spelling, hspelling, hnames⟩ := Message.filter_headerNames hmem hsame
    rw [hnames, ← header_congr hspelling]
    simp
  · have hnone : ∀ field ∈ m.fields, sameName field.1 name = false := by
      simpa using hfield
    have hnames : m.headerNames.filter (sameName · name) = [] := by
      refine List.filter_eq_nil_iff.2 ?_
      intro spelling hspelling hsame
      have hkey := (Message.isIndex_headerNames m).spelled spelling hspelling
      obtain ⟨field, hfind, rfl⟩ := Option.map_eq_some_iff.1 hkey
      rw [hnone field (List.mem_of_find?_eq_some hfind)] at hsame
      cases hsame
    rw [hnames, header_eq_nil_iff.2 (Message.headers_eq_nil_iff.2 hnone)]
    rfl

/-- **The queries for the fields of a message agree.**  Its names are an index of its fields; the
values of these names are all values of the message; the first value of a name is the first of its
values; and the values that match a name are those that its field offers, trimmed. -/
theorem queries_agree (m : Message) :
    m.IsIndex m.headerNames ∧
    (m.headerNames.flatMap m.headers).Perm (m.fields.map (·.2)) ∧
    ∀ name, m.header name = (m.headers name).head? ∧
      (matching m name).1 = (header m name).1.map trim := by
  refine ⟨Message.isIndex_headerNames m, Message.flatMap_headers_perm m, ?_⟩
  intro name
  exact ⟨(Message.headers_head? m name).symm, matching_eq m name⟩

end Query

end Postroom
