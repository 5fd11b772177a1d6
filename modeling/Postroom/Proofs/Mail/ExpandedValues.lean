import Mathlib.Data.List.Forall2
import Mathlib.Data.List.Infix
import Postroom.Proofs.Mail.DecodedList

/-!
# The values that an address field offers

The decoded form of a value is listed in front of it.  It is the value with the pieces between its
delimiters rewritten one by one (`Idn.Rewrites`), and it is listed exactly when one of the pieces is
an address that decodes to another one (`Idn.Offers`).  `Idn.offers_expand` and
`Idn.notices_expand` say what a list of values is expanded to, and which warnings come with it: one
for each piece that is not blank and no single address (`Idn.complaints`).
-/

namespace Postroom.Idn

open Text

/-- The piece is read as this contact, whose decoded address is another name. -/
def Decodes (piece : Text) (contact : Contact) : Prop :=
  contact? piece = some contact ∧
    sameName (decodeAddress contact.address) contact.address = false

/-- A piece that is an address to be decoded is written out with the decoded address, and any other
piece stays as it is. -/
inductive Rewrites : Text → Text → Prop
  | decoded {piece contact} (h : Decodes piece contact) :
    Rewrites piece (decodeContact contact).render
  | kept {piece} (h : ∀ contact, ¬ Decodes piece contact) : Rewrites piece piece

/-- The value has a mark of the ASCII form in it, and one of its pieces is decoded. -/
def IsAltered (value : Text) : Prop :=
  DomainName.acePrefix <:+: value ∧
    ∃ piece ∈ pieces isDelimiter value, ∃ contact, Decodes piece contact

/-- The forms in which a value is offered: the value alone, or its rewritten pieces with its own
delimiters between them, and then the value. -/
inductive Offers : Text → List Text → Prop
  | plain {value} (h : ¬ IsAltered value) : Offers value [value]
  | decoded {value rewritten} (h : IsAltered value)
    (hpieces : List.Forall₂ Rewrites (pieces isDelimiter value) rewritten) :
    Offers value [weave rewritten (value.filter isDelimiter), value]

/-- The text holds something, and it is no single address. -/
def isInvalid (text : Text) : Bool :=
  !isBlankText text && (contact? text).isNone

/-- The warnings about a value: one for each invalid piece, if there is a mark of the ASCII form in
the value at all. -/
def complaints (field value : Text) : List Notice :=
  if DomainName.acePrefix <:+: value then
    ((pieces isDelimiter value).filter isInvalid).map (complaint field)
  else []

variable {field piece text value : Text} {contact : Contact}

/-! ## One piece -/

theorem decodes_iff_of_some (h : contact? piece = some contact) :
    (∃ other, Decodes piece other) ↔
      sameName (decodeAddress contact.address) contact.address = false := by
  constructor
  · rintro ⟨other, hother, hname⟩
    obtain rfl := Option.some_inj.1 (h.symm.trans hother)
    exact hname
  · intro hname
    exact ⟨contact, h, hname⟩

theorem not_decodes_of_none (h : contact? piece = none) (contact : Contact) :
    ¬ Decodes piece contact := by
  rintro ⟨hsome, -⟩
  rw [h] at hsome
  cases hsome

theorem rewrites_decodePiece (field piece : Text) :
    Rewrites piece (decodePiece field piece).text := by
  cases hcontact : contact? piece with
  | none =>
    rw [decodePiece_of_none hcontact]
    exact .kept (not_decodes_of_none hcontact)
  | some contact =>
    rw [decodePiece_of_some hcontact]
    split_ifs with hname
    · refine .kept ?_
      intro other hother
      rw [(decodes_iff_of_some hcontact).1 ⟨other, hother⟩] at hname
      cases hname
    · exact .decoded ⟨hcontact, Bool.eq_false_iff.2 hname⟩

theorem isDecoded_decodePiece (field piece : Text) :
    (decodePiece field piece).isDecoded = true ↔ ∃ contact, Decodes piece contact := by
  cases hcontact : contact? piece with
  | none =>
    rw [decodePiece_of_none hcontact]
    refine iff_of_false Bool.false_ne_true ?_
    rintro ⟨contact, hdecodes⟩
    exact not_decodes_of_none hcontact contact hdecodes
  | some contact =>
    rw [decodePiece_of_some hcontact, decodes_iff_of_some hcontact]
    split_ifs with hname
    · simp [hname]
    · simp [hname]

theorem notices_decodePiece (field piece : Text) :
    (decodePiece field piece).notices =
      if isInvalid piece then [complaint field piece] else [] := by
  unfold isInvalid
  cases hcontact : contact? piece with
  | none =>
    rw [decodePiece_of_none hcontact]
    cases isBlankText piece <;> rfl
  | some contact =>
    have hvalid : (!isBlankText piece && (some contact).isNone) = false := Bool.and_false _
    rw [decodePiece_of_some hcontact, hvalid, if_neg Bool.false_ne_true]
    split_ifs with hname
    · rfl
    · rfl

/-! ## One value -/

/-- The decoded value has the delimiters of the value between its pieces. -/
theorem decodedValue_eq_weave (field value : Text) :
    decodedValue field value =
      weave ((pieces isDelimiter value).map fun piece => (decodePiece field piece).text)
        (value.filter isDelimiter) := by
  induction value using pieces_induction isDelimiter with
  | piece p hp =>
    rw [decodedValue_piece hp, pieces_of_not_cut hp, filter_of_not_cut hp, List.map_singleton,
      weave_singleton]
  | behind p d rest hp hd ih =>
    rw [decodedValue_append_cons hp hd, pieces_append_cons hp hd, filter_append_cons hp hd,
      List.map_cons, weave, ih]

theorem expandValue_of_not_marked (h : ¬ DomainName.acePrefix <:+: value) :
    expandValue field value = ([value], []) :=
  if_neg (mt hasInfix_iff.1 h)

theorem expandValue_of_marked (h : DomainName.acePrefix <:+: value) :
    expandValue field value =
      (if (pieces isDelimiter value).any fun piece => (decodePiece field piece).isDecoded then
        [decodedValue field value, value] else [value],
      (pieces isDelimiter value).flatMap fun piece => (decodePiece field piece).notices) := by
  obtain ⟨ends, hpieces, hends⟩ := pieces_eq_splitAddresses value
  -- what is empty is neither decoded nor complained of
  have hany : (ends.any fun piece => (decodePiece field piece).isDecoded) = false := by
    refine List.any_eq_false.2 ?_
    intro p hp
    rw [hends p hp]
    exact Bool.false_ne_true
  have hnotices : (ends.flatMap fun piece => (decodePiece field piece).notices) = [] := by
    refine List.flatMap_eq_nil_iff.2 ?_
    intro p hp
    rw [hends p hp]
    rfl
  rw [hpieces, List.any_append, List.flatMap_append, hany, hnotices, Bool.or_false,
    List.append_nil, List.any_map, List.flatMap_map]
  unfold expandValue
  rw [if_pos (hasInfix_iff.2 h)]
  simp only [List.any_map, List.flatMap_map]
  rfl

/-- A value is offered in its forms. -/
theorem offers_expandValue (field value : Text) : Offers value (expandValue field value).1 := by
  by_cases hmark : DomainName.acePrefix <:+: value
  · rw [expandValue_of_marked hmark]
    simp only
    split_ifs with hany
    · obtain ⟨piece, hpiece, hdecoded⟩ := List.any_eq_true.1 hany
      have haltered : IsAltered value :=
        ⟨hmark, piece, hpiece, (isDecoded_decodePiece field piece).1 hdecoded⟩
      rw [decodedValue_eq_weave]
      refine .decoded haltered (List.forall₂_map_right_iff.2 (List.forall₂_same.2 ?_))
      intro piece _
      exact rewrites_decodePiece field piece
    · refine .plain ?_
      rintro ⟨-, piece, hpiece, hdecodes⟩
      exact hany (List.any_eq_true.2
        ⟨piece, hpiece, (isDecoded_decodePiece field piece).2 hdecodes⟩)
  · rw [expandValue_of_not_marked hmark]
    exact .plain fun haltered => hmark haltered.1

theorem notices_expandValue (field value : Text) :
    (expandValue field value).2 = complaints field value := by
  unfold complaints
  split_ifs with hmark
  · rw [expandValue_of_marked hmark]
    simp only [notices_decodePiece]
    induction pieces isDelimiter value with
    | nil => rfl
    | cons piece pieces ih =>
      rw [List.flatMap_cons, ih, List.filter_cons]
      split_ifs with hinvalid
      · rfl
      · rfl
  · rw [expandValue_of_not_marked hmark]

/-- The name of the field stands in the warnings only. -/
theorem expandValue_fst_congr (field other value : Text) :
    (expandValue field value).1 = (expandValue other value).1 := by
  have htext : (fun piece => (decodePiece field piece).text) =
      fun piece => (decodePiece other piece).text :=
    funext fun piece => (decodePiece_congr field other piece).1
  have hdecoded : (fun piece => (decodePiece field piece).isDecoded) =
      fun piece => (decodePiece other piece).isDecoded :=
    funext fun piece => (decodePiece_congr field other piece).2
  by_cases hmark : DomainName.acePrefix <:+: value
  · rw [expandValue_of_marked hmark, expandValue_of_marked hmark, decodedValue_eq_weave,
      decodedValue_eq_weave, htext, hdecoded]
  · rw [expandValue_of_not_marked hmark, expandValue_of_not_marked hmark]

theorem Offers.sublist {forms : List Text} (h : Offers value forms) : [value].Sublist forms := by
  cases h with
  | plain => exact List.Sublist.refl _
  | decoded => exact List.sublist_cons_self _ _

/-! ## Lists of values -/

theorem isAddressField_congr {name other : Text} (h : sameName name other = true) :
    isAddressField name = isAddressField other := by
  unfold isAddressField
  simp only [sameName_congr h]

/-- Each value of a list is offered in its forms, in order. -/
theorem offers_expand (field : Text) (values : List Text) :
    ∃ forms, List.Forall₂ Offers values forms ∧ (expand field values).1 = forms.flatten := by
  refine ⟨values.map fun value => (expandValue field value).1, ?_, List.flatMap_def⟩
  refine List.forall₂_map_right_iff.2 (List.forall₂_same.2 ?_)
  intro value _
  exact offers_expandValue field value

theorem notices_expand (field : Text) (values : List Text) :
    (expand field values).2 = values.flatMap (complaints field) :=
  List.flatMap_congr fun value _ => notices_expandValue field value

/-- Of three pieces, one is decoded, one is blank, and one is neither blank nor an address. -/
example :
    expand "to".toList ["a@xn--bcher-kva.x, ;b".toList] =
      (["a@bücher.x, ;b".toList, "a@xn--bcher-kva.x, ;b".toList],
        [.warning "invalid address b in header to: cannot parse address b".toList]) := by
  decide +kernel

theorem expand_fst_congr (field other : Text) (values : List Text) :
    (expand field values).1 = (expand other values).1 :=
  List.flatMap_congr fun value _ => expandValue_fst_congr field other value

/-- No value is lost. -/
theorem sublist_expand (field : Text) (values : List Text) :
    values.Sublist (expand field values).1 := by
  obtain ⟨forms, hforms, hexpand⟩ := offers_expand field values
  rw [hexpand]
  clear hexpand
  induction hforms with
  | nil => exact List.Sublist.refl []
  | cons hoffers _ ih => exact hoffers.sublist.append ih

end Postroom.Idn
