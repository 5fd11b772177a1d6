import Mathlib.Data.Bool.AllAny
import Postroom.Proofs.Mail.AddressCuts
import Postroom.Proofs.Mail.DecodedPieces
import Postroom.Proofs.Mail.LegibleContacts

/-!
# Lists with decoded addresses

A value is cut at every delimiter, each piece is decoded on its own, and the pieces are put together
again.  `Idn.parse_decoded` says when the outcome lists the contacts of the value with their
addresses decoded: when it does so for each contact of the value by itself (`Idn.IsFaithful`).  Where
no delimiter stands within a contact that is decoded (`Idn.IsItem`), it does so exactly for the
contacts that can be written out.  In a quoted name a comma or a semicolon is cut like any other
(`Idn.expandValue_cuts_name`).
-/

namespace Postroom.Idn

open Text Address

variable {field text value : Text} {contact : Contact} {contacts : List Contact}

/-- The pieces of a value, decoded and put together again. -/
def joined (field : Text) (splits : List (Text × Text)) : Text :=
  splits.flatMap fun split => (decodePiece field split.1).text ++ split.2

/-- The value with each of its pieces decoded. -/
def decodedValue (field value : Text) : Text :=
  joined field (splitAddresses value)

theorem joined_cons (split : Text × Text) (splits : List (Text × Text)) :
    joined field (split :: splits) =
      (decodePiece field split.1).text ++ (split.2 ++ joined field splits) := by
  unfold joined
  rw [List.flatMap_cons, List.append_assoc]

/-- The decoded value, where it is listed, is put together from the pieces. -/
theorem eq_decodedValue {decoded : Text}
    (h : (expandValue field value).1 = [decoded, value]) : decoded = decodedValue field value := by
  unfold expandValue at h
  simp only [List.flatMap_map] at h
  split_ifs at h
  · exact (List.cons.inj h).1.symm
  · cases (List.cons.inj h).2
  · cases (List.cons.inj h).2

/-- A text without a delimiter is one piece. -/
theorem decodedValue_piece (h : ∀ c ∈ text, isDelimiter c = false) :
    decodedValue field text = (decodePiece field text).text := by
  unfold decodedValue
  rw [splitAddresses_piece h]
  split_ifs with hempty
  · rw [List.isEmpty_iff.1 hempty]
    rfl
  · simp [joined]

/-- The first piece is decoded apart from what stands behind its delimiter. -/
theorem decodedValue_append_cons (h : ∀ c ∈ text, isDelimiter c = false) {d : Char}
    (hd : isDelimiter d) (rest : Text) :
    decodedValue field (text ++ d :: rest) =
      (decodePiece field text).text ++ d :: decodedValue field rest := by
  unfold decodedValue
  rw [splitAddresses_append_cons h hd, joined_cons]
  rfl

/-- What stands behind a delimiter is decoded apart from what stands before it. -/
theorem decodedValue_append (text : Text) {d : Char} (hd : isDelimiter d) (rest : Text) :
    decodedValue field (text ++ d :: rest) =
      decodedValue field text ++ d :: decodedValue field rest := by
  induction text using pieces_induction isDelimiter with
  | piece p hp => rw [decodedValue_append_cons hp hd, decodedValue_piece hp]
  | behind p e front hp he ih =>
    rw [List.append_assoc, List.cons_append, decodedValue_append_cons hp he, ih,
      decodedValue_append_cons hp he, List.append_assoc, List.cons_append]

/-- No piece of the text is decoded. -/
def IsKept (field text : Text) : Prop :=
  ∀ split ∈ splitAddresses text, (decodePiece field split.1).isDecoded = false

theorem decodePiece_kept (h : (decodePiece field text).isDecoded = false) :
    (decodePiece field text).text = text := by
  unfold decodePiece at h ⊢
  split_ifs at h ⊢
  · rfl
  · split at h
    · cases h
    · rfl
    · rfl

theorem decodedValue_kept (h : IsKept field text) : decodedValue field text = text := by
  have hpieces : decodedValue field text =
      (splitAddresses text).flatMap fun split => split.1 ++ split.2 :=
    List.flatMap_congr fun split hsplit => by rw [decodePiece_kept (h split hsplit)]
  rw [hpieces]
  exact splitAddresses_flatten text

/-- The text is one contact, and decoded it is this contact decoded. -/
structure IsFaithful (field text : Text) (contact : Contact) : Prop where
  completes : Completes text contact
  decoded : Completes (decodedValue field text) (decodeContact contact)

/-- The text is one contact, and no delimiter stands within it, or else nothing of it is decoded. -/
structure IsItem (field text : Text) (contact : Contact) : Prop where
  completes : Completes text contact
  whole : (∀ c ∈ text, isDelimiter c = false) ∨
    IsKept field text ∧ decodeContact contact = contact

/-- A contact that decoding leaves alone stays as it stands, and another one is written out. -/
theorem decodePiece_contact (h : Completes text contact) :
    (decodePiece field text).text =
      if decodeContact contact = contact then text else (decodeContact contact).render := by
  have hname : Text.sameName (decodeAddress contact.address) contact.address = true ↔
      decodeContact contact = contact := by
    obtain ⟨name, address⟩ := contact
    rw [decodeContact, Contact.mk.injEq, and_iff_right rfl]
    exact ⟨(condenses_decodeAddress address).eq_of_sameName, fun h => by rw [h, sameName_refl]⟩
  have hcontact : contact? text = some contact := by
    rw [contact?, h.parse]
    rfl
  rw [decodePiece_of_some hcontact]
  simp only [hname]
  split_ifs with hsame
  · rfl
  · rfl

/-- A contact that is decoded is written out. -/
theorem IsItem.decodedValue_eq (h : IsItem field text contact)
    (hchanged : decodeContact contact ≠ contact) :
    decodedValue field text = (decodeContact contact).render := by
  have hno := h.whole.resolve_right fun hkept => hchanged hkept.2
  rw [decodedValue_piece hno, decodePiece_contact h.completes, if_neg hchanged]

/-- The address of a contact with a name holds no closing bracket when it is decoded, either. -/
theorem not_mem_decodeContact (h : Completes text contact)
    (hname : (decodeContact contact).name ≠ none) : '>' ∉ (decodeContact contact).address :=
  fun hmem => h.not_mem_address hname
    ((condenses_decodeAddress contact.address).mem (by decide) hmem)

/-- A contact of a value that need not be decoded, or that can be written out. -/
theorem IsItem.isFaithful (h : IsItem field text contact)
    (hlegible : decodeContact contact = contact ∨ Legible (decodeContact contact)) :
    IsFaithful field text contact := by
  refine ⟨h.completes, ?_⟩
  by_cases hsame : decodeContact contact = contact
  · rw [hsame]
    rcases h.whole with hno | ⟨hkept, -⟩
    · rw [decodedValue_piece hno, decodePiece_contact h.completes, if_pos hsame]
      exact h.completes
    · rw [decodedValue_kept hkept]
      exact h.completes
  · rw [h.decodedValue_eq hsame]
    exact completes_render (hlegible.resolve_left hsame)
      (atSign_mem_decodeAddress h.completes.atSign) (not_mem_decodeContact h.completes)

/-- A contact that is decoded can be written out if it is read as it was behind that. -/
theorem IsItem.legible (h : IsItem field text contact) {rest : Text} {es : List Entry}
    (hparse : parse (decodedValue field text ++ rest) = .ok (.single (decodeContact contact) :: es))
    (hrest : ∀ d ∈ rest.head?, isDelimiter d) :
    decodeContact contact = contact ∨ Legible (decodeContact contact) := by
  by_cases hsame : decodeContact contact = contact
  · exact .inl hsame
  · have hno := h.whole.resolve_right fun hkept => hsame hkept.2
    rw [h.decodedValue_eq hsame] at hparse
    refine .inr (legible_of_first hparse hrest ?_ (not_mem_decodeContact h.completes))
    intro d hd
    by_contra hdelimiter
    rw [Bool.not_eq_false] at hdelimiter
    have hascii : d.toNat < 0x80 := by
      rcases isDelimiter_iff.1 hdelimiter with rfl | rfl
      all_goals decide
    have hmem : d ∈ contact.name.getD [] ++ contact.address := by
      rw [List.mem_append] at hd ⊢
      exact hd.imp_right fun hd => (condenses_decodeAddress contact.address).mem hascii hd
    rw [hno d (h.completes.mem hmem)] at hdelimiter
    cases hdelimiter

theorem lists_decodedValue (h : Lists (IsFaithful field) contacts value) :
    Lists Completes (contacts.map decodeContact) (decodedValue field value) := by
  induction h with
  | blank hgap =>
    rw [decodedValue_piece fun c hc => isDelimiter_of_isBlank (List.all_eq_true.1 hgap c hc)]
    unfold decodePiece
    rw [if_pos hgap]
    exact .blank hgap
  | last hitem => exact .last hitem.decoded
  | cons hitem hd _ ih =>
    rw [decodedValue_append _ hd]
    exact .cons hitem.decoded hd ih

theorem lists_isFaithful (h : Lists (IsItem field) contacts value)
    (hlegible : ∀ contact ∈ contacts,
      decodeContact contact = contact ∨ Legible (decodeContact contact)) :
    Lists (IsFaithful field) contacts value := by
  induction h with
  | blank hgap => exact .blank hgap
  | last hitem => exact .last (hitem.isFaithful (hlegible _ List.mem_cons_self))
  | cons hitem hd _ ih =>
    obtain ⟨hfirst, hothers⟩ := List.forall_mem_cons.1 hlegible
    exact .cons (hitem.isFaithful hfirst) hd (ih hothers)

/-- Contacts that have to be decoded are listed only if they can be written out. -/
theorem legible_of_lists (h : Lists (IsItem field) contacts value)
    (hparse : parse (decodedValue field value) =
      .ok (contacts.map fun contact => .single (decodeContact contact))) :
    ∀ contact ∈ contacts, decodeContact contact = contact ∨ Legible (decodeContact contact) := by
  induction h with
  | blank => exact List.forall_mem_nil _
  | last hitem =>
    rw [← List.append_nil (decodedValue _ _)] at hparse
    exact List.forall_mem_singleton.2 (hitem.legible hparse (by rintro _ ⟨⟩))
  | @cons text contact d contacts rest hitem hd _ ih =>
    rw [decodedValue_append _ hd] at hparse
    have hfirst := hitem.legible hparse (by rintro _ ⟨⟩; exact hd)
    refine List.forall_mem_cons.2 ⟨hfirst, ih ?_⟩
    rw [Completes.parse_append (hitem.isFaithful hfirst).decoded hd] at hparse
    cases hrest : parse (decodedValue field rest) with
    | error e =>
      rw [hrest] at hparse
      cases hparse
    | ok es =>
      rw [hrest] at hparse
      exact congrArg Except.ok (List.cons.inj (Except.ok.inj hparse)).2

/-- **When the decoded value lists the same contacts, with their addresses decoded.**  A value is
read as contacts exactly if they stand one behind the other in it.  If each of them by itself is
decoded to what it should be, the whole is.  And if no contact that is decoded holds a delimiter,
then it is so exactly if each contact that decoding changes can be written out. -/
theorem parse_decoded {decoded : Text} (hexpand : (expandValue field value).1 = [decoded, value]) :
    (parse value = .ok (contacts.map .single) ↔ Lists Completes contacts value) ∧
    (Lists (IsFaithful field) contacts value →
      parse decoded = .ok (contacts.map fun contact => .single (decodeContact contact))) ∧
    (Lists (IsItem field) contacts value →
      (parse decoded = .ok (contacts.map fun contact => .single (decodeContact contact)) ↔
        ∀ contact ∈ contacts, decodeContact contact = contact ∨ Legible (decodeContact contact))) := by
  obtain rfl := eq_decodedValue hexpand
  have hfaithful : Lists (IsFaithful field) contacts value → parse (decodedValue field value) =
      .ok (contacts.map fun contact => .single (decodeContact contact)) := by
    intro h
    rw [parse_of_lists (lists_decodedValue h), List.map_map]
    rfl
  exact ⟨parse_eq_iff, hfaithful, fun h =>
    ⟨legible_of_lists h, fun hlegible => hfaithful (lists_isFaithful h hlegible)⟩⟩

/-- A comma in a quoted name does no harm where nothing is decoded. -/
theorem parse_decoded_three :
    let john := Contact.mk (some "Doe, John".toList) "john@example.org".toList
    let zoe := Contact.mk (some "Zoe".toList) "zoe@xn--bcher-kva.example".toList
    let bob := Contact.mk none "bob@xn--bcher-kva.example".toList
    let value := "\"Doe, John\" <john@example.org>".toList ++ ',' ::
      (" Zoe <zoe@xn--bcher-kva.example>".toList ++ ';' :: " bob@xn--bcher-kva.example".toList)
    let decoded := "\"Doe, John\" <john@example.org>,".toList ++
      "\"Zoe\" <zoe@bücher.example>;bob@bücher.example".toList
    parse value = .ok [.single john, .single zoe, .single bob] ∧
      parse decoded =
        .ok ([john, zoe, bob].map fun contact => .single (decodeContact contact)) := by
  intro john zoe bob value decoded
  have hjohn : IsItem [] "\"Doe, John\" <john@example.org>".toList john := by
    refine ⟨⟨_, by rfl, .bracketed ?_⟩, .inr ⟨?_, ?_⟩⟩
    · decide
    · unfold IsKept
      decide +kernel
    · decide +kernel
  have hzoe : IsItem [] " Zoe <zoe@xn--bcher-kva.example>".toList zoe := by
    refine ⟨⟨_, by rfl, .bracketed ?_⟩, .inl ?_⟩
    · decide
    · exact List.all_iff_forall_prop.1 rfl
  have hbob : IsItem [] " bob@xn--bcher-kva.example".toList bob := by
    refine ⟨⟨⟨[], none, .bare bob.address⟩, by rfl, .bare ?_⟩, .inl ?_⟩
    · decide
    · exact List.all_iff_forall_prop.1 rfl
  have hlists : Lists (IsItem []) [john, zoe, bob] value :=
    .cons hjohn (by decide) (.cons hzoe (by decide) (.last hbob))
  have hlegible : ∀ contact ∈ [john, zoe, bob],
      decodeContact contact = contact ∨ Legible (decodeContact contact) := by
    have hbob' : decodeContact bob = ⟨none, "bob@bücher.example".toList⟩ := by decide +kernel
    have hbare : IsBare "bob@bücher.example".toList :=
      ⟨⟨_, _, rfl, by decide, List.all_iff_forall_prop.1 rfl⟩, by decide, by decide⟩
    have hzoe' : '\\' ∉ "Zoe".toList := by decide
    simp only [List.forall_mem_cons]
    exact ⟨.inl (by decide +kernel), .inr hzoe', .inr (hbob' ▸ hbare), List.forall_mem_nil _⟩
  have hexpand : (expandValue [] value).1 = [decoded, value] := by decide +kernel
  obtain ⟨hparse, -, hdecoded⟩ := @parse_decoded [] value [john, zoe, bob] decoded hexpand
  exact ⟨hparse.2 (hlists.mono fun _ _ hitem => hitem.completes), (hdecoded hlists).2 hlegible⟩

/-- A quoted name is cut at its comma: what is left of the contact is read with a name of its own,
and written out with another pair of quotation marks. -/
theorem expandValue_cuts_name :
    ¬ ∀ (field value decoded : Text) (contacts : List Contact),
      parse value = .ok (contacts.map .single) → (expandValue field value).1 = [decoded, value] →
      parse decoded = .ok (contacts.map fun contact => .single (decodeContact contact)) := by
  intro h
  have hread := h "to".toList "\"Doe, John\" <john@xn--bcher-kva.example>".toList
    "\"Doe,\"John\\\"\" <john@bücher.example>".toList
    [⟨some "Doe, John".toList, "john@xn--bcher-kva.example".toList⟩]
    (by decide +kernel) (by decide +kernel)
  exact absurd hread (by decide +kernel)

end Postroom.Idn
