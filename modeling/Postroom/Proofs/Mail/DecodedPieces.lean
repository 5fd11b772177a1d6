import Postroom.Proofs.Mail.AddressList
import Postroom.Proofs.Mail.DecodedAddress

/-!
# The pieces of a value, decoded

A value is cut at its delimiters, and each piece is decoded on its own.  What becomes of a piece
depends on the contact that it is read as (`Idn.contact?`): an address is written out decoded if it
decodes to another name, and what is no single address is kept, with a warning unless it is blank
(`Idn.decodePiece_of_some`, `Idn.decodePiece_of_none`).
-/

namespace Postroom.Idn

open Text

/-- The contact that a text is read as, if it is a single one. -/
def contact? (text : Text) : Option Contact :=
  match Address.parse text with
  | .ok entries => Address.single? entries
  | .error _ => none

/-- Why a text is no single address. -/
def cause (text : Text) : IdnError :=
  match Address.parse text with
  | .error e => .unreadable e text
  | .ok _ => .notSingle text

/-- The warning that a piece of a field is no single address. -/
def complaint (field piece : Text) : Notice :=
  .warning ("invalid address ".toList ++ piece ++ " in header ".toList ++ field ++ ": ".toList
    ++ (cause piece).message)

variable {field piece text : Text} {contact : Contact}

/-! ## One piece -/

theorem contact?_of_blank (h : isBlankText text) : contact? text = none := by
  have hparse : Address.parse text = .ok [] := by
    unfold Address.parse
    rw [Address.Reading.run_blanks rfl h]
    rfl
  unfold contact?
  rw [hparse]
  rfl

theorem decodeSingle_of_some (h : contact? text = some contact) :
    decodeSingle text =
      .ok (if sameName (decodeAddress contact.address) contact.address then none
        else some (decodeContact contact).render) := by
  unfold contact? at h
  unfold decodeSingle
  cases hparse : Address.parse text with
  | error e =>
    rw [hparse] at h
    cases h
  | ok entries =>
    rw [hparse] at h
    simp only at h ⊢
    rw [h]
    rfl

theorem decodeSingle_of_none (h : contact? text = none) :
    decodeSingle text = .error (cause text) := by
  unfold contact? at h
  unfold decodeSingle cause
  cases hparse : Address.parse text with
  | error e => rfl
  | ok entries =>
    rw [hparse] at h
    simp only at h ⊢
    rw [h]

/-- A piece that is an address is written out decoded, unless it decodes to the same name. -/
theorem decodePiece_of_some (h : contact? piece = some contact) :
    decodePiece field piece =
      if sameName (decodeAddress contact.address) contact.address then ⟨piece, false, []⟩
      else ⟨(decodeContact contact).render, true, []⟩ := by
  have hblank : ¬ isBlankText piece = true := by
    intro hblank
    rw [contact?_of_blank hblank] at h
    cases h
  unfold decodePiece
  rw [if_neg hblank, decodeSingle_of_some h]
  split_ifs with hsame
  · rfl
  · rfl

/-- A piece that is no address is kept, and a warning goes with it unless it is blank. -/
theorem decodePiece_of_none (h : contact? piece = none) :
    decodePiece field piece =
      ⟨piece, false, if isBlankText piece then [] else [complaint field piece]⟩ := by
  unfold decodePiece
  rw [decodeSingle_of_none h]
  split_ifs with hblank
  · rfl
  · rfl

theorem decodePiece_congr (field other piece : Text) :
    (decodePiece field piece).text = (decodePiece other piece).text ∧
      (decodePiece field piece).isDecoded = (decodePiece other piece).isDecoded := by
  cases hcontact : contact? piece with
  | none =>
    rw [decodePiece_of_none hcontact, decodePiece_of_none hcontact]
    exact ⟨rfl, rfl⟩
  | some contact =>
    rw [decodePiece_of_some hcontact, decodePiece_of_some hcontact]
    exact ⟨rfl, rfl⟩

end Postroom.Idn
