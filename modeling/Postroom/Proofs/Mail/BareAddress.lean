import Mathlib.Data.List.DropRight
import Postroom.Mail.Recipient
import Postroom.Proofs.Mail.AddressSteps
import Postroom.Proofs.Text.Ascii

/-!
# Addresses that read as themselves

An address is taken from a text as it stands there, or it is cut out between angle brackets, where
anything may stand.  In the first case it reads as itself again; in the second it may be longer than
an address, read as several, or open a group.  `Recipient.parse_self_iff` says which recipients
read as themselves: those that are bare addresses.
-/

namespace Postroom

namespace Address

open Text

/-- The text begins like bare text, and nothing in it ends such text. -/
def StandsBare (t : Text) : Prop :=
  ∃ c rest, t = c :: rest ∧ beginsBare c ∧ ∀ d ∈ rest, endsBare d = false

/-- The text is an address that is read as it stands. -/
structure IsBare (t : Text) : Prop where
  stands : StandsBare t
  trimmed : trimEnd t = t
  atSign : '@' ∈ t

theorem trimEnd_cons {c : Char} (h : isBlank c = false) (t : Text) :
    trimEnd (c :: t) = c :: trimEnd t := by
  have hsingle : [c].dropWhile isBlank = [c] := by rw [List.dropWhile_cons, h]; rfl
  unfold trimEnd
  rw [List.reverse_cons, List.dropWhile_append, hsingle]
  cases t.reverse.dropWhile isBlank with
  | nil => rfl
  | cons d rest => simp

theorem StandsBare.isBare {t : Text} (h : StandsBare t) (hat : '@' ∈ trimEnd t) :
    IsBare (trimEnd t) := by
  obtain ⟨c, rest, rfl, hc, hrest⟩ := h
  have hblank : isBlank c = false := by
    unfold beginsBare at hc
    simp_all
  refine ⟨⟨c, trimEnd rest, trimEnd_cons hblank rest, hc, ?_⟩, ?_, hat⟩
  · exact fun d hd => hrest d ((trimEnd_sublist rest).subset hd)
  · exact List.rdropWhile_idempotent (p := isBlank) (c :: rest)

/-- The contact is an address that is read as it stands, or its address has been cut out of the
text. -/
def IsSourced (text : Text) (c : Contact) : Prop :=
  c.name = none ∧ IsBare c.address ∨
    '<' ∈ text ∧ c.address.length < text.length ∧ '>' ∉ c.address

theorem IsSourced.concat {text : Text} {contact : Contact} (h : IsSourced text contact) (c : Char) :
    IsSourced (text ++ [c]) contact := by
  refine h.imp_right fun h => ⟨List.mem_append_left [c] h.1, ?_, h.2.2⟩
  rw [List.length_append, List.length_singleton]
  exact Nat.lt_succ_of_lt h.2.1

/-- What is held at a place is read as it stands, or has been cut out of the text. -/
def Place.IsSourced (text : Text) : Place → Prop
  | bracketed _ address => '<' ∈ text ∧ address.length < text.length ∧ '>' ∉ address
  | bare t | commentInBare t => StandsBare t
  | start | groupStart | quoted _ | escaped _ | afterQuoted _ _ | afterBracketed
  | commentAfterBracketed => True

theorem StandsBare.concat {t : Text} {c : Char} (h : StandsBare t) (hc : endsBare c = false) :
    StandsBare (t ++ [c]) := by
  obtain ⟨first, rest, rfl, hfirst, hrest⟩ := h
  exact ⟨first, rest ++ [c], rfl, hfirst,
    List.forall_mem_append.2 ⟨hrest, List.forall_mem_singleton.2 hc⟩⟩

theorem Shift.isSourced {place place' : Place} {c : Char} {text : Text} (h : Shift place c place')
    (hplace : place.IsSourced text) : place'.IsSourced (text ++ [c]) := by
  have hlength : (text ++ [c]).length = text.length + 1 := by
    rw [List.length_append, List.length_singleton]
  cases h with
  | bare hbegins => exact ⟨c, [], rfl, hbegins, List.forall_mem_nil _⟩
  | goOn hc => exact StandsBare.concat hplace hc
  | bareRemark | endBareRemark | inBareRemark => exact hplace
  | address hc =>
    obtain ⟨hmem, hshorter, hno⟩ := hplace
    refine ⟨List.mem_append_left _ hmem, ?_, ?_⟩
    · rw [List.length_append, hlength]
      exact Nat.succ_lt_succ hshorter
    · simp [hno, Ne.symm hc]
  | bracket | quotedName | bareName =>
    refine ⟨List.mem_append_right _ List.mem_cons_self, ?_, List.not_mem_nil⟩
    rw [hlength]
    exact Nat.succ_pos _
  | _ => trivial

namespace Reading

variable {r r' : Reading} {c : Char} {text : Text}

/-- Every contact that has been read is an address that is read as it stands, or its address has
been cut out of the text. -/
structure IsSourced (r : Reading) (text : Text) : Prop where
  contacts : ∀ c ∈ r.contacts, Address.IsSourced text c
  place : r.place.IsSourced text

theorem IsSourced.step (h : r.IsSourced text) (htaken : r.Taken c r') :
    r'.IsSourced (text ++ [c]) := by
  have hcontacts : ∀ a ∈ r.contacts, Address.IsSourced (text ++ [c]) a :=
    fun a ha => (h.contacts a ha).concat c
  have hadd : ∀ {name address place r'}, r.add name address place = .ok r' →
      Address.IsSourced (text ++ [c]) ⟨name, address⟩ →
      ∀ a ∈ r'.contacts, Address.IsSourced (text ++ [c]) a := by
    intro name address place r' hadd hcontact
    rw [(contacts_add hadd).2.2]
    exact List.forall_mem_append.2 ⟨hcontacts, List.forall_mem_singleton.2 hcontact⟩
  have hplace := h.place
  cases htaken with
  | moved heq hshift => exact ⟨hcontacts, hshift.isSourced (heq ▸ hplace)⟩
  | @bracketed name address r' heq hc hcontact =>
    rw [heq] at hplace
    have hcut : Address.IsSourced text ⟨name, address⟩ := .inr hplace
    refine ⟨hadd hcontact (hcut.concat c), ?_⟩
    rw [(contacts_add hcontact).2.1]
    trivial
  | bare heq hc hcontact =>
    obtain ⟨hat, hstart, -⟩ := contacts_add hcontact
    rw [heq] at hplace
    refine ⟨hadd hcontact (.inl ⟨rfl, StandsBare.isBare hplace hat⟩), ?_⟩
    rw [hstart]
    trivial
  | bareLast heq hc hcontact =>
    rw [heq] at hplace
    have hbare := StandsBare.isBare hplace (contacts_add hcontact).1
    refine ⟨(contacts_close _).symm ▸ hadd hcontact (.inl ⟨rfl, hbare⟩), ?_⟩
    rw [place_close]
    trivial
  | closed =>
    refine ⟨contacts_close r ▸ hcontacts, ?_⟩
    rw [place_close]
    trivial
  | begun hc hbegin =>
    refine ⟨contacts_begin hbegin ▸ hcontacts, ?_⟩
    rw [place_begin hbegin]
    trivial

theorem IsSourced.run {rest : Text} (h : r.IsSourced text) (hrun : r.run rest = .ok r') :
    r'.IsSourced (text ++ rest) := by
  induction rest generalizing r text with
  | nil =>
    cases hrun
    rwa [List.append_nil]
  | cons c rest ih =>
    unfold Reading.run at hrun
    split at hrun
    · rename_i next hnext
      rw [← List.singleton_append, ← List.append_assoc]
      exact ih (h.step (taken_step hnext)) hrun
    · cases hrun

theorem IsSourced.finish {entries : List Entry} (h : r.IsSourced text)
    (hfinish : r.finish = .ok entries) :
    ∀ e ∈ entries, ∀ c ∈ e.contacts, Address.IsSourced text c := by
  have hentries : ∀ r : Reading, (∀ c ∈ r.contacts, Address.IsSourced text c) →
      ∀ e ∈ r.entries, ∀ c ∈ e.contacts, Address.IsSourced text c :=
    fun r hcontacts e he c hc =>
      hcontacts c (List.mem_append_left _ (List.mem_flatMap_of_mem he hc))
  unfold Reading.finish at hfinish
  split at hfinish
  case h_1 =>
    cases hfinish
    exact hentries r.close (contacts_close r ▸ h.contacts)
  case h_2 | h_7 => cases hfinish
  case h_3 | h_4 | h_5 =>
    cases hfinish
    exact hentries r h.contacts
  case h_6 bare hgroup hplace =>
    have hstands : StandsBare bare := by
      have hheld := h.place
      rwa [hplace] at hheld
    cases hadd : r.add none (trimEnd bare) .start with
    | error e =>
      rw [hadd] at hfinish
      cases hfinish
    | ok next =>
      rw [hadd] at hfinish
      cases hfinish
      obtain ⟨hat, -, heq⟩ := contacts_add hadd
      refine hentries next (heq ▸ List.forall_mem_append.2 ⟨h.contacts, ?_⟩)
      exact List.forall_mem_singleton.2 (.inl ⟨rfl, hstands.isBare hat⟩)

/-- Bare text goes on until something ends it. -/
theorem run_bare {rest : Text} (hplace : r.place = .bare text)
    (hrest : ∀ c ∈ rest, endsBare c = false) :
    r.run rest = .ok (r.moveTo (.bare (text ++ rest))) := by
  induction rest generalizing r text with
  | nil => rw [List.append_nil, moveTo_eq hplace, run]
  | cons c rest ih =>
    obtain ⟨hc, hrest⟩ := List.forall_mem_cons.1 hrest
    rw [run, step_of_shift hplace (.goOn hc)]
    simp only
    rw [ih rfl hrest, List.append_assoc, List.singleton_append]
    rfl

end Reading

theorem run_of_isBare {t : Text} (h : IsBare t) :
    Reading.initial.run t = .ok (Reading.initial.moveTo (.bare t)) := by
  obtain ⟨c, rest, rfl, hc, hrest⟩ := h.stands
  have hfirst : Reading.initial.step c = .ok (Reading.initial.moveTo (.bare [c])) :=
    Reading.step_of_shift rfl (.bare hc (.inl rfl))
  rw [Reading.run, hfirst]
  exact Reading.run_bare (r := Reading.initial.moveTo (.bare [c])) rfl hrest

/-- An address that is read as it stands is one contact without a name. -/
theorem parse_of_isBare {t : Text} (h : IsBare t) : parse t = .ok [.single ⟨none, t⟩] := by
  unfold parse
  rw [run_of_isBare h]
  unfold Reading.finish Reading.moveTo Reading.add
  simp only [Reading.initial, h.trimmed]
  rw [if_pos h.atSign]
  rfl

theorem isSourced_of_parse {t : Text} {entries : List Entry} (h : parse t = .ok entries) :
    ∀ e ∈ entries, ∀ c ∈ e.contacts, IsSourced t c := by
  have hinitial : Reading.initial.IsSourced [] := ⟨List.forall_mem_nil _, trivial⟩
  unfold parse at h
  split at h
  · rename_i r hrun
    exact (hinitial.run hrun).finish h
  · cases h

end Address

namespace Recipient

open Address

theorem parse_eq_ok_iff {s r : Text} :
    parse s = .ok r ↔ ∃ name, Address.parse s = .ok [.single ⟨name, r⟩] ∧ '@' ∈ r := by
  constructor
  · intro h
    unfold parse at h
    split at h
    · cases h
    · rename_i entries hentries
      split at h
      · rename_i contact hsingle
        split_ifs at h with hat
        cases h
        unfold single? at hsingle
        split at hsingle
        · cases hsingle
          exact ⟨contact.name, hentries, hat⟩
        · cases hsingle
      · cases h
  · rintro ⟨name, hentries, hat⟩
    unfold parse
    rw [hentries]
    exact if_pos hat

/-- **A recipient reads as itself unless it was cut out of angle brackets.** -/
theorem parse_self_iff {s r : Text} (h : parse s = .ok r) :
    (parse r = .ok r ↔ IsBare r) ∧ ('<' ∉ s → IsBare r) := by
  obtain ⟨name, hparse, hat⟩ := parse_eq_ok_iff.1 h
  have hsourced : ∀ {t name}, Address.parse t = .ok [.single ⟨name, r⟩] →
      IsBare r ∨ '<' ∈ t ∧ r.length < t.length := by
    intro t name hparse
    have hsourced := isSourced_of_parse hparse _ List.mem_cons_self _ List.mem_cons_self
    exact hsourced.imp (fun h => h.2) fun h => ⟨h.1, h.2.1⟩
  refine ⟨⟨?_, ?_⟩, ?_⟩
  · intro hself
    obtain ⟨name', hself', -⟩ := parse_eq_ok_iff.1 hself
    exact (hsourced hself').resolve_right fun hcut => Nat.lt_irrefl _ hcut.2
  · intro hbare
    exact parse_eq_ok_iff.2 ⟨none, parse_of_isBare hbare, hat⟩
  · intro hno
    exact (hsourced hparse).resolve_right fun hcut => hno hcut.1

/-- A quoted name and a comment around an address do not matter. -/
theorem parse_self_named :
    let s := "\"Carol, C.\" <carol@localhost> (at work)".toList
    let r := "carol@localhost".toList
    parse s = .ok r ∧ (parse r = .ok r ↔ IsBare r) ∧ ('<' ∉ s → IsBare r) := by
  intro s r
  have h : parse s = .ok r := by decide +kernel
  exact ⟨h, parse_self_iff h⟩

/-- Two addresses between one pair of angle brackets are accepted as one, and read again they are
two. -/
theorem parse_accepts_two : ¬ ∀ s r : Text, parse s = .ok r → parse r = .ok r := by
  intro h
  have htwo := h "<a@b, c@d>".toList "a@b, c@d".toList (by decide +kernel)
  exact absurd htwo (by decide +kernel)

end Recipient

end Postroom
