import Postroom.Mail.Forward
import Postroom.Proofs.Text.Ascii

/-!
# Where the author's address comes from

Whatever an address list holds, its first address is made of characters of the list, in their order;
comments, names and blanks are only left out.  So the domain of an author, unless it is the default,
stands in the value of a field of the message, behind an `@`.
-/

namespace Postroom

namespace Address

open Text

/-- The addresses of an entry. -/
def addressesOf : Entry → List Text
  | .single contact => [contact.address]
  | .group _ members => members.map (·.address)

/-- What may still become an address. -/
def Place.held : Place → Text
  | bracketed _ text | bare text | commentInBare text => text
  | start | groupStart | quoted _ | escaped _ | afterQuoted _ _ | afterBracketed
  | commentAfterBracketed => []

namespace Reading

/-- All addresses that a reading has completed or begun are made of characters of the text, in
order. -/
structure Within (r : Reading) (text : Text) : Prop where
  entries : ∀ e ∈ r.entries, ∀ a ∈ addressesOf e, a.Sublist text
  group : ∀ group members, r.openGroup = some (group, members) →
    ∀ contact ∈ members, contact.address.Sublist text
  held : r.place.held.Sublist text

variable {r r' : Reading} {text : Text} {c : Char} {place : Place}

theorem Within.mono {text' : Text} (h : r.Within text) (hsub : text.Sublist text') :
    r.Within text' where
  entries e he a ha := (h.entries e he a ha).trans hsub
  group group members hgroup contact hc := (h.group group members hgroup contact hc).trans hsub
  held := h.held.trans hsub

theorem Within.moveTo (h : r.Within text) (hheld : place.held.Sublist text) :
    (r.moveTo place).Within text where
  entries := h.entries
  group := h.group
  held := hheld

theorem Within.add (h : r.Within text) {name : Option Text} {address : Text}
    (haddress : address.Sublist text) (hheld : place.held = [])
    (hadd : r.add name address place = .ok r') : r'.Within text := by
  have hplace : place.held.Sublist text := hheld ▸ List.nil_sublist text
  unfold Reading.add at hadd
  split at hadd
  · split at hadd
    · rename_i group members hgroup
      cases hadd
      refine ⟨h.entries, ?_, hplace⟩
      rintro _ _ ⟨⟩ contact hc
      rcases List.mem_append.1 hc with hc | hc
      · exact h.group group members hgroup contact hc
      · obtain rfl := List.mem_singleton.1 hc
        exact haddress
    · rename_i hgroup
      cases hadd
      refine ⟨?_, h.group, hplace⟩
      intro e he a ha
      rcases List.mem_append.1 he with he | he
      · exact h.entries e he a ha
      · obtain rfl := List.mem_singleton.1 he
        obtain rfl := List.mem_singleton.1 ha
        exact haddress
  · cases hadd

theorem Within.close (h : r.Within text) : r.close.Within text := by
  unfold Reading.close
  split
  · rename_i group members hgroup
    refine ⟨?_, by simp, List.nil_sublist _⟩
    intro e he a ha
    rcases List.mem_append.1 he with he | he
    · exact h.entries e he a ha
    · obtain rfl := List.mem_singleton.1 he
      obtain ⟨contact, hc, rfl⟩ := List.mem_map.1 ha
      exact h.group group members hgroup contact hc
  · exact h.moveTo (List.nil_sublist _)

theorem Within.begin {name : Text} (h : r.Within text) (hbegin : r.begin name = .ok r') :
    r'.Within text := by
  unfold Reading.begin at hbegin
  split at hbegin
  · cases hbegin
  · cases hbegin
    refine ⟨h.entries, ?_, List.nil_sublist _⟩
    rintro _ _ ⟨⟩ contact hc
    cases hc

theorem Within.stepStart (h : r.Within text) (hstep : r.stepStart c = .ok r') :
    r'.Within (text ++ [c]) := by
  have hwhole := h.mono (List.sublist_append_left text [c])
  unfold Reading.stepStart at hstep
  split_ifs at hstep <;> cases hstep
  · exact hwhole.moveTo (List.nil_sublist _)
  · exact hwhole.moveTo (List.nil_sublist _)
  · exact hwhole.moveTo (List.nil_sublist _)
  · exact hwhole.close
  · exact hwhole.moveTo (List.sublist_append_right text [c])

theorem Within.stepAfterQuoted {name gap : Text} (h : r.Within text)
    (hstep : r.stepAfterQuoted name gap c = .ok r') : r'.Within (text ++ [c]) := by
  have hwhole := h.mono (List.sublist_append_left text [c])
  unfold Reading.stepAfterQuoted at hstep
  split_ifs at hstep
  · cases hstep
    exact hwhole.moveTo (List.nil_sublist _)
  · cases hstep
    exact hwhole.moveTo (List.nil_sublist _)
  · exact hwhole.begin hstep
  · cases hstep
    exact hwhole.moveTo (List.nil_sublist _)
  · cases hstep
    exact hwhole.moveTo (List.nil_sublist _)

theorem Within.stepAfterBracketed (h : r.Within text) (hstep : r.stepAfterBracketed c = .ok r') :
    r'.Within (text ++ [c]) := by
  have hwhole := h.mono (List.sublist_append_left text [c])
  unfold Reading.stepAfterBracketed at hstep
  split_ifs at hstep <;> cases hstep
  · exact hwhole
  · exact hwhole.moveTo (List.nil_sublist _)
  · exact hwhole.close
  · exact hwhole.moveTo (List.nil_sublist _)

theorem Within.stepBare {bare : Text} (h : r.Within text) (hbare : bare.Sublist text)
    (hstep : r.stepBare bare c = .ok r') : r'.Within (text ++ [c]) := by
  have hwhole := h.mono (List.sublist_append_left text [c])
  have haddress : (trimEnd bare).Sublist (text ++ [c]) :=
    (trimEnd_sublist bare).trans (hbare.trans (List.sublist_append_left text [c]))
  unfold Reading.stepBare at hstep
  split_ifs at hstep
  · cases hstep
    exact hwhole.moveTo (List.nil_sublist _)
  · exact hwhole.add haddress rfl hstep
  · cases hadd : r.add none (trimEnd bare) .start with
    | error e =>
      rw [hadd] at hstep
      cases hstep
    | ok next =>
      rw [hadd] at hstep
      cases hstep
      exact (hwhole.add haddress rfl hadd).close
  · exact hwhole.begin hstep
  · cases hstep
    exact hwhole.moveTo (hbare.trans (List.sublist_append_left text [c]))
  · cases hstep
    exact hwhole.moveTo (hbare.append (List.Sublist.refl [c]))

/-- A character leaves the reading within what has been read. -/
theorem Within.step (h : r.Within text) (hstep : r.step c = .ok r') :
    r'.Within (text ++ [c]) := by
  have hwhole := h.mono (List.sublist_append_left text [c])
  have hheld := h.held
  unfold Reading.step at hstep
  split at hstep
  case h_1 | h_2 => exact h.stepStart hstep
  case h_3 name hplace =>
    split_ifs at hstep <;> cases hstep <;> exact hwhole.moveTo (List.nil_sublist _)
  case h_4 name hplace =>
    cases hstep
    exact hwhole.moveTo (List.nil_sublist _)
  case h_5 name gap hplace => exact h.stepAfterQuoted hstep
  case h_6 name address hplace =>
    -- the only place but bare text where a character is kept for an address
    rw [hplace] at hheld
    split_ifs at hstep
    · exact hwhole.add (hheld.trans (List.sublist_append_left text [c])) rfl hstep
    · cases hstep
      exact hwhole.moveTo (hheld.append (List.Sublist.refl [c]))
  case h_7 => exact h.stepAfterBracketed hstep
  case h_8 bare hplace => exact h.stepBare (by simpa [hplace, Place.held] using hheld) hstep
  case h_9 bare hplace =>
    rw [hplace] at hheld
    cases hstep
    split
    · exact hwhole.moveTo (hheld.trans (List.sublist_append_left text [c]))
    · exact hwhole
  case h_10 =>
    cases hstep
    split
    · exact hwhole.moveTo (List.nil_sublist _)
    · exact hwhole

theorem Within.run {rest : Text} (h : r.Within text) (hrun : r.run rest = .ok r') :
    r'.Within (text ++ rest) := by
  induction rest generalizing r text with
  | nil =>
    cases hrun
    simpa using h
  | cons c rest ih =>
    unfold Reading.run at hrun
    split at hrun
    · rename_i next hnext
      simpa using ih (h.step hnext) hrun
    · cases hrun

theorem Within.finish {entries : List Entry} (h : r.Within text)
    (hfinish : r.finish = .ok entries) : ∀ e ∈ entries, ∀ a ∈ addressesOf e, a.Sublist text := by
  unfold Reading.finish at hfinish
  split at hfinish
  case h_1 =>
    cases hfinish
    exact h.close.entries
  case h_2 => cases hfinish
  case h_3 | h_4 | h_5 =>
    cases hfinish
    exact h.entries
  case h_6 bare hgroup hplace =>
    cases hadd : r.add none (trimEnd bare) .start with
    | error e =>
      rw [hadd] at hfinish
      cases hfinish
    | ok next =>
      rw [hadd] at hfinish
      cases hfinish
      have hheld := h.held
      rw [hplace] at hheld
      exact (h.add ((trimEnd_sublist bare).trans hheld) rfl hadd).entries
  case h_7 => cases hfinish

end Reading

/-- The first address of a list is made of characters of the list, in order. -/
theorem first?_sublist {text address : Text} (h : first? text = some address) :
    address.Sublist text := by
  have hinitial : Reading.initial.Within [] :=
    ⟨by simp [Reading.initial], by simp [Reading.initial], List.Sublist.refl _⟩
  unfold first? parse at h
  split at h
  · rename_i entries hentries
    split at hentries
    · rename_i r hrun
      obtain ⟨e, he, haddress⟩ := List.exists_of_findSome?_eq_some h
      refine (hinitial.run hrun).finish hentries e he address ?_
      cases e with
      | single contact => exact List.mem_singleton.2 (Option.some_inj.1 haddress).symm
      | group name members =>
        obtain ⟨contact, hhead, rfl⟩ := Option.map_eq_some_iff.1 haddress
        exact List.mem_map_of_mem (List.mem_of_mem_head? hhead)
    · cases hentries
  · cases h

end Address

theorem Message.exists_of_header {m : Message} {name value : Text}
    (h : m.header name = some value) : ∃ f ∈ m.fields, f.2 = value := by
  obtain ⟨f, hf, rfl⟩ := Option.map_eq_some_iff.1 h
  exact ⟨f, List.mem_of_find?_eq_some hf, rfl⟩

/-- The author's address is made of characters of a field's value, in order. -/
theorem Message.sender_sublist (m : Message) :
    m.sender = [] ∨ ∃ f ∈ m.fields, m.sender.Sublist f.2 := by
  unfold sender
  cases hfind : ["From".toList, "Sender".toList].findSome? m.header with
  | none => exact Or.inl rfl
  | some value =>
    obtain ⟨name, -, hheader⟩ := List.exists_of_findSome?_eq_some hfind
    obtain ⟨f, hf, rfl⟩ := exists_of_header hheader
    refine Or.inr ⟨f, hf, ?_⟩
    show ((Address.first? f.2).getD (Text.trim f.2)).Sublist f.2
    cases hfirst : Address.first? f.2 with
    | none => exact (Text.trimEnd_sublist _).trans (List.dropWhile_sublist _)
    | some address => exact Address.first?_sublist hfirst

/-- The author's domain stands behind an `@` in a field's value, unless it is the default. -/
theorem Forward.domain_sublist (m : Message) :
    domain m = "localhost".toList ∨ ∃ f ∈ m.fields, ('@' :: domain m).Sublist f.2 := by
  unfold domain
  split
  · rename_i before c rest hsplit
    have hsender := Text.eq_of_splitLast hsplit
    rcases m.sender_sublist with hnil | ⟨f, hf, hsub⟩
    · rw [hnil] at hsender
      simp at hsender
    · rw [hsender] at hsub
      exact Or.inr ⟨f, hf, (List.sublist_append_right before _).trans hsub⟩
  · exact Or.inl rfl

end Postroom
