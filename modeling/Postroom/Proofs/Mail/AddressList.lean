import Mathlib.Data.List.Basic
import Postroom.Mail.Idn
import Postroom.Proofs.Mail.BareAddress

/-!
# Lists of contacts

`Address.Completes` says that a text has been read as one contact up to its last character, so that
a delimiter or the end of the field may follow.  `Address.Lists` puts such texts one behind the
other, and `parse_of_lists` says that they are read as the list of their contacts: the reading of
one text does not depend on the entries before it (`Reading.run_behind`).

A contact that is written out again is read as it was if its name has no backslash, or if it has no
name and its address is a bare one (`completes_render`).
-/

namespace Postroom.Address

open Text Idn

namespace Reading

variable {r : Reading} {c : Char} {contact : Contact}

/-- The reading with entries before its own. -/
def behind (es : List Entry) (r : Reading) : Reading :=
  { r with entries := es ++ r.entries }

theorem close_behind (es : List Entry) (r : Reading) :
    (r.behind es).close = r.close.behind es := by
  obtain ⟨entries, openGroup, place⟩ := r
  cases openGroup with
  | none => rfl
  | some g => simp [close, behind]

theorem add_behind (es : List Entry) (r : Reading) (name : Option Text) (address : Text)
    (place : Place) :
    (r.behind es).add name address place = (r.add name address place).map (behind es) := by
  unfold add behind
  split_ifs
  · cases r.openGroup with
    | none => simp [Except.map]
    | some g => rfl
  · rfl

theorem begin_behind (es : List Entry) (r : Reading) (name : Text) :
    (r.behind es).begin name = (r.begin name).map (behind es) := by
  unfold begin behind
  cases r.openGroup <;> rfl

theorem step_behind (es : List Entry) (r : Reading) (c : Char) :
    (r.behind es).step c = (r.step c).map (behind es) := by
  have hplace : (r.behind es).place = r.place := rfl
  have hgroup : (r.behind es).openGroup = r.openGroup := rfl
  unfold step
  rw [hplace]
  cases r.place with
  | start | groupStart =>
    simp only [stepStart, close_behind, hgroup]
    split_ifs <;> rfl
  | quoted name =>
    simp only
    split_ifs <;> rfl
  | escaped name => rfl
  | afterQuoted name gap =>
    simp only [stepAfterQuoted, begin_behind]
    split_ifs <;> rfl
  | bracketed name address =>
    simp only [add_behind]
    split_ifs <;> rfl
  | afterBracketed =>
    simp only [stepAfterBracketed, close_behind]
    split_ifs <;> rfl
  | bare text =>
    simp only [stepBare, add_behind, begin_behind]
    split_ifs
    · rfl
    · rfl
    · cases r.add none (trimEnd text) .start with
      | error e => rfl
      | ok next => exact congrArg Except.ok (close_behind es next)
    · rfl
    · rfl
    · rfl
  | commentInBare text | commentAfterBracketed =>
    simp only [Except.map]
    split_ifs <;> rfl

/-- What comes next is read the same way whatever has been read before. -/
theorem run_behind (es : List Entry) (r : Reading) (t : Text) :
    (r.behind es).run t = (r.run t).map (behind es) := by
  induction t generalizing r with
  | nil => rfl
  | cons c t ih =>
    unfold run
    rw [step_behind]
    cases r.step c with
    | error e => rfl
    | ok next => exact ih next

theorem run_append {s t : Text} {next : Reading} (h : r.run s = .ok next) :
    r.run (s ++ t) = next.run t := by
  induction s generalizing r with
  | nil =>
    cases h
    rfl
  | cons c s ih =>
    rw [run] at h
    rw [List.cons_append, run]
    cases hstep : r.step c with
    | error e =>
      rw [hstep] at h
      cases h
    | ok next' =>
      rw [hstep] at h
      exact ih h

/-- Blanks before an entry do not matter. -/
theorem run_blanks {gap : Text} (hplace : r.place = .start) (h : isBlankText gap) :
    r.run gap = .ok r := by
  induction gap with
  | nil => rfl
  | cons c gap ih =>
    obtain ⟨hc, hgap⟩ := List.forall_mem_cons.1 (List.all_eq_true.1 h)
    rw [run, step_of_shift hplace (.blank hc (.inl rfl)), moveTo_eq hplace]
    exact ih (List.all_eq_true.2 hgap)

/-- What has been read is one contact, and nothing of it is missing. -/
inductive Holds : Reading → Contact → Prop
  | bracketed {contact : Contact} (hat : '@' ∈ contact.address) :
    Holds ⟨[.single contact], none, .afterBracketed⟩ contact
  | bare {text : Text} (hat : '@' ∈ trimEnd text) :
    Holds ⟨[], none, .bare text⟩ ⟨none, trimEnd text⟩

theorem Holds.step (h : r.Holds contact) (es : List Entry) (hc : isDelimiter c) :
    (r.behind es).step c = .ok ⟨es ++ [.single contact], none, .start⟩ := by
  have hcases := isDelimiter_iff.1 hc
  cases h with
  | bracketed => rcases hcases with rfl | rfl <;> rfl
  | bare hat =>
    rcases hcases with rfl | rfl
    all_goals simp [Reading.step, behind, stepBare, add, hat, Except.map, close, moveTo]

theorem Holds.finish (h : r.Holds contact) (es : List Entry) :
    (r.behind es).finish = .ok (es ++ [.single contact]) := by
  cases h with
  | bracketed => rfl
  | bare hat =>
    simp only [Reading.finish, behind, add, if_pos hat, List.append_nil]
    rfl

theorem Holds.mem_contacts (h : r.Holds contact) (hname : contact.name ≠ none) :
    contact ∈ r.contacts := by
  cases h with
  | bracketed => exact List.mem_cons_self
  | bare => exact absurd rfl hname

end Reading

/-- The text is one contact, and the next character may be a delimiter. -/
def Completes (text : Text) (contact : Contact) : Prop :=
  ∃ r, Reading.initial.run text = .ok r ∧ r.Holds contact

/-- The texts of these contacts stand one behind the other, each with a delimiter behind it but the
last, where blanks may follow the delimiter. -/
inductive Lists (IsItem : Text → Contact → Prop) : List Contact → Text → Prop
  | blank {gap} (h : isBlankText gap) : Lists IsItem [] gap
  | last {text contact} (h : IsItem text contact) : Lists IsItem [contact] text
  | cons {text contact d contacts rest} (h : IsItem text contact) (hd : isDelimiter d)
    (hrest : Lists IsItem contacts rest) : Lists IsItem (contact :: contacts) (text ++ d :: rest)

variable {text value : Text} {contact : Contact} {contacts : List Contact}

theorem Completes.parse (h : Completes text contact) :
    Address.parse text = .ok [.single contact] := by
  obtain ⟨r, hrun, hholds⟩ := h
  unfold Address.parse
  rw [hrun]
  exact hholds.finish []

theorem Completes.run (h : Completes text contact) (es : List Entry) :
    ∃ r : Reading, (Reading.mk es none .start).run text = .ok (r.behind es) ∧
      r.Holds contact := by
  obtain ⟨r, hrun, hholds⟩ := h
  have hbehind := Reading.run_behind es Reading.initial text
  have hstart : Reading.initial.behind es = ⟨es, none, .start⟩ := by
    unfold Reading.behind Reading.initial
    rw [List.append_nil]
  rw [hrun, hstart] at hbehind
  exact ⟨r, hbehind, hholds⟩

theorem Lists.mono {IsItem IsItem' : Text → Contact → Prop}
    (himp : ∀ t c, IsItem t c → IsItem' t c) (h : Lists IsItem contacts value) :
    Lists IsItem' contacts value := by
  induction h with
  | blank hgap => exact .blank hgap
  | last hitem => exact .last (himp _ _ hitem)
  | cons hitem hd _ ih => exact .cons (himp _ _ hitem) hd ih

/-- **Texts of contacts, one behind the other, are read as the list of the contacts.** -/
theorem parse_of_lists (h : Lists Completes contacts value) :
    parse value = .ok (contacts.map .single) := by
  have hread : ∀ es, ∃ r, (Reading.mk es none .start).run value = .ok r ∧
      r.finish = .ok (es ++ contacts.map .single) := by
    induction h with
    | blank hgap =>
      intro es
      exact ⟨_, Reading.run_blanks rfl hgap, congrArg Except.ok (List.append_nil es).symm⟩
    | last hitem =>
      intro es
      obtain ⟨r, hrun, hholds⟩ := hitem.run es
      exact ⟨r.behind es, hrun, hholds.finish es⟩
    | cons hitem hd _ ih =>
      intro es
      obtain ⟨r, hrun, hholds⟩ := hitem.run es
      obtain ⟨r', hrest, hfinish⟩ := ih (es ++ [.single _])
      refine ⟨r', ?_, ?_⟩
      · rw [Reading.run_append hrun, Reading.run, hholds.step es hd]
        exact hrest
      · rw [hfinish, List.append_assoc]
        rfl
  obtain ⟨r, hrun, hfinish⟩ := hread []
  unfold parse
  rw [Reading.initial, hrun]
  exact hfinish

theorem Completes.atSign (h : Completes text contact) : '@' ∈ contact.address := by
  obtain ⟨r, -, hholds⟩ := h
  cases hholds with
  | bracketed hat => exact hat
  | bare hat => exact hat

/-- The address of a contact with a name ends at the first closing bracket. -/
theorem Completes.not_mem_address (h : Completes text contact) (hname : contact.name ≠ none) :
    '>' ∉ contact.address := by
  obtain ⟨r, hrun, hholds⟩ := h
  have hinitial : Reading.initial.IsSourced [] := ⟨List.forall_mem_nil _, trivial⟩
  have hsourced := (hinitial.run hrun).contacts contact (hholds.mem_contacts hname)
  exact (hsourced.resolve_left fun hbare => hname hbare.1).2.2

/-! ## Contacts that are written out -/

/-- The contact is read as it was when it is written out: nothing in its name is taken for an
escape, and without a name its address is read as it stands. -/
def Legible (contact : Contact) : Prop :=
  match contact.name with
  | some name => '\\' ∉ name
  | none => IsBare contact.address

/-- A name without a backslash is read as it was. -/
theorem Reading.run_escapeName {r : Reading} {before name : Text}
    (hplace : r.place = .quoted before) (hname : '\\' ∉ name) :
    r.run (Contact.escapeName name) = .ok (r.moveTo (.quoted (before ++ name))) := by
  induction name generalizing r before with
  | nil => rw [List.append_nil, moveTo_eq hplace]; rfl
  | cons c name ih =>
    rw [List.mem_cons, not_or] at hname
    obtain ⟨hc, hname⟩ := hname
    have hrest := ih (r := r.moveTo (.quoted (before ++ [c]))) rfl hname
    rw [List.append_assoc] at hrest
    unfold Contact.escapeName at hrest ⊢
    rw [List.flatMap_cons]
    split_ifs with hquote
    · subst hquote
      have hescape := step_of_shift hplace .escape
      have hescaped := step_of_shift (r := r.moveTo (.escaped before)) (c := '"') rfl .escaped
      simp only [List.cons_append, List.nil_append, run, hescape, hescaped]
      exact hrest
    · have hquoted := step_of_shift hplace (.quoted (Ne.symm hc) hquote)
      simp only [List.cons_append, List.nil_append, run, hquoted]
      exact hrest

theorem Reading.run_bracketed {r : Reading} {name : Option Text} {before address : Text}
    (hplace : r.place = .bracketed name before) (haddress : '>' ∉ address) :
    r.run address = .ok (r.moveTo (.bracketed name (before ++ address))) := by
  induction address generalizing r before with
  | nil => rw [List.append_nil, moveTo_eq hplace]; rfl
  | cons c address ih =>
    rw [List.mem_cons, not_or] at haddress
    obtain ⟨hc, haddress⟩ := haddress
    rw [run, step_of_shift hplace (.address (Ne.symm hc))]
    simp only
    rw [ih rfl haddress, List.append_assoc]
    rfl

theorem completes_render (h : Legible contact) (hat : '@' ∈ contact.address)
    (hclose : contact.name ≠ none → '>' ∉ contact.address) :
    Completes contact.render contact := by
  obtain ⟨name, address⟩ := contact
  cases name with
  | none =>
    have htrimmed : trimEnd address = address := IsBare.trimmed h
    have hholds := Reading.Holds.bare (htrimmed.symm ▸ hat)
    rw [htrimmed] at hholds
    exact ⟨_, run_of_isBare h, hholds⟩
  | some name =>
    have hquoted : (Reading.initial.moveTo (.quoted [])).run (Contact.escapeName name) =
        .ok (Reading.initial.moveTo (.quoted name)) :=
      Reading.run_escapeName (r := Reading.initial.moveTo (.quoted [])) rfl h
    have hbracketed : (Reading.initial.moveTo (.bracketed (some name) [])).run address =
        .ok (Reading.initial.moveTo (.bracketed (some name) address)) :=
      Reading.run_bracketed (r := Reading.initial.moveTo (.bracketed (some name) [])) rfl
        (hclose (Option.some_ne_none name))
    refine ⟨_, ?_, .bracketed hat⟩
    have hopen : Reading.initial.step '"' = .ok (Reading.initial.moveTo (.quoted [])) := rfl
    have hgap : (Reading.initial.moveTo (.quoted name)).run ['"', ' ', '<'] =
        .ok (Reading.initial.moveTo (.bracketed (some name) [])) := rfl
    have hend : (Reading.initial.moveTo (.bracketed (some name) address)).run ['>'] =
        .ok ⟨[.single ⟨some name, address⟩], none, .afterBracketed⟩ := by
      simp only [Reading.run, Reading.step, Reading.moveTo, Reading.add, if_pos hat]
      rfl
    unfold Contact.render
    simp only [List.cons_append, List.append_assoc]
    rw [Reading.run, hopen]
    simp only
    rw [Reading.run_append hquoted]
    have hsplit : '"' :: ' ' :: '<' :: (address ++ ['>']) =
        ['"', ' ', '<'] ++ (address ++ ['>']) := rfl
    rw [List.nil_append, hsplit, Reading.run_append hgap, Reading.run_append hbracketed]
    exact hend

end Postroom.Address
