import Mathlib.Data.List.Basic
import Postroom.Mail.Address

/-!
# What a character does to the reading of an address list

`Address.Shift` lists the ways from one place of an entry to another, and `Reading.Taken` all that a
character can do to a reading: it moves to another place, or it completes a contact, closes a group
or opens one.  Both are the steps of the reading: a step that is accepted is one of these
(`taken_step`), and a way from place to place is a step (`step_of_shift`).
-/

namespace Postroom

/-- The contacts of an entry. -/
def Entry.contacts : Entry → List Contact
  | single contact => [contact]
  | group _ members => members

namespace Address

open Text

/-- The character ends text that may turn out to be an address or a name. -/
def endsBare (c : Char) : Bool :=
  c == '<' || c == ',' || c == ';' || c == ':' || c == '('

/-- The character may begin text that may turn out to be an address or a name. -/
def beginsBare (c : Char) : Bool :=
  !isBlank c && c != '"' && c != '<' && c != ';'

/-- A character takes the reading from one place of an entry to another. -/
inductive Shift : Place → Char → Place → Prop
  | blank {c place} (h : isBlank c) (hplace : place = .start ∨ place = .groupStart) :
    Shift place c .start
  | quote {place} (hplace : place = .start ∨ place = .groupStart) : Shift place '"' (.quoted [])
  | bracket {place} (hplace : place = .start ∨ place = .groupStart) :
    Shift place '<' (.bracketed none [])
  | bare {c place} (h : beginsBare c) (hplace : place = .start ∨ place = .groupStart) :
    Shift place c (.bare [c])
  | escape {name} : Shift (.quoted name) '\\' (.escaped name)
  | unquote {name} : Shift (.quoted name) '"' (.afterQuoted name [])
  | quoted {name c} (h : c ≠ '\\') (h' : c ≠ '"') : Shift (.quoted name) c (.quoted (name ++ [c]))
  | escaped {name c} : Shift (.escaped name) c (.quoted (name ++ [c]))
  | gap {name gap c} (h : isBlank c) :
    Shift (.afterQuoted name gap) c (.afterQuoted name (gap ++ [c]))
  | quotedName {name gap} : Shift (.afterQuoted name gap) '<' (.bracketed (some name) [])
  | requote {name gap} : Shift (.afterQuoted name gap) '"' (.quoted (name ++ gap))
  | behindQuoted {name gap c} (h : isBlank c = false) (h' : c ∉ ['<', ':', '"']) :
    Shift (.afterQuoted name gap) c (.afterQuoted (name ++ gap ++ [c]) [])
  | address {name address c} (h : c ≠ '>') :
    Shift (.bracketed name address) c (.bracketed name (address ++ [c]))
  | behindBracketed {c} (h : isBlank c) : Shift .afterBracketed c .afterBracketed
  | next : Shift .afterBracketed ',' .start
  | remark : Shift .afterBracketed '(' .commentAfterBracketed
  | bareName {text} : Shift (.bare text) '<' (.bracketed (some (trimEnd text)) [])
  | bareRemark {text} : Shift (.bare text) '(' (.commentInBare text)
  | goOn {text c} (h : endsBare c = false) : Shift (.bare text) c (.bare (text ++ [c]))
  | endBareRemark {text} : Shift (.commentInBare text) ')' (.bare text)
  | inBareRemark {text c} (h : c ≠ ')') : Shift (.commentInBare text) c (.commentInBare text)
  | endRemark : Shift .commentAfterBracketed ')' .afterBracketed
  | inRemark {c} (h : c ≠ ')') : Shift .commentAfterBracketed c .commentAfterBracketed

namespace Reading

/-- All that a character can do to a reading. -/
inductive Taken (r : Reading) (c : Char) : Reading → Prop
  | moved {place place'} (hplace : r.place = place) (h : Shift place c place') :
    Taken r c (r.moveTo place')
  | bracketed {name address r'} (hplace : r.place = .bracketed name address) (hc : c = '>')
    (hadd : r.add name address .afterBracketed = .ok r') : Taken r c r'
  | bare {text r'} (hplace : r.place = .bare text) (hc : c = ',')
    (hadd : r.add none (trimEnd text) .start = .ok r') : Taken r c r'
  | bareLast {text r'} (hplace : r.place = .bare text) (hc : c = ';')
    (hadd : r.add none (trimEnd text) .start = .ok r') : Taken r c r'.close
  | closed (hc : c = ';') (hplace : r.place = .afterBracketed ∨ r.openGroup.isSome) :
    Taken r c r.close
  | begun {name r'} (hc : c = ':') (hbegin : r.begin name = .ok r') : Taken r c r'

variable {r r' : Reading} {c : Char} {place : Place}

theorem moveTo_eq (h : r.place = place) : r.moveTo place = r := by
  rw [← h]
  rfl

theorem taken_of_shift (hplace : r.place = place) (h : Shift place c place) : r.Taken c r := by
  have hmoved := Taken.moved hplace h
  rwa [moveTo_eq hplace] at hmoved

theorem taken_stepStart (hplace : r.place = .start ∨ r.place = .groupStart)
    (h : r.stepStart c = .ok r') : r.Taken c r' := by
  have hshift : ∀ {place'}, (∀ place, place = .start ∨ place = .groupStart →
      Shift place c place') → r.Taken c (r.moveTo place') :=
    fun hshift => .moved rfl (hshift r.place hplace)
  unfold stepStart at h
  split_ifs at h with hblank hquote hbracket hlast hgroup <;> cases h
  · exact hshift fun _ => .blank hblank
  · subst hquote
    exact hshift fun _ => .quote
  · subst hbracket
    exact hshift fun _ => .bracket
  · exact .closed hlast (.inr hgroup)
  · have hbegins : beginsBare c = true := by
      simp [beginsBare, hblank, hquote, hbracket, hlast]
    exact hshift fun _ => .bare hbegins

/-- A character that the reading accepts does one of these things. -/
theorem taken_step (h : r.step c = .ok r') : r.Taken c r' := by
  unfold step at h
  split at h
  case h_1 hplace => exact taken_stepStart (.inl hplace) h
  case h_2 hplace => exact taken_stepStart (.inr hplace) h
  case h_3 name hplace =>
    split_ifs at h with hescape hunquote <;> cases h <;> refine .moved hplace ?_
    · exact hescape ▸ .escape
    · exact hunquote ▸ .unquote
    · exact .quoted hescape hunquote
  case h_4 name hplace =>
    cases h
    exact .moved hplace .escaped
  case h_5 name gap hplace =>
    unfold stepAfterQuoted at h
    split_ifs at h with hblank hbracket hcolon hquote
    · cases h
      exact .moved hplace (.gap hblank)
    · cases h
      exact .moved hplace (hbracket ▸ .quotedName)
    · exact .begun hcolon h
    · cases h
      exact .moved hplace (hquote ▸ .requote)
    · cases h
      have hother : c ∉ ['<', ':', '"'] := by simp [hbracket, hcolon, hquote]
      exact .moved hplace (.behindQuoted (Bool.eq_false_iff.2 hblank) hother)
  case h_6 name address hplace =>
    split_ifs at h with hc
    · exact .bracketed hplace hc h
    · cases h
      exact .moved hplace (.address hc)
  case h_7 hplace =>
    unfold stepAfterBracketed at h
    split_ifs at h with hblank hcomma hlast hremark <;> cases h
    · exact taken_of_shift hplace (.behindBracketed hblank)
    · exact .moved hplace (hcomma ▸ .next)
    · exact .closed hlast (.inl hplace)
    · exact .moved hplace (hremark ▸ .remark)
  case h_8 text hplace =>
    unfold stepBare at h
    split_ifs at h with hbracket hcomma hlast hcolon hremark
    · cases h
      exact .moved hplace (hbracket ▸ .bareName)
    · exact .bare hplace hcomma h
    · cases hadd : r.add none (trimEnd text) .start with
      | error e =>
        rw [hadd] at h
        cases h
      | ok next =>
        rw [hadd] at h
        cases h
        exact .bareLast hplace hlast hadd
    · exact .begun hcolon h
    · cases h
      exact .moved hplace (hremark ▸ .bareRemark)
    · cases h
      have hends : endsBare c = false := by
        simp [endsBare, hbracket, hcomma, hlast, hcolon, hremark]
      exact .moved hplace (.goOn hends)
  case h_9 text hplace =>
    cases h
    split_ifs with hc
    · exact .moved hplace (hc ▸ .endBareRemark)
    · exact taken_of_shift hplace (.inBareRemark hc)
  case h_10 hplace =>
    cases h
    split_ifs with hc
    · exact .moved hplace (hc ▸ .endRemark)
    · exact taken_of_shift hplace (.inRemark hc)

/-- A way from the place of a reading to another place is a step. -/
theorem step_of_shift {place place' : Place} (hplace : r.place = place)
    (h : Shift place c place') : r.step c = .ok (r.moveTo place') := by
  have hstay : r.moveTo place = r := moveTo_eq hplace
  unfold step
  rw [hplace]
  cases h with
  | blank hblank heq => rcases heq with rfl | rfl <;> simp [stepStart, hblank]
  | quote heq | bracket heq => rcases heq with rfl | rfl <;> rfl
  | bare hbegins heq =>
    simp only [beginsBare, Bool.and_eq_true, Bool.not_eq_true', bne_iff_ne] at hbegins
    obtain ⟨⟨⟨hblank, hquote⟩, hbracket⟩, hlast⟩ := hbegins
    rcases heq with rfl | rfl <;> simp [stepStart, hblank, hquote, hbracket, hlast]
  | escape | unquote | escaped | quotedName | requote | next | remark | bareName | bareRemark
  | endBareRemark | endRemark => rfl
  | quoted hescape hunquote => simp [hescape, hunquote]
  | gap hblank => simp [stepAfterQuoted, hblank]
  | behindQuoted hblank hother =>
    simp only [List.mem_cons, List.not_mem_nil, or_false, not_or] at hother
    simp [stepAfterQuoted, hblank, hother]
  | address hc => simp [hc]
  | behindBracketed hblank => simp [stepAfterBracketed, hblank, hstay]
  | goOn hends =>
    simp only [endsBare, Bool.or_eq_false_iff, beq_eq_false_iff_ne] at hends
    simp [stepBare, hends]
  | inBareRemark hc | inRemark hc => simp [hc, hstay]

/-! ## The contacts that have been read -/

/-- The contacts of the entries and of the group that is open. -/
def contacts (r : Reading) : List Contact :=
  r.entries.flatMap Entry.contacts ++ (r.openGroup.map (·.2)).getD []

theorem contacts_moveTo (r : Reading) (place : Place) : (r.moveTo place).contacts = r.contacts :=
  rfl

theorem contacts_add {name : Option Text} {address : Text} (h : r.add name address place = .ok r') :
    '@' ∈ address ∧ r'.place = place ∧ r'.contacts = r.contacts ++ [⟨name, address⟩] := by
  unfold add at h
  split_ifs at h with hat
  cases hgroup : r.openGroup with
  | none =>
    rw [hgroup] at h
    cases h
    simp [contacts, Entry.contacts, hat, hgroup]
  | some g =>
    rw [hgroup] at h
    cases h
    simp [contacts, hat, hgroup]

theorem contacts_close (r : Reading) : r.close.contacts = r.contacts := by
  unfold close
  split
  · rename_i hgroup
    simp [contacts, hgroup, Entry.contacts]
  · exact contacts_moveTo r .start

theorem contacts_begin {name : Text} (h : r.begin name = .ok r') : r'.contacts = r.contacts := by
  unfold begin at h
  split at h
  · cases h
  · rename_i hgroup
    cases h
    simp [contacts, hgroup]

theorem place_close (r : Reading) : r.close.place = .start := by
  unfold close
  split <;> rfl

theorem place_begin {name : Text} (h : r.begin name = .ok r') : r'.place = .groupStart := by
  unfold begin at h
  split at h
  · cases h
  · cases h
    rfl

end Reading

end Address

end Postroom
