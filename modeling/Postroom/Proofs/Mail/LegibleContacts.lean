import Postroom.Proofs.Mail.FirstContact

/-!
# Contacts that are not read as they were

A contact that is legible is read as it was when it is written out (`completes_render`).  No other
contact is, whatever stands behind it (`legible_of_first`): an address that is no bare one is cut
short, and a name with a backslash loses it.  The name that is held while it is read
(`Reading.held`) has no more characters than the name that was written, and one less for the first
backslash.
-/

namespace Postroom.Address

open Text Idn

namespace Reading

/-- The characters that are held at a place. -/
def chars : Place → Text
  | .quoted name | .escaped name => name
  | .afterQuoted name gap => name ++ gap
  | .bracketed name address => name.getD [] ++ address
  | .bare text | .commentInBare text => text
  | .start | .groupStart | .afterBracketed | .commentAfterBracketed => []

/-- What has been read before the first entry, where nothing is held or an address without a name
is. -/
def Opens (t : Text) : Place → Prop
  | .start => isBlankText t
  | .bracketed none address => ∃ gap, isBlankText gap ∧ t = gap ++ '<' :: address
  | .groupStart | .afterBracketed | .commentAfterBracketed => False
  | .bracketed (some _) _ | .quoted _ | .escaped _ | .afterQuoted _ _ | .bare _
  | .commentInBare _ => True

/-- What is held of a quoted name. -/
def held : Place → Option Text
  | .quoted name | .escaped name => some name
  | .afterQuoted name gap => some (name ++ gap)
  | _ => none

variable {place place' next : Place} {c : Char} {t s name name' address : Text}

/-! ## What is held -/

theorem Passes.chars (h : Passes place c place') {d : Char} (hd : d ∈ chars place') :
    d ∈ Reading.chars place ∨ d = c := by
  cases h with
  | last => cases hd
  | shift h =>
    cases h with
    | blank | quote | bracket | next | remark | endRemark | behindBracketed | inRemark =>
      cases hd
    | bare => exact .inr (List.mem_singleton.1 hd)
    | bareName =>
      rw [Reading.chars, Option.getD_some, List.append_nil] at hd
      exact .inl ((trimEnd_sublist _).subset hd)
    | _ =>
      simp only [Reading.chars, List.mem_append, List.mem_singleton, Option.getD_some,
        List.append_nil] at hd ⊢
      tauto

/-- All characters that are held have been read. -/
theorem mem_of_mem_chars (h : (initial.moveTo place).run t = .ok (initial.moveTo place'))
    {d : Char} (hd : d ∈ chars place') : d ∈ chars place ∨ d ∈ t := by
  induction t generalizing place with
  | nil =>
    cases h
    exact .inl hd
  | cons c t ih =>
    obtain ⟨next, hpasses, hrun⟩ := passes_of_run h
    rcases ih hrun with hmem | hmem
    · exact (hpasses.chars hmem).imp_right fun heq => List.mem_cons.2 (.inl heq)
    · exact .inr (List.mem_cons_of_mem c hmem)

/-- An address between angle brackets goes on up to the closing one. -/
theorem place_of_run_bracketed {name : Option Text}
    (h : (initial.moveTo (.bracketed name address)).run t = .ok (initial.moveTo place)) :
    place = .bracketed name (address ++ t) := by
  induction t generalizing address with
  | nil =>
    cases h
    rw [List.append_nil]
  | cons c t ih =>
    obtain ⟨next, hpasses, hrun⟩ := passes_of_run h
    cases hpasses with
    | shift hshift =>
      cases hshift with
      | blank _ hplace | quote hplace | bracket hplace | bare _ hplace =>
        rcases hplace with hplace | hplace
        all_goals cases hplace
      | address =>
        rw [ih hrun, List.append_assoc]
        rfl

/-! ## Addresses without a name -/

theorem Passes.opens (h : Passes place c place') (hopens : Opens t place) :
    Opens (t ++ [c]) place' := by
  cases h with
  | last => exact hopens.elim
  | shift h =>
    cases h with
    | blank hblank hplace =>
      rcases hplace with rfl | rfl
      · rw [Opens, isBlankText, List.all_append, Bool.and_eq_true]
        exact ⟨hopens, by simpa using hblank⟩
      · exact hopens.elim
    | bracket hplace =>
      rcases hplace with rfl | rfl
      · exact ⟨t, hopens, rfl⟩
      · exact hopens.elim
    | @address name address c hc =>
      cases name with
      | none =>
        obtain ⟨gap, hgap, rfl⟩ := hopens
        exact ⟨gap, hgap, by rw [List.append_assoc]; rfl⟩
      | some name => trivial
    | behindBracketed | next | remark | endRemark | inRemark => exact hopens.elim
    | _ => trivial

theorem opens_of_run (h : (initial.moveTo place).run t = .ok (initial.moveTo place'))
    (hopens : Opens s place) : Opens (s ++ t) place' := by
  induction t generalizing place s with
  | nil =>
    cases h
    rwa [List.append_nil]
  | cons c t ih =>
    obtain ⟨next, hpasses, hrun⟩ := passes_of_run h
    rw [List.append_cons]
    exact ih hrun (hpasses.opens hopens)

/-! ## Quoted names -/

/-- Behind a quoted name only blanks wait for what comes next. -/
def HasBlankGap (place : Place) : Prop :=
  ∀ name gap, place = .afterQuoted name gap → isBlankText gap

theorem Passes.hasBlankGap (h : Passes place c place') (hgap : HasBlankGap place) :
    HasBlankGap place' := by
  rintro name gap rfl
  cases h with
  | shift h =>
    cases h with
    | unquote | behindQuoted => rfl
    | gap hblank =>
      rw [isBlankText, List.all_append, Bool.and_eq_true]
      exact ⟨hgap _ _ rfl, by simpa using hblank⟩

theorem hasBlankGap_of_run (h : (initial.moveTo place).run t = .ok (initial.moveTo place'))
    (hgap : HasBlankGap place) : HasBlankGap place' := by
  induction t generalizing place with
  | nil =>
    cases h
    exact hgap
  | cons c t ih =>
    obtain ⟨next, hpasses, hrun⟩ := passes_of_run h
    exact ih hrun (hpasses.hasBlankGap hgap)

/-- A character is held with the name or it is not, unless an address follows. -/
theorem Passes.held (h : Passes place c next) (hheld : held place = some name) :
    (c = '<' ∧ ∃ name gap, place = .afterQuoted name gap ∧ next = .bracketed (some name) []) ∨
      ∃ more, Reading.held next = some (name ++ more) ∧
        (more = [c] ∨ more = [] ∧ (c = '"' ∨ c = '\\')) := by
  cases h with
  | last => cases hheld
  | shift h =>
    cases h with
    | blank _ hplace | quote hplace | bracket hplace | bare _ hplace =>
      rcases hplace with rfl | rfl
      all_goals cases hheld
    | escape | unquote | requote =>
      cases hheld
      exact .inr ⟨[], by simp [Reading.held], .inr ⟨rfl, by simp⟩⟩
    | quoted | escaped =>
      cases hheld
      exact .inr ⟨[c], rfl, .inl rfl⟩
    | gap =>
      cases hheld
      exact .inr ⟨[c], by rw [Reading.held, List.append_assoc], .inl rfl⟩
    | behindQuoted =>
      cases hheld
      exact .inr ⟨[c], by rw [Reading.held, List.append_nil], .inl rfl⟩
    | quotedName => exact .inl ⟨rfl, _, _, rfl, rfl⟩
    | _ => cases hheld

/-- While the name is read, each character is held or not. -/
theorem held_of_passes (h : Passes place c next)
    (hrun : (initial.moveTo next).run t = .ok (initial.moveTo place'))
    (hheld : held place = some name) (hheld' : held place' = some name') :
    ∃ more, held next = some (name ++ more) ∧
      (more = [c] ∨ more = [] ∧ (c = '"' ∨ c = '\\')) := by
  refine (h.held hheld).resolve_left ?_
  rintro ⟨-, _, _, -, rfl⟩
  rw [place_of_run_bracketed hrun] at hheld'
  cases hheld'

/-- All characters but quotation marks and backslashes are held. -/
theorem mem_held_of_run (h : (initial.moveTo place).run t = .ok (initial.moveTo place'))
    (hheld : held place = some name) (hheld' : held place' = some name') :
    name <+: name' ∧ ∀ d ∈ t, d = '"' ∨ d = '\\' ∨ d ∈ name' := by
  induction t generalizing place name with
  | nil =>
    cases h
    obtain rfl := Option.some.inj (hheld.symm.trans hheld')
    exact ⟨List.prefix_refl _, List.forall_mem_nil _⟩
  | cons c t ih =>
    obtain ⟨next, hpasses, hrun⟩ := passes_of_run h
    obtain ⟨more, hnext, hmore⟩ := held_of_passes hpasses hrun hheld hheld'
    obtain ⟨hfront, hall⟩ := ih hrun hnext
    refine ⟨(List.prefix_append _ _).trans hfront, List.forall_mem_cons.2 ⟨?_, hall⟩⟩
    rcases hmore with rfl | ⟨-, hc⟩
    · exact .inr (.inr (hfront.subset (by simp)))
    · exact hc.imp_right .inl

/-- Of a quotation mark and the backslash before it, one is held. -/
theorem run_escape (hheld : held place = some name) :
    ∃ next name', (initial.moveTo place).run ['\\', '"'] = .ok (initial.moveTo next) ∧
      held next = some name' ∧ name'.length = name.length + 1 := by
  cases place with
  | quoted name =>
    cases hheld
    exact ⟨.quoted (name ++ ['"']), _, rfl, rfl, List.length_append⟩
  | escaped name =>
    cases hheld
    exact ⟨.afterQuoted (name ++ ['\\']) [], _, rfl, rfl, by simp⟩
  | afterQuoted name gap =>
    cases hheld
    exact ⟨.quoted (name ++ gap ++ ['\\'] ++ []), _, rfl, rfl, by simp [Nat.add_assoc]⟩
  | _ => cases hheld

theorem escapeName_cons (hc : c ≠ '"') (name : Text) :
    Contact.escapeName (c :: name) = c :: Contact.escapeName name := by
  rw [Contact.escapeName, List.flatMap_cons, if_neg hc]
  rfl

/-- What is held of a name that has been written out is no longer than the name. -/
theorem length_held_le
    (h : (initial.moveTo place).run (Contact.escapeName s) = .ok (initial.moveTo place'))
    (hheld : held place = some name) (hheld' : held place' = some name') :
    name'.length ≤ name.length + s.length := by
  induction s generalizing place name with
  | nil =>
    cases h
    obtain rfl := Option.some.inj (hheld.symm.trans hheld')
    exact Nat.le_refl _
  | cons c s ih =>
    rw [List.length_cons]
    by_cases hc : c = '"'
    · subst hc
      have hescape : Contact.escapeName ('"' :: s) = ['\\', '"'] ++ Contact.escapeName s := rfl
      obtain ⟨next, more, hrun, hnext, hlength⟩ := run_escape hheld
      rw [hescape, run_append hrun] at h
      have hle := ih h hnext
      omega
    · rw [escapeName_cons hc] at h
      obtain ⟨next, hpasses, hrun⟩ := passes_of_run h
      obtain ⟨more, hnext, hmore⟩ := held_of_passes hpasses hrun hheld hheld'
      have hle := ih hrun hnext
      have hshort : more.length ≤ 1 := by
        rcases hmore with rfl | ⟨rfl, -⟩
        · exact Nat.le_refl 1
        · exact Nat.zero_le 1
      rw [List.length_append] at hle
      omega

/-- **A name that is held as it was written has no backslash.** -/
theorem not_mem_of_held
    (h : (initial.moveTo (.quoted [])).run (Contact.escapeName name) = .ok (initial.moveTo place))
    (hheld : held place = some name) : '\\' ∉ name := by
  intro hmem
  obtain ⟨front, back, rfl, hfront⟩ := List.eq_append_cons_of_mem hmem
  have hescape : Contact.escapeName (front ++ '\\' :: back) =
      Contact.escapeName front ++ '\\' :: Contact.escapeName back := by
    simp [Contact.escapeName, List.flatMap_append]
  have hrun : (initial.moveTo (.quoted [])).run (Contact.escapeName front) =
      .ok (initial.moveTo (.quoted front)) :=
    run_escapeName (r := initial.moveTo (.quoted [])) rfl hfront
  have hstep : (initial.moveTo (.quoted front)).step '\\' =
      .ok (initial.moveTo (.escaped front)) := rfl
  rw [hescape, run_append hrun, run_cons_of_step hstep] at h
  -- the backslash is not held, so one character is missing
  have hle := length_held_le h rfl hheld
  rw [List.length_append, List.length_cons] at hle
  omega

/-- As long as there is no entry, a reading is at some place between two texts. -/
theorem exists_place_of_run
    (h : (initial.moveTo place).run (s ++ t) = .ok (initial.moveTo place')) :
    ∃ next, (initial.moveTo place).run s = .ok (initial.moveTo next) ∧
      (initial.moveTo next).run t = .ok (initial.moveTo place') := by
  induction s generalizing place with
  | nil => exact ⟨place, rfl, h⟩
  | cons c s ih =>
    obtain ⟨next, hpasses, hrun⟩ := passes_of_run h
    obtain ⟨last, hs, ht⟩ := ih hrun
    exact ⟨last, (run_cons_of_step (step_of_passes hpasses) s).trans hs, ht⟩

/-- An address behind a quoted name begins at a bracket. -/
theorem split_of_bracketed
    (h : (initial.moveTo place).run t = .ok (initial.moveTo (.bracketed (some name) address)))
    (hheld : held place = some name') :
    ∃ v gap, t = v ++ '<' :: address ∧
      (initial.moveTo place).run v = .ok (initial.moveTo (.afterQuoted name gap)) := by
  induction t generalizing place name' with
  | nil =>
    cases h
    cases hheld
  | cons c t ih =>
    obtain ⟨next, hpasses, hrun⟩ := passes_of_run h
    rcases hpasses.held hheld with ⟨rfl, name₁, gap, rfl, rfl⟩ | ⟨more, hnext, -⟩
    · cases place_of_run_bracketed hrun
      exact ⟨[], gap, rfl, rfl⟩
    · obtain ⟨v, gap, rfl, hv⟩ := ih hrun hnext
      exact ⟨c :: v, gap, rfl, (run_cons_of_step (step_of_passes hpasses) v).trans hv⟩

end Reading

/-! ## The first contact -/

open Reading (escapeName_cons)

variable {text rest address name : Text} {contact : Contact} {es : List Entry}

/-- The characters of a contact are characters of its text. -/
theorem Completes.mem (h : Completes text contact) {d : Char}
    (hd : d ∈ contact.name.getD [] ++ contact.address) : d ∈ text := by
  obtain ⟨u, place, w, rfl, hrun, hcut⟩ := Reading.first_of_initial h.parse
  refine List.mem_append_left w ?_
  have hchars : ∀ d ∈ Reading.chars place, d ∈ u :=
    fun d hd => (Reading.mem_of_mem_chars hrun hd).resolve_left List.not_mem_nil
  cases hcut with
  | atEnd hat hcontact =>
    subst hcontact
    exact hchars d ((trimEnd_sublist _).subset hd)
  | here hends =>
    cases hends with
    | bracketed => exact hchars d hd
    | bare => exact hchars d ((trimEnd_sublist _).subset hd)

/-- An address is followed by itself in brackets only behind what ends a contact. -/
theorem not_bracketed_of_delimiter {gap back : Text} (hgap : isBlankText gap)
    (hrest : ∀ d ∈ rest.head?, isDelimiter d) (hno : ∀ d ∈ address, isDelimiter d = false) :
    address ++ rest ≠ gap ++ '<' :: address ++ '>' :: back := by
  have hall : ∀ d ∈ gap ++ '<' :: address, isDelimiter d = false :=
    List.forall_mem_append.2 ⟨fun d hd => isDelimiter_of_isBlank (List.all_eq_true.1 hgap d hd),
      List.forall_mem_cons.2 ⟨rfl, hno⟩⟩
  intro htext
  have hlength : (gap ++ '<' :: address).length = gap.length + (address.length + 1) := by
    rw [List.length_append, List.length_cons]
  rcases List.append_eq_append_iff.1 htext with ⟨more, hfront, hbehind⟩ | ⟨more, hfront, -⟩
  · cases more with
    | nil =>
      rw [hfront, List.append_nil] at hlength
      omega
    | cons d more =>
      have hd : isDelimiter d := hrest d (by rw [hbehind]; rfl)
      rw [hall d (by rw [hfront]; simp)] at hd
      cases hd
  · have hshort := congrArg List.length hfront
    rw [List.length_append, hlength] at hshort
    omega

/-- An address that is written out without a name is read as it was only if it is a bare one. -/
theorem isBare_of_first
    (h : Reading.initial.parse (address ++ rest) = .ok (.single ⟨none, address⟩ :: es))
    (hrest : ∀ d ∈ rest.head?, isDelimiter d) (hno : ∀ d ∈ address, isDelimiter d = false) :
    IsBare address := by
  obtain ⟨u, place, w, htext, hrun, hcut⟩ := Reading.first_of_initial h
  have hbare : ∀ {text}, place = .bare text → '@' ∈ trimEnd text → IsBare (trimEnd text) := by
    rintro text rfl hat
    have hinitial : Reading.initial.IsSourced [] := ⟨List.forall_mem_nil _, trivial⟩
    exact StandsBare.isBare (hinitial.run hrun).place hat
  cases hcut with
  | atEnd hat hcontact =>
    obtain rfl := congrArg Contact.address hcontact
    exact hbare rfl hat
  | here hends =>
    cases hends with
    | bare hat => exact hbare rfl hat
    | bracketed hat =>
      obtain ⟨gap, hgap, rfl⟩ := Reading.opens_of_run (s := []) hrun rfl
      exact absurd htext (not_bracketed_of_delimiter hgap hrest hno)

/-- An address that comes after another one in brackets comes after what ends that contact. -/
theorem exists_delimiter {front back : Text} (hclose : '>' ∉ address)
    (hrest : ∀ d ∈ rest.head?, isDelimiter d)
    (h : address ++ '>' :: rest = front ++ '<' :: (address ++ '>' :: back)) :
    ∃ d ∈ front, isDelimiter d := by
  rcases List.append_eq_append_iff.1 h with ⟨more, rfl, hmore⟩ | ⟨more, haddress, hmore⟩
  · match more, hmore with
    | [_], hmore =>
      obtain ⟨-, rfl⟩ := List.cons.inj hmore
      exact absurd (hrest '<' rfl) (by decide)
    | _ :: d :: more, hmore =>
      obtain ⟨-, rfl⟩ := List.cons.inj hmore
      exact ⟨d, by simp, hrest d rfl⟩
  · match more, hmore with
    | _ :: more, hmore =>
      obtain ⟨rfl, htail⟩ := List.cons.inj hmore
      have hshort := congrArg List.length haddress
      rw [List.length_append, List.length_cons] at hshort
      rcases List.append_eq_append_iff.1 htail with ⟨last, rfl, -⟩ | ⟨last, hlast, hbehind⟩
      · rw [List.length_append] at hshort
        omega
      · match last, hbehind with
        | [], hbehind =>
          rw [List.append_nil] at hlast
          rw [hlast] at hshort
          omega
        | _ :: last, hbehind =>
          obtain ⟨rfl, -⟩ := List.cons.inj hbehind
          exact absurd (by rw [hlast]; simp) hclose

/-- Where an address stands in brackets, with what ends the contact behind it: there, or behind a
delimiter, or in front. -/
theorem cases_of_bracketed {front front' back : Text} (hclose : '>' ∉ address)
    (hrest : ∀ d ∈ rest.head?, isDelimiter d)
    (h : front ++ '<' :: (address ++ '>' :: rest) = front' ++ '<' :: (address ++ '>' :: back)) :
    front' = front ∨ (∃ d ∈ front', isDelimiter d) ∨ ∃ more, front = front' ++ '<' :: more := by
  rcases List.append_eq_append_iff.1 h with ⟨more, rfl, hmore⟩ | ⟨more, rfl, hmore⟩
  · cases more with
    | nil => exact .inl (List.append_nil _)
    | cons c more =>
      obtain ⟨d, hmem, hd⟩ := exists_delimiter hclose hrest (List.cons.inj hmore).2
      exact .inr (.inl ⟨d, by simp [hmem], hd⟩)
  · cases more with
    | nil => exact .inl (List.append_nil _).symm
    | cons c more =>
      obtain rfl : '<' = c := (List.cons.inj hmore).1
      exact .inr (.inr ⟨more, rfl⟩)

/-- A bracket in a name that has been written out is one of the name. -/
theorem split_of_escapeName {front back : Text}
    (h : Contact.escapeName name = front ++ '<' :: back) :
    ∃ start rest, name = start ++ '<' :: rest ∧ front = Contact.escapeName start := by
  induction name generalizing front with
  | nil => exact absurd h (by simp [Contact.escapeName])
  | cons c name ih =>
    by_cases hc : c = '"'
    · subst hc
      match front, h with
      | _ :: _ :: front, h =>
        obtain ⟨rfl, hquote⟩ := List.cons.inj h
        obtain ⟨rfl, htail⟩ := List.cons.inj hquote
        obtain ⟨start, rest, rfl, rfl⟩ := ih htail
        exact ⟨'"' :: start, rest, rfl, rfl⟩
      | [_], h => exact absurd (List.cons.inj (List.cons.inj h).2).1 (by decide)
      | [], h => exact absurd (List.cons.inj h).1 (by decide)
    · rw [escapeName_cons hc] at h
      match front, h with
      | [], h =>
        obtain ⟨rfl, -⟩ := List.cons.inj h
        exact ⟨[], name, rfl, rfl⟩
      | _ :: front, h =>
        obtain ⟨rfl, htail⟩ := List.cons.inj h
        obtain ⟨start, rest, rfl, rfl⟩ := ih htail
        exact ⟨c :: start, rest, rfl, (escapeName_cons hc start).symm⟩

/-- A bracket in front of what ends a name that has been written out is one of the name. -/
theorem split_of_written {front back : Text}
    (h : Contact.escapeName name ++ ['"', ' '] = front ++ '<' :: back) :
    ∃ start rest, name = start ++ '<' :: rest ∧ front = Contact.escapeName start := by
  rcases List.append_eq_append_iff.1 h with ⟨more, -, hmore⟩ | ⟨more, hname, hmore⟩
  · have hmem : '<' ∈ ['"', ' '] := by
      rw [hmore]
      simp
    exact absurd hmem (by decide)
  · match more, hmore with
    | [], hmore => exact absurd (List.cons.inj hmore).1 (by decide)
    | _ :: more, hmore =>
      obtain ⟨rfl, -⟩ := List.cons.inj hmore
      exact split_of_escapeName hname

/-- What is read of a name holds no delimiter if the name does not. -/
theorem not_isDelimiter_of_read {v gap : Text}
    (h : (Reading.initial.moveTo (.quoted [])).run v =
      .ok (Reading.initial.moveTo (.afterQuoted name gap)))
    (hno : ∀ d ∈ name, isDelimiter d = false) : ∀ d ∈ v, isDelimiter d = false := by
  intro d hd
  have hgap : Reading.HasBlankGap (.afterQuoted name gap) :=
    Reading.hasBlankGap_of_run h (by rintro _ _ ⟨⟩)
  obtain ⟨-, hheld⟩ := Reading.mem_held_of_run h rfl rfl
  rcases hheld d hd with rfl | rfl | hmem
  · rfl
  · rfl
  · rcases List.mem_append.1 hmem with hmem | hmem
    · exact hno d hmem
    · exact isDelimiter_of_isBlank (List.all_eq_true.1 (hgap name gap rfl) d hmem)

/-- A name that is read as it was from its quotation marks has no backslash. -/
theorem not_mem_of_read {v gap : Text}
    (h : (Reading.initial.moveTo (.quoted [])).run v =
      .ok (Reading.initial.moveTo (.afterQuoted name gap)))
    (hv : v = Contact.escapeName name ++ ['"', ' ']) : '\\' ∉ name := by
  subst hv
  obtain ⟨place, hname, hbehind⟩ := Reading.exists_place_of_run h
  obtain ⟨next, hquote, hblank⟩ := Reading.passes_of_run hbehind
  obtain ⟨last, hgap, hend⟩ := Reading.passes_of_run hblank
  cases hend
  -- only a name that ends at its quotation mark has a blank behind it
  have hplace : place = .quoted name := by
    cases hgap with
    | shift hgap =>
      cases hgap with
      | gap =>
        cases hquote with
        | shift hquote =>
          cases hquote with
          | unquote => rfl
          | gap hc => cases hc
          | behindQuoted _ hc => exact absurd (by simp) hc
      | behindQuoted hc => cases hc
  subst hplace
  exact Reading.not_mem_of_held hname rfl

/-- A contact with a name that is written out is read as it was only if the name has no backslash.
-/
theorem not_mem_of_first
    (h : Reading.initial.parse ((Contact.mk (some name) address).render ++ rest) =
      .ok (.single ⟨some name, address⟩ :: es))
    (hrest : ∀ d ∈ rest.head?, isDelimiter d) (hno : ∀ d ∈ name, isDelimiter d = false)
    (hclose : '>' ∉ address) : '\\' ∉ name := by
  obtain ⟨u, place, w, htext, hrun, hcut⟩ := Reading.first_of_initial h
  cases hcut with
  | atEnd hat hcontact => cases hcontact
  | here hends =>
    cases hends with
    | bracketed hat =>
      have hrender : (Contact.mk (some name) address).render ++ rest =
          '"' :: (Contact.escapeName name ++ ['"', ' '] ++ '<' :: (address ++ '>' :: rest)) := by
        simp [Contact.render]
      rw [hrender] at htext
      match u, hrun, htext with
      | _ :: u, hrun, htext =>
        rw [List.cons_append] at htext
        obtain ⟨rfl, hbody⟩ := List.cons.inj htext
        change (Reading.initial.moveTo (.quoted [])).run u = _ at hrun
        obtain ⟨v, gap, rfl, hv⟩ := Reading.split_of_bracketed hrun rfl
        rw [List.append_assoc v, List.cons_append] at hbody
        rcases cases_of_bracketed hclose hrest hbody with hname | ⟨d, hmem, hd⟩ | ⟨more, hfront⟩
        · exact not_mem_of_read hv hname
        · -- the name holds what ends the contact
          rw [not_isDelimiter_of_read hv hno d hmem] at hd
          cases hd
        · -- the name is shorter than the one that was written out
          obtain ⟨start, rest, rfl, rfl⟩ := split_of_written hfront
          have hle := Reading.length_held_le hv rfl rfl
          simp only [List.length_append, List.length_cons, List.length_nil] at hle
          omega

/-- **A contact that is written out is read as it was only if it is legible**, whatever stands
behind it. -/
theorem legible_of_first
    (h : Reading.initial.parse (contact.render ++ rest) = .ok (.single contact :: es))
    (hrest : ∀ d ∈ rest.head?, isDelimiter d)
    (hno : ∀ d ∈ contact.name.getD [] ++ contact.address, isDelimiter d = false)
    (hclose : contact.name ≠ none → '>' ∉ contact.address) : Legible contact := by
  obtain ⟨name, address⟩ := contact
  cases name with
  | none => exact isBare_of_first h hrest hno
  | some name =>
    exact not_mem_of_first h hrest (fun d hd => hno d (List.mem_append_left _ hd))
      (hclose (Option.some_ne_none name))

end Postroom.Address
