import Postroom.Proofs.Mail.AddressList

/-!
# Where the first contact ends

A reading that has come to no entry yet can do three things with a character: pass on to another
place, complete its first contact, or open a group (`Reading.cases_of_step`).  So a text that is read
as a contact and more entries is cut where that contact is complete (`Reading.first_of_parse`), and
a text that is read as contacts only is one text of a contact behind the other (`parse_eq_iff`).
-/

namespace Postroom.Address

open Text Idn

namespace Reading

variable {r r' : Reading} {place place' : Place} {c : Char} {t : Text} {contact : Contact}
  {es : List Entry}

/-- The entries of a text that is read from here on. -/
def parse (r : Reading) (t : Text) : Except AddressError (List Entry) :=
  match r.run t with
  | .ok r' => r'.finish
  | .error e => .error e

theorem parse_nil (r : Reading) : r.parse [] = r.finish :=
  rfl

theorem run_cons_of_step (h : r.step c = .ok r') (t : Text) : r.run (c :: t) = r'.run t := by
  rw [run, h]

theorem parse_cons_of_step (h : r.step c = .ok r') (t : Text) : r.parse (c :: t) = r'.parse t := by
  unfold parse
  rw [run_cons_of_step h]

theorem exists_step_of_parse (h : r.parse (c :: t) = .ok es) : ∃ r', r.step c = .ok r' := by
  cases hstep : r.step c with
  | ok r' => exact ⟨r', rfl⟩
  | error e =>
    unfold parse at h
    rw [run, hstep] at h
    cases h

theorem parse_append {s : Text} (h : r.run s = .ok r') (t : Text) :
    r.parse (s ++ t) = r'.parse t := by
  unfold parse
  rw [run_append h]

theorem finish_behind (es : List Entry) (r : Reading) :
    (r.behind es).finish = r.finish.map (es ++ ·) := by
  obtain ⟨entries, openGroup, place⟩ := r
  cases openGroup with
  | some g =>
    cases place with
    | groupStart => simp [finish, behind, close, Except.map]
    | _ => rfl
  | none =>
    cases place with
    | bare text =>
      have hadd := add_behind es ⟨entries, none, .bare text⟩ none (trimEnd text) .start
      change (((Reading.mk entries none (.bare text)).behind es).add _ _ _).map _ = Except.map _
        (((Reading.mk entries none (.bare text)).add _ _ _).map _)
      rw [hadd]
      cases (Reading.mk entries none (.bare text)).add none (trimEnd text) .start <;> rfl
    | _ => rfl

/-- What comes next makes the same entries whatever has been read before. -/
theorem parse_behind (es : List Entry) (r : Reading) (t : Text) :
    (r.behind es).parse t = (r.parse t).map (es ++ ·) := by
  unfold parse
  rw [run_behind]
  cases r.run t with
  | error e => rfl
  | ok r' => exact finish_behind es r'

/-! ## Groups -/

/-- The first entry is a group, or will be. -/
def BeginsGroup (r : Reading) : Prop :=
  r.entries = [] ∧ r.openGroup.isSome ∨ ∃ name members rest, r.entries = .group name members :: rest

theorem BeginsGroup.close (h : r.BeginsGroup) : r.close.BeginsGroup := by
  unfold Reading.close
  rcases h with ⟨hnone, hopen⟩ | ⟨name, members, rest, hentries⟩
  · obtain ⟨g, hgroup⟩ := Option.isSome_iff_exists.1 hopen
    rw [hgroup, hnone]
    exact .inr ⟨_, _, _, rfl⟩
  · split
    · exact .inr ⟨name, members, rest ++ [.group _ _], by rw [hentries]; rfl⟩
    · exact .inr ⟨name, members, rest, hentries⟩

theorem BeginsGroup.add {name : Option Text} {address : Text} (h : r.BeginsGroup)
    (hadd : r.add name address place = .ok r') : r'.BeginsGroup := by
  unfold Reading.add at hadd
  split_ifs at hadd
  rcases h with ⟨hnone, hopen⟩ | ⟨name', members, rest, hentries⟩
  · obtain ⟨g, hgroup⟩ := Option.isSome_iff_exists.1 hopen
    rw [hgroup] at hadd
    cases hadd
    exact .inl ⟨hnone, rfl⟩
  · split at hadd
    · cases hadd
      exact .inr ⟨name', members, rest, hentries⟩
    · cases hadd
      exact .inr ⟨name', members, rest ++ [.single ⟨name, address⟩], by rw [hentries]; rfl⟩

theorem BeginsGroup.taken (h : r.BeginsGroup) (htaken : r.Taken c r') : r'.BeginsGroup := by
  cases htaken with
  | moved => exact h
  | bracketed _ _ hadd | bare _ _ hadd => exact h.add hadd
  | bareLast _ _ hadd => exact (h.add hadd).close
  | closed => exact h.close
  | begun _ hbegin =>
    unfold Reading.begin at hbegin
    split at hbegin
    · cases hbegin
    · cases hbegin
      exact .inr (h.resolve_left fun hopen => by simp_all)

theorem BeginsGroup.run (h : r.BeginsGroup) (hrun : r.run t = .ok r') : r'.BeginsGroup := by
  induction t generalizing r with
  | nil =>
    cases hrun
    exact h
  | cons c t ih =>
    rw [Reading.run] at hrun
    split at hrun
    · rename_i next hnext
      exact ih (h.taken (taken_step hnext)) hrun
    · cases hrun

theorem BeginsGroup.finish (h : r.BeginsGroup) (hfinish : r.finish = .ok es) :
    ∃ name members rest, es = .group name members :: rest := by
  have hentries : ∀ {r : Reading}, r.BeginsGroup → r.openGroup = none →
      ∃ name members rest, r.entries = .group name members :: rest := by
    intro r h hnone
    exact h.resolve_left fun hopen => by simp_all
  unfold Reading.finish at hfinish
  split at hfinish
  case h_1 =>
    cases hfinish
    refine hentries h.close ?_
    unfold Reading.close
    split
    · rfl
    · assumption
  case h_2 | h_7 => cases hfinish
  case h_3 hgroup _ | h_4 hgroup _ | h_5 hgroup _ =>
    cases hfinish
    exact hentries h hgroup
  case h_6 bare hgroup hplace =>
    cases hadd : r.add none (trimEnd bare) .start with
    | error e =>
      rw [hadd] at hfinish
      cases hfinish
    | ok next =>
      rw [hadd] at hfinish
      cases hfinish
      refine hentries (h.add hadd) ?_
      unfold Reading.add at hadd
      split_ifs at hadd
      rw [hgroup] at hadd
      cases hadd
      rfl

theorem BeginsGroup.parse (h : r.BeginsGroup) (hparse : r.parse t = .ok es) :
    ∃ name members rest, es = .group name members :: rest := by
  unfold Reading.parse at hparse
  split at hparse
  · rename_i r' hrun
    exact (h.run hrun).finish hparse
  · cases hparse

/-! ## One character -/

/-- A character takes the reading from one place to another, and no entry comes of it. -/
inductive Passes : Place → Char → Place → Prop
  | shift {place place' : Place} {c : Char} (h : Shift place c place') : Passes place c place'
  | last : Passes .afterBracketed ';' .start

/-- A character completes the first contact. -/
inductive Ends : Place → Char → Contact → Place → Prop
  | bracketed {name address} (hat : '@' ∈ address) :
    Ends (.bracketed name address) '>' ⟨name, address⟩ .afterBracketed
  | bare {text d} (hat : '@' ∈ trimEnd text) (hd : isDelimiter d) :
    Ends (.bare text) d ⟨none, trimEnd text⟩ .start

theorem step_of_passes (h : Passes place c place') :
    (initial.moveTo place).step c = .ok (initial.moveTo place') := by
  cases h with
  | shift h => exact step_of_shift rfl h
  | last => rfl

/-- **A reading without an entry passes on, completes its first contact or opens a group.** -/
theorem cases_of_step (h : (initial.moveTo place).step c = .ok r) :
    (∃ place', Passes place c place' ∧ r = initial.moveTo place') ∨
      (∃ contact place', Ends place c contact place' ∧
        r = (initial.moveTo place').behind [.single contact]) ∨
      r.BeginsGroup := by
  have hadd : ∀ {name address next r'},
      (initial.moveTo place).add name address next = .ok r' → '@' ∈ address ∧
        r' = (initial.moveTo next).behind [.single ⟨name, address⟩] := by
    intro name address next r' hadd
    unfold add at hadd
    split_ifs at hadd with hat
    cases hadd
    exact ⟨hat, rfl⟩
  cases taken_step h with
  | moved hplace hshift =>
    cases hplace
    exact .inl ⟨_, .shift hshift, rfl⟩
  | @bracketed name address _ hplace hc hcontact =>
    cases hplace
    subst hc
    obtain ⟨hat, rfl⟩ := hadd hcontact
    exact .inr (.inl ⟨_, _, .bracketed hat, rfl⟩)
  | bare hplace hc hcontact =>
    cases hplace
    obtain ⟨hat, rfl⟩ := hadd hcontact
    exact .inr (.inl ⟨_, _, .bare hat (isDelimiter_iff.2 (.inl hc)), rfl⟩)
  | bareLast hplace hc hcontact =>
    cases hplace
    obtain ⟨hat, rfl⟩ := hadd hcontact
    exact .inr (.inl ⟨_, _, .bare hat (isDelimiter_iff.2 (.inr hc)), rfl⟩)
  | closed hc hplace =>
    subst hc
    obtain rfl : place = .afterBracketed := hplace.resolve_right Bool.false_ne_true
    exact .inl ⟨_, .last, rfl⟩
  | begun hc hbegin =>
    cases hbegin
    exact .inr (.inr (.inl ⟨rfl, rfl⟩))

theorem step_bracketed (name : Option Text) {address : Text} (hat : '@' ∈ address) :
    (initial.moveTo (.bracketed name address)).step '>' =
      .ok ((initial.moveTo .afterBracketed).behind [.single ⟨name, address⟩]) := by
  simp only [step, moveTo, add, if_pos hat]
  rfl

/-- The first character of a text decides how its first entry is come by. -/
theorem cases_of_parse (h : (initial.moveTo place).parse (c :: t) = .ok es) :
    (∃ next, Passes place c next ∧ (initial.moveTo next).parse t = .ok es) ∨
      (∃ contact next rest, Ends place c contact next ∧ es = .single contact :: rest ∧
        (initial.moveTo next).parse t = .ok rest) ∨
      ∃ name members rest, es = .group name members :: rest := by
  obtain ⟨r, hstep⟩ := exists_step_of_parse h
  rw [parse_cons_of_step hstep] at h
  rcases cases_of_step hstep with ⟨next, hpasses, rfl⟩ | ⟨contact, next, hends, rfl⟩ | hgroup
  · exact .inl ⟨next, hpasses, h⟩
  · rw [parse_behind] at h
    cases hrest : (initial.moveTo next).parse t with
    | error e =>
      rw [hrest] at h
      cases h
    | ok rest =>
      rw [hrest] at h
      exact .inr (.inl ⟨contact, next, rest, hends, (Except.ok.inj h).symm, hrest⟩)
  · exact .inr (.inr (hgroup.parse h))

/-- As long as there is no entry, every character passes on. -/
theorem passes_of_run (h : (initial.moveTo place).run (c :: t) = .ok (initial.moveTo place')) :
    ∃ next, Passes place c next ∧ (initial.moveTo next).run t = .ok (initial.moveTo place') := by
  rw [run] at h
  split at h
  · rename_i r hstep
    rcases cases_of_step hstep with ⟨next, hpasses, rfl⟩ | ⟨contact, next, -, rfl⟩ | hgroup
    · exact ⟨next, hpasses, h⟩
    · rw [run_behind] at h
      cases hrest : (initial.moveTo next).run t with
      | error e =>
        rw [hrest] at h
        cases h
      | ok r' =>
        rw [hrest] at h
        have hentries := congrArg Reading.entries (Except.ok.inj h)
        cases hentries
    · rcases hgroup.run h with ⟨-, hopen⟩ | ⟨_, _, _, hentries⟩
      · cases hopen
      · cases hentries
  · cases h

/-! ## The first contact -/

/-- The first contact is complete at a place, by the next character or by the end of the text; `es`
are the entries that follow. -/
inductive Cut (contact : Contact) (es : List Entry) : Place → Text → Prop
  | here {place place' : Place} {c : Char} {t : Text} (h : Ends place c contact place')
    (hrest : (initial.moveTo place').parse t = .ok es) : Cut contact es place (c :: t)
  | atEnd {text} (hat : '@' ∈ trimEnd text) (hcontact : contact = ⟨none, trimEnd text⟩)
    (hes : es = []) : Cut contact es (.bare text) []

/-- **A text that begins with a contact is cut where the contact is complete.** -/
theorem first_of_parse (h : (initial.moveTo place).parse t = .ok (.single contact :: es)) :
    ∃ u place' w, t = u ++ w ∧ (initial.moveTo place).run u = .ok (initial.moveTo place') ∧
      Cut contact es place' w := by
  induction t generalizing place with
  | nil =>
    refine ⟨[], place, [], rfl, rfl, ?_⟩
    cases place with
    | bare text =>
      rw [parse_nil] at h
      simp only [finish, moveTo, initial, add] at h
      split_ifs at h with hat
      · cases h
        exact .atEnd hat rfl rfl
      · cases h
    | _ => cases h
  | cons c t ih =>
    rcases cases_of_parse h with ⟨next, hpasses, hrest⟩ | ⟨_, next, _, hends, heq, hrest⟩ |
      ⟨_, _, _, heq⟩
    · obtain ⟨u, place', w, rfl, hrun, hcut⟩ := ih hrest
      exact ⟨c :: u, place', w, rfl, (run_cons_of_step (step_of_passes hpasses) u).trans hrun, hcut⟩
    · cases heq
      exact ⟨[], place, c :: t, rfl, rfl, .here hends hrest⟩
    · cases heq

theorem first_of_initial (h : initial.parse t = .ok (.single contact :: es)) :
    ∃ u place w, t = u ++ w ∧ initial.run u = .ok (initial.moveTo place) ∧
      Cut contact es place w := by
  have hstart : (initial.moveTo .start).parse t = .ok (.single contact :: es) := h
  exact first_of_parse hstart

/-! ## Contacts only -/

/-- What a text comes to that makes no entry: from the start it is blank, and within an entry there
is none. -/
def Idles (t : Text) : Place → Prop
  | .start | .groupStart => isBlankText t
  | .afterBracketed | .commentAfterBracketed => True
  | .quoted _ | .escaped _ | .afterQuoted _ _ | .bracketed _ _ | .bare _ | .commentInBare _ => False

theorem Passes.idles (h : Passes place c place') (hidles : Idles t place') :
    Idles (c :: t) place := by
  cases h with
  | last => trivial
  | shift h =>
    cases h with
    | blank hblank hplace =>
      have ht : isBlankText (c :: t) := by
        rw [isBlankText, List.all_cons, hblank]
        exact hidles
      rcases hplace with rfl | rfl
      all_goals exact ht
    | next | remark | behindBracketed | endRemark | inRemark => trivial
    | _ => exact hidles.elim

/-- A text without entries is blank. -/
theorem idles_of_parse (h : (initial.moveTo place).parse t = .ok []) : Idles t place := by
  induction t generalizing place with
  | nil =>
    cases place with
    | start | groupStart => rfl
    | afterBracketed => trivial
    | bare text =>
      rw [parse_nil] at h
      simp only [finish, moveTo, initial, add] at h
      split_ifs at h
      all_goals cases h
    | _ => cases h
  | cons c t ih =>
    rcases cases_of_parse h with ⟨next, hpasses, hrest⟩ | ⟨_, _, _, -, heq, -⟩ | ⟨_, _, _, heq⟩
    · exact hpasses.idles (ih hrest)
    · cases heq
    · cases heq

/-- Nothing but blanks and comments stands in front of the end of the text, or in front of a
delimiter with these entries behind it. -/
def Trails (place : Place) (t : Text) (es : List Entry) : Prop :=
  ∃ v, (initial.moveTo place).run v = .ok (initial.moveTo .afterBracketed) ∧
    (t = v ∧ es = [] ∨ ∃ d w, t = v ++ d :: w ∧ isDelimiter d ∧ initial.parse w = .ok es)

theorem Trails.cons (h : Trails place' t es)
    (hstep : (initial.moveTo place).step c = .ok (initial.moveTo place')) :
    Trails place (c :: t) es := by
  obtain ⟨v, hrun, hcases⟩ := h
  refine ⟨c :: v, (run_cons_of_step hstep v).trans hrun, ?_⟩
  rcases hcases with ⟨rfl, rfl⟩ | ⟨d, w, rfl, hd, hrest⟩
  · exact .inl ⟨rfl, rfl⟩
  · exact .inr ⟨d, w, rfl, hd, hrest⟩

theorem trails_delimiter (hd : isDelimiter c) (h : initial.parse t = .ok es) :
    Trails .afterBracketed (c :: t) es :=
  ⟨[], rfl, .inr ⟨c, t, rfl, hd, h⟩⟩

theorem trails_of_parse (hplace : place = .afterBracketed ∨ place = .commentAfterBracketed)
    (h : (initial.moveTo place).parse t = .ok es) : Trails place t es := by
  induction t generalizing place with
  | nil =>
    rcases hplace with rfl | rfl
    · cases h
      exact ⟨[], rfl, .inl ⟨rfl, rfl⟩⟩
    · cases h
  | cons c t ih =>
    obtain ⟨r, hstep⟩ := exists_step_of_parse h
    rw [parse_cons_of_step hstep] at h
    have htaken := hstep
    rcases hplace with rfl | rfl
    · change (initial.moveTo .afterBracketed).stepAfterBracketed c = .ok r at htaken
      unfold stepAfterBracketed at htaken
      split_ifs at htaken with hblank hcomma hlast hremark
      all_goals cases htaken
      · exact (ih (.inl rfl) h).cons hstep
      · exact trails_delimiter (isDelimiter_iff.2 (.inl hcomma)) h
      · exact trails_delimiter (isDelimiter_iff.2 (.inr hlast)) h
      · exact (ih (.inr rfl) h).cons hstep
    · cases htaken
      split_ifs at h hstep with hc
      · exact (ih (.inl rfl) h).cons hstep
      · exact (ih (.inr rfl) h).cons hstep

end Reading

variable {text value : Text} {contact : Contact} {contacts : List Contact}

/-- A text is read as contacts only if they stand one behind the other in it. -/
theorem lists_of_parse (h : parse value = .ok (contacts.map .single)) :
    Lists Completes contacts value := by
  induction hlength : value.length using Nat.strong_induction_on generalizing value contacts with
  | _ n ih =>
    cases contacts with
    | nil =>
      have hidles : Reading.Idles value .start := Reading.idles_of_parse h
      exact .blank hidles
    | cons contact contacts =>
      obtain ⟨u, place, w, rfl, hrun, hcut⟩ := Reading.first_of_initial h
      have hrest : ∀ {d w'}, w'.length < (u ++ w).length → isDelimiter d →
          Reading.initial.parse w' = .ok (contacts.map .single) → ∀ {t}, Completes t contact →
          Lists Completes (contact :: contacts) (t ++ d :: w') := by
        intro d w' hshort hd hparse t hcompletes
        exact .cons hcompletes hd (ih _ (hlength ▸ hshort) hparse rfl)
      cases hcut with
      | atEnd hat hcontact hes =>
        obtain rfl := List.map_eq_nil_iff.1 hes
        subst hcontact
        rw [List.append_nil]
        exact .last ⟨_, hrun, .bare hat⟩
      | here hends hparse =>
        cases hends with
        | bare hat hd =>
          refine hrest ?_ hd hparse ⟨_, hrun, .bare hat⟩
          rw [List.length_append, List.length_cons]
          omega
        | bracketed hat =>
          rename_i t name address
          obtain ⟨v, hv, hcases⟩ := Reading.trails_of_parse (.inl rfl) hparse
          have hcompletes : Completes (u ++ '>' :: v) ⟨name, address⟩ := by
            refine ⟨_, ?_, .bracketed hat⟩
            rw [Reading.run_append hrun,
              Reading.run_cons_of_step (Reading.step_bracketed name hat), Reading.run_behind, hv]
            rfl
          rcases hcases with ⟨rfl, hes⟩ | ⟨d, w', rfl, hd, hparse'⟩
          · obtain rfl := List.map_eq_nil_iff.1 hes
            exact .last hcompletes
          · have happend : u ++ '>' :: (v ++ d :: w') = u ++ '>' :: v ++ d :: w' := by simp
            rw [happend]
            refine hrest ?_ hd hparse' hcompletes
            simp only [List.length_append, List.length_cons]
            omega

/-- A contact that is complete is the first one, and what stands behind it is read for itself. -/
theorem Completes.parse_append (h : Completes text contact) {d : Char} (hd : isDelimiter d)
    (rest : Text) :
    Address.parse (text ++ d :: rest) = (Address.parse rest).map (.single contact :: ·) := by
  obtain ⟨r, hrun, hholds⟩ := h
  have hstep : r.step d = .ok (Reading.initial.behind [.single contact]) := hholds.step [] hd
  have hparse : Address.parse (text ++ d :: rest) = r.parse (d :: rest) :=
    Reading.parse_append hrun _
  rw [hparse, Reading.parse_cons_of_step hstep, Reading.parse_behind]
  rfl

/-- **A text is read as contacts only if and only if they stand one behind the other in it.** -/
theorem parse_eq_iff : parse value = .ok (contacts.map .single) ↔ Lists Completes contacts value :=
  ⟨lists_of_parse, parse_of_lists⟩

end Postroom.Address
