import Postroom.Proofs.Pattern.ClassEnds

/-!
# What an item of the notation asks for

An item is read from the text, and then it is carried out on the groups that are open.  The reading
of a pattern does both in one step; here they are two: `move?` reads what an item asks for from the
text and the flags alone, and `Reading.make` carries it out (`Reading.step_eq`).  So how a text goes
on and what stands around a group can be looked at apart.  Only a closing bracket is left out: what
it does depends on what stands around the group.

`move?` is a reader like the parts of items, but for a word edge in front of a brace
(`beside_move?`).
-/

namespace Postroom.Pattern

/-- What an item of the notation asks for, unless it closes a group. -/
inductive Move where
  /-- To stand in the current alternative. -/
  | push (n : Node)
  /-- To switch flags. -/
  | switch (f : Flags)
  /-- To repeat the item before it. -/
  | again (least : ℕ) (most : Option ℕ)
  /-- To begin another alternative. -/
  | alternative
  /-- To open a group in which flags hold. -/
  | enter (f : Flags)
  /-- To open a group that captures. -/
  | capture
  /-- To open a group with a name. -/
  | named (name : Text)

namespace Reading

/-- Does what an item asks for. -/
def make (r : Reading) : Move → Option Reading
  | .push n => some (r.push n)
  | .switch f => some ({ r with flags := f }.push ⟨.empty, 0, false⟩)
  | .again least most => (r.frame.repeatLast least most).map fun frame => { r with frame }
  | .alternative => some { r with frame := r.frame.split }
  | .enter f => some (r.enter f none)
  | .capture => some r.enterCapture
  | .named name =>
    if r.names.contains name then none else some { r with names := name :: r.names }.enterCapture

end Reading

/-- A question mark behind a repetition changes nothing that matters. -/
def behindRepeat : Text → Text :=
  onChar '?' id id

/-- What stands behind an opening bracket and a question mark. -/
def specialMove? (f : Flags) : Text → Option (Move × Text) :=
  let named := fun t => (groupName? t).map fun read => (Move.named read.1, read.2)
  let none := fun _ => none
  onChar '=' none <| onChar '!' none <|
  onChar '<' (onChar '=' none <| onChar '!' none named) <|
  onChar 'P' (onChar '<' named none) fun t =>
    (flags? f [] true false t).map fun read =>
      (if read.2.1 = ':' then .enter read.1 else .switch read.1, read.2.2)

/-- What stands behind an opening bracket. -/
def groupMove? (f : Flags) (t : Text) : Option (Move × Text) :=
  onChar '?' (specialMove? f) (fun t => some (.capture, t)) (f.skip t)

/-- What an item asks for, by its first character and what stands behind it. -/
def move? (f : Flags) (c : Char) (t : Text) : Option (Move × Text) :=
  let again := fun least most t => some (Move.again least most, behindRepeat t)
  let push := fun (n : Option Node) => n.map fun n => (Move.push n, t)
  if c = '(' then groupMove? f t
  else if c = ')' then none
  else if c = '|' then some (.alternative, t)
  else if c = '[' then
    (class? f t).map fun read => (.push ⟨.chars read.1.set, read.1.depth, true⟩, read.2)
  else if c = '?' then again 0 (some 1) t
  else if c = '*' then again 0 none t
  else if c = '+' then again 1 none t
  else if c = '{' then (bounds? f t).bind fun read => again read.1 read.2.1 (f.skip read.2.2)
  else if c = '\\' then
    (escape? f t).bind fun read => (Reading.atom f read.1).map fun n => (.push n, read.2)
  else if c = '.' then push (Reading.dot f)
  else if c = '^' then
    push (some (.leaf (.look (if f.multiLine then .lineStart f.crlf else .textStart))))
  else if c = '$' then
    push (some (.leaf (.look (if f.multiLine then .lineEnd f.crlf else .textEnd))))
  else push (Reading.literal f c false)

namespace Reading

variable (r : Reading)

/-- Does what has been read. -/
def makeRead (read : Move × Text) : Option (Reading × Text) :=
  (r.make read.1).map fun next => (next, read.2)

theorem enterNamed_eq (t : Text) :
    r.enterNamed t =
      ((groupName? t).map fun read => (Move.named read.1, read.2)).bind r.makeRead := by
  unfold enterNamed
  rcases groupName? t with _ | ⟨name, rest⟩
  · rfl
  · simp only [Option.map_some, Option.bind_some, makeRead, make]
    split_ifs <;> rfl

theorem stepSpecial_eq (t : Text) : r.stepSpecial t = (specialMove? r.flags t).bind r.makeRead := by
  have hflags : ∀ rest, flags? r.flags [] true false ('P' :: rest) = none := fun rest => rfl
  have hother : ∀ {c d : Char}, c ≠ d → ∀ {behind otherwise : Text → Option (Move × Text)} t,
      onChar d behind otherwise (c :: t) = otherwise (c :: t) := fun hc => onChar_cons_of_ne hc
  unfold stepSpecial specialMove?
  split
  · rw [onChar_self]
    rfl
  · rw [hother (by decide), onChar_self]
    rfl
  · rw [hother (by decide), hother (by decide), onChar_self, onChar_self]
    rfl
  · rw [hother (by decide), hother (by decide), onChar_self, hother (by decide), onChar_self]
    rfl
  · rw [hother (by decide), hother (by decide), hother (by decide), onChar_self, onChar_self]
    exact r.enterNamed_eq _
  · rename_i hequal hexcl
    rw [hother (by decide), hother (by decide), onChar_self, onChar_of_ne hequal,
      onChar_of_ne hexcl]
    exact r.enterNamed_eq _
  · rename_i hequal hexcl _ _ hname hangle
    rw [onChar_of_ne hequal, onChar_of_ne hexcl, onChar_of_ne hangle]
    by_cases hletter : ∃ rest, t = 'P' :: rest
    · obtain ⟨rest, rfl⟩ := hletter
      rw [onChar_self, onChar_of_ne fun after h => hname after (by rw [h]), hflags]
      rfl
    · rw [onChar_of_ne fun rest h => hletter ⟨rest, h⟩]
      rcases flags? r.flags [] true false t with _ | ⟨f, stop, rest⟩
      · rfl
      · simp only [Option.map_some, Option.bind_some]
        split_ifs <;> rfl

theorem stepGroup_eq (t : Text) : r.stepGroup t = (groupMove? r.flags t).bind r.makeRead := by
  unfold stepGroup groupMove?
  split
  · rename_i heq
    rw [heq, onChar_self]
    exact r.stepSpecial_eq _
  · rename_i hquestion
    rw [onChar_of_ne hquestion]
    rfl

theorem stepRepeat_eq (least : ℕ) (most : Option ℕ) (t : Text) :
    r.stepRepeat least most t = r.makeRead (.again least most, behindRepeat t) := by
  change _ = ((r.frame.repeatLast least most).map _).map _
  unfold stepRepeat
  cases r.frame.repeatLast least most with
  | none => rfl
  | some frame =>
    refine congrArg (fun rest => some (_, rest)) ?_
    change _ = behindRepeat t
    unfold behindRepeat
    split
    · rw [onChar_self]
      rfl
    · rename_i hquestion
      rw [onChar_of_ne hquestion]
      rfl

/-- **A step reads what an item asks for and does it.** -/
theorem step_eq {c : Char} (hc : c ≠ ')') (t : Text) :
    r.step (c :: t) = (move? r.flags c t).bind r.makeRead := by
  unfold step
  split
  · rename_i heq
    cases heq
  · rename_i heq
    cases heq
    exact r.stepGroup_eq _
  · rename_i heq
    cases heq
    exact absurd rfl hc
  · rename_i heq
    cases heq
    rfl
  · rename_i heq
    cases heq
    change _ = ((class? r.flags t).map _).bind r.makeRead
    cases class? r.flags t <;> rfl
  · rename_i heq
    cases heq
    exact r.stepRepeat_eq 0 (some 1) _
  · rename_i heq
    cases heq
    exact r.stepRepeat_eq 0 none _
  · rename_i heq
    cases heq
    exact r.stepRepeat_eq 1 none _
  · rename_i heq
    cases heq
    change _ = ((bounds? r.flags t).bind _).bind r.makeRead
    cases bounds? r.flags t with
    | none => rfl
    | some read => exact r.stepRepeat_eq _ _ _
  · rename_i heq
    cases heq
    change _ = ((escape? r.flags t).bind _).bind r.makeRead
    rcases escape? r.flags t with _ | ⟨a, after⟩
    · rfl
    · simp only [Option.bind_some]
      cases atom r.flags a <;> rfl
  · rename_i heq
    cases heq
    change _ = ((dot r.flags).map _).bind r.makeRead
    cases dot r.flags <;> rfl
  · rename_i heq
    cases heq
    rfl
  · rename_i heq
    cases heq
    rfl
  · rename_i h1 h2 h3 h4 h5 h6 h7 h8 h9 h10 h11 h12 heq
    cases heq
    have hmove : move? r.flags c t =
        (literal r.flags c false).map fun n => (.push n, t) := by
      unfold move?
      simp only [if_neg h1, if_neg h2, if_neg h3, if_neg h4, if_neg h5, if_neg h6, if_neg h7,
        if_neg h8, if_neg h9, if_neg h10, if_neg h11, if_neg h12]
    rw [hmove]
    cases literal r.flags c false <;> rfl

end Reading

/-! ## Where a move ends -/

theorem isReader_again (least : ℕ) (most : Option ℕ) :
    IsReader fun t => some (Move.again least most, behindRepeat t) := by
  have heq : (fun t => some (Move.again least most, behindRepeat t)) =
      onChar '?' (fun t => some (Move.again least most, t))
        fun t => some (Move.again least most, t) := by
    funext t
    cases t with
    | nil => rfl
    | cons c t =>
      unfold behindRepeat onChar
      rw [onFirst_cons, onFirst_cons]
      split_ifs <;> rfl
  rw [heq]
  exact isReader_onChar (by decide) (isReader_some _) (isReader_some _)

theorem isReader_specialMove? (f : Flags) : IsReader (specialMove? f) := by
  have hnamed : IsReader fun t => (groupName? t).map fun read => (Move.named read.1, read.2) :=
    isReader_groupName?.map Move.named
  have hflags : IsReader fun t => (flags? f [] true false t).map fun read =>
      (if read.2.1 = ':' then Move.enter read.1 else .switch read.1, read.2.2) := by
    have hread := (isReader_flags? f [] true false).map fun read =>
      if read.2 = ':' then Move.enter read.1 else .switch read.1
    simp only [Option.map_map] at hread
    exact hread
  unfold specialMove?
  refine isReader_onChar (by decide) isReader_none ?_
  refine isReader_onChar (by decide) isReader_none ?_
  refine isReader_onChar (by decide) ?_ ?_
  · refine isReader_onChar (by decide) isReader_none ?_
    exact isReader_onChar (by decide) isReader_none hnamed
  · refine isReader_onChar (by decide) ?_ hflags
    exact isReader_onChar (by decide) hnamed isReader_none

theorem isReader_groupMove? (f : Flags) : IsReader (groupMove? f) :=
  (isReader_onChar (by decide) (isReader_specialMove? f) (isReader_some Move.capture)).skip f

theorem isReader_class? (f : Flags) : IsReader (class? f) := by
  refine ⟨class?_suffix f, fun t => ?_⟩
  rw [class?_closing]
  cases class? f t with
  | none => exact .failed
  | some read => exact .same read.1 read.2

theorem isReader_boundsMove? (f : Flags) :
    IsReader fun t => (bounds? f t).bind fun read =>
      some (Move.again read.1 read.2.1, behindRepeat (f.skip read.2.2)) := by
  have hread := (isReader_bounds? f).andThen fun bounds =>
    (isReader_again bounds.1 bounds.2).skip f
  unfold andThen at hread
  simp only [Option.bind_map] at hread
  exact hread

theorem isReader_push (n : Option Node) :
    IsReader fun t => n.map fun n => (Move.push n, t) := by
  cases n with
  | none => exact isReader_none
  | some n => exact isReader_some _

/-- What an item asks for, when it is no escape. -/
theorem isReader_move? (f : Flags) {c : Char} (hc : c ≠ '\\') : IsReader (move? f c) := by
  unfold move?
  refine isReader_ite (fun _ => isReader_groupMove? f) fun _ => ?_
  refine isReader_ite (fun _ => isReader_none) fun _ => ?_
  refine isReader_ite (fun _ => isReader_some _) fun _ => ?_
  refine isReader_ite (fun _ => ?_) fun _ => ?_
  · exact (isReader_class? f).map fun node => Move.push ⟨.chars node.set, node.depth, true⟩
  refine isReader_ite (fun _ => isReader_again 0 (some 1)) fun _ => ?_
  refine isReader_ite (fun _ => isReader_again 0 none) fun _ => ?_
  refine isReader_ite (fun _ => isReader_again 1 none) fun _ => ?_
  refine isReader_ite (fun _ => isReader_boundsMove? f) fun _ => ?_
  refine isReader_ite (fun h => absurd h hc) fun _ => ?_
  refine isReader_ite (fun _ => isReader_push _) fun _ => ?_
  refine isReader_ite (fun _ => isReader_push _) fun _ => ?_
  exact isReader_ite (fun _ => isReader_push _) fun _ => isReader_push _

theorem move?_backslash (f : Flags) (t : Text) :
    move? f '\\' t = (escape? f t).bind fun read =>
      (Reading.atom f read.1).map fun n => (.push n, read.2) :=
  rfl

theorem move?_suffix (f : Flags) {c : Char} {t rest : Text} {m : Move}
    (h : move? f c t = some (m, rest)) : rest <:+ t := by
  by_cases hc : c = '\\'
  · subst hc
    rw [move?_backslash] at h
    obtain ⟨read, hread, hatom⟩ := Option.bind_eq_some_iff.1 h
    obtain ⟨n, -, heq⟩ := Option.map_eq_some_iff.1 hatom
    cases heq
    exact escape?_suffix f hread
  · exact (isReader_move? f hc).suffix h

/-- A word edge is read in front of a brace, and the brace cannot be read. -/
def IsStuck (f : Flags) (read : Option (Move × Text)) : Prop :=
  ∃ n rest, read = some (.push n, '{' :: rest) ∧ f.skip rest = closing

/-- **What an item asks for is read behind closing brackets as without them**, unless the text is
broken off or ends in a comment.  A word edge may be read where the text breaks off behind a brace.
-/
theorem beside_move? (f : Flags) (c : Char) (t : Text) :
    Beside (move? f c t) (move? f c (t ++ closing)) ∨
      move? f c t = none ∧ IsStuck f (move? f c (t ++ closing)) := by
  by_cases hc : c = '\\'
  · subst hc
    rw [move?_backslash, move?_backslash]
    rcases beside_escape? f t with h | ⟨hnone, l, rest, hsome, hskip⟩
    · exact .inl (h.bind fun a => isReader_push (Reading.atom f a))
    · rw [hnone, hsome]
      exact .inr ⟨rfl, .leaf (.look l), rest, rfl, hskip⟩
  · exact .inl ((isReader_move? f hc).beside t)

end Postroom.Pattern
