import Postroom.Filter.Marks
import Postroom.Proofs.Mailbox.Tags

/-!
# What marks a list of actions leads to

A mailbox is asked about the flags and the tags that actions name one by one, and the marks are
folded over its answers.  `Marks.Follow` says what comes of it in terms of the actions alone: each
system flag is as the last action on it leaves it, the tags are those that the mailbox has by the
names, and each action on a flag or a tag that it does not have is warned about once.  A bit is
followed through the fold step by step (`Marks.testBit_applyFlag`, `Marks.testBit_flags`), which
works because no two system flags share one.
-/

namespace Postroom

/-! ## Bits of flags -/

namespace Flag

/-- The numbers of the system flags. -/
def numbers : List FlagId :=
  system.map (·.1)

/-- The place of a system flag among the bits of a word. -/
def place (id : FlagId) : ℕ :=
  (-id.toInt - 1).toNat

theorem toNat_bitmask : ∀ id ∈ numbers, (bitmask id).toNat = 2 ^ place id := by
  decide +kernel

/-- A system flag has the bit at its place and no other. -/
theorem testBit_bitmask {id : FlagId} (h : id ∈ numbers) (n : ℕ) :
    (bitmask id).toNat.testBit n = decide (place id = n) := by
  rw [toNat_bitmask id h, Nat.testBit_two_pow]

/-- Clearing flags clears their bits and leaves the others alone. -/
theorem testBit_clear (mask flags : Bitmask) (n : ℕ) :
    (mask &&& ~~~flags).toNat.testBit n = (mask.toNat.testBit n && !flags.toNat.testBit n) := by
  have hbit : ∀ word : Bitmask, word.toNat.testBit n = word.toBitVec.getLsbD n :=
    fun word => BitVec.testBit_toNat word.toBitVec
  rw [hbit, hbit, hbit, UInt32.toBitVec_and, UInt32.toBitVec_not, BitVec.getLsbD_and,
    BitVec.getLsbD_not]
  by_cases hn : n < 32
  · simp [hn]
  · have hout : mask.toBitVec.getLsbD n = false := BitVec.getLsbD_of_ge _ _ (by omega)
    simp [hout]

theorem eq_of_place_eq : ∀ id ∈ numbers, ∀ id' ∈ numbers, place id' = place id → id' = id := by
  decide +kernel

end Flag

/-! ## What a mailbox knows -/

namespace Mailbox

theorem Reachable.flags_eq {m : Mailbox} (h : m.Reachable) : m.flags = MailboxFlag.system := by
  induction h with
  | new account token => rfl
  | @apply m h o hnext ih =>
    obtain ⟨next, c, hm, -, hchange⟩ := exists_change m o
    rw [hm]
    cases hchange with
    | nothing | folder | tag | copy => exact ih

/-- A system flag is found by its number. -/
theorem flagById_of_mem {m : Mailbox} (h : m.flags = MailboxFlag.system) {id : FlagId}
    (hid : id ∈ Flag.numbers) : ∃ f, m.flagById id = .ok f ∧ f.bitmask = Flag.bitmask id := by
  have hbitmask : ∀ f ∈ MailboxFlag.system, f.bitmask = Flag.bitmask f.id := by
    intro f hf
    obtain ⟨e, -, rfl⟩ := List.mem_map.1 hf
    rfl
  have hids : Flag.numbers = MailboxFlag.system.map (·.id) := rfl
  rw [hids] at hid
  obtain ⟨f, hf, rfl⟩ := List.mem_map.1 hid
  have hsome : (m.flags.find? (·.id == f.id)).isSome = true :=
    List.find?_isSome.2 ⟨f, h ▸ hf, beq_self_eq_true f.id⟩
  obtain ⟨g, hg⟩ := Option.isSome_iff_exists.1 hsome
  have hmem : g ∈ MailboxFlag.system := h ▸ List.mem_of_find?_eq_some hg
  have hsame : g.id = f.id := by simpa using List.find?_some hg
  exact ⟨g, by rw [flagById, hg], by rw [hbitmask g hmem, hsame]⟩

theorem flagById_of_not_mem {m : Mailbox} (h : m.flags = MailboxFlag.system) {id : FlagId}
    (hid : id ∉ Flag.numbers) : m.flagById id = .error (.flagUnknown id) := by
  have hnone : m.flags.find? (·.id == id) = none := by
    rw [List.find?_eq_none, h]
    intro f hf hsame
    have hids : f.id ∈ Flag.numbers := List.mem_map_of_mem (f := (·.id)) hf
    rw [beq_iff_eq.1 hsame] at hids
    exact hid hids
  rw [flagById, hnone]

end Mailbox

/-! ## What is asked -/

namespace MarkAction

/-- The flag that the action is about, and whether it is to be set. -/
def setting? : MarkAction → Option (FlagId × Bool)
  | flag id set => some (id, set)
  | tag _ => none

/-- The name of the tag that the action is about. -/
def tagName? : MarkAction → Option Text
  | tag name => some name
  | flag _ _ => none

/-- The action names no flag that a mailbox does not have. -/
def isHeard : MarkAction → Bool
  | flag id _ => decide (id ∈ Flag.numbers)
  | tag _ => true

end MarkAction

namespace Marks

variable {m : Mailbox}

/-- The answer of a mailbox to an action on a flag. -/
def flagAnswer (m : Mailbox) (setting : FlagId × Bool) : MarkAnswer :=
  .flag setting.1 setting.2 (m.flagById setting.1)

/-- The answer of a mailbox to an action on a tag. -/
def tagAnswer (m : Mailbox) (name : Text) : MarkAnswer :=
  .tag name (m.tagByName name)

theorem askFlags_store (m : Mailbox) (actions : List MarkAction) :
    askFlags Mailbox.store actions m =
      ((actions.filterMap MarkAction.setting?).map (flagAnswer m), m) := by
  induction actions with
  | nil => rfl
  | cons a rest ih =>
    cases a with
    | tag name => exact ih
    | flag id set =>
      show (flagAnswer m (id, set) :: (askFlags Mailbox.store rest m).1,
        (askFlags Mailbox.store rest m).2) = _
      rw [ih]
      rfl

theorem askTags_store (m : Mailbox) (actions : List MarkAction) :
    askTags Mailbox.store actions m =
      ((actions.filterMap MarkAction.tagName?).map (tagAnswer m), m) := by
  induction actions with
  | nil => rfl
  | cons a rest ih =>
    cases a with
    | flag id set => exact ih
    | tag name =>
      show (tagAnswer m name :: (askTags Mailbox.store rest m).1,
        (askTags Mailbox.store rest m).2) = _
      rw [ih]
      rfl

/-- A mailbox answers for all flags and then for all tags, and stays as it is. -/
theorem ask_store (m : Mailbox) (actions : List MarkAction) :
    ask Mailbox.store actions m = ((actions.filterMap MarkAction.setting?).map (flagAnswer m) ++
      (actions.filterMap MarkAction.tagName?).map (tagAnswer m), m) := by
  show ((askFlags Mailbox.store actions m).1 ++
    (askTags Mailbox.store actions (askFlags Mailbox.store actions m).2).1,
    (askTags Mailbox.store actions (askFlags Mailbox.store actions m).2).2) = _
  rw [askFlags_store, askTags_store]

/-! ## Flags -/

/-- The action sets or clears the bit at a place. -/
def touches (n : ℕ) (setting : FlagId × Bool) : Bool :=
  decide (setting.1 ∈ Flag.numbers ∧ Flag.place setting.1 = n)

/-- What the last action on the bit at a place asks for. -/
def lastAt (settings : List (FlagId × Bool)) (n : ℕ) : Option Bool :=
  (settings.filter (touches n)).getLast?.map (·.2)

/-- An answer leaves each bit alone, but for the one of its flag. -/
theorem testBit_applyFlag (h : m.flags = MailboxFlag.system) (mask : Bitmask)
    (setting : FlagId × Bool) (n : ℕ) :
    ((flagAnswer m setting).applyFlag mask).toNat.testBit n =
      if touches n setting then setting.2 else mask.toNat.testBit n := by
  obtain ⟨id, set⟩ := setting
  by_cases hid : id ∈ Flag.numbers
  · obtain ⟨f, hanswer, hbitmask⟩ := Mailbox.flagById_of_mem h hid
    have hbit := Flag.testBit_bitmask hid n
    have htouches : touches n (id, set) = decide (Flag.place id = n) := by
      simp [touches, hid]
    rw [htouches, flagAnswer, hanswer]
    cases set with
    | true =>
      show (mask ||| f.bitmask).toNat.testBit n = _
      rw [UInt32.toNat_or, Nat.testBit_or, hbitmask, hbit]
      by_cases hplace : Flag.place id = n <;> simp [hplace]
    | false =>
      show (mask &&& ~~~f.bitmask).toNat.testBit n = _
      rw [Flag.testBit_clear, hbitmask, hbit]
      by_cases hplace : Flag.place id = n <;> simp [hplace]
  · have htouches : touches n (id, set) = false := by simp [touches, hid]
    rw [htouches, flagAnswer, Mailbox.flagById_of_not_mem h hid]
    cases set <;> rfl

/-- Each bit is as the last action on it leaves it. -/
theorem testBit_flags (h : m.flags = MailboxFlag.system) (settings : List (FlagId × Bool))
    (mask : Bitmask) (n : ℕ) :
    ((settings.map (flagAnswer m)).foldl MarkAnswer.applyFlag mask).toNat.testBit n =
      (lastAt settings n).getD (mask.toNat.testBit n) := by
  induction settings generalizing mask with
  | nil => rfl
  | cons setting settings ih =>
    rw [List.map_cons, List.foldl_cons, ih, testBit_applyFlag h, lastAt, lastAt, List.filter_cons]
    split
    · rw [List.getLast?_cons]
      cases (settings.filter (touches n)).getLast? <;> rfl
    · rfl

/-- What the last action on a flag asks for. -/
def lastSetting (actions : List MarkAction) (id : FlagId) : Option Bool :=
  ((actions.filterMap MarkAction.setting?).filter (·.1 == id)).getLast?.map (·.2)

theorem lastAt_place (actions : List MarkAction) {id : FlagId} (hid : id ∈ Flag.numbers) :
    lastAt (actions.filterMap MarkAction.setting?) (Flag.place id) = lastSetting actions id := by
  have htouches : touches (Flag.place id) = fun setting => setting.1 == id := by
    funext setting
    rw [touches, Bool.eq_iff_iff, decide_eq_true_iff, beq_iff_eq]
    constructor
    · rintro ⟨hmem, hplace⟩
      exact Flag.eq_of_place_eq id hid setting.1 hmem hplace
    · rintro rfl
      exact ⟨hid, rfl⟩
  rw [lastAt, lastSetting, htouches]

theorem lastAt_of_not_place (settings : List (FlagId × Bool)) {n : ℕ}
    (hn : n ∉ Flag.numbers.map Flag.place) : lastAt settings n = none := by
  have hnone : settings.filter (touches n) = [] := by
    refine List.filter_eq_nil_iff.2 fun setting _ htouches => hn ?_
    obtain ⟨hmem, rfl⟩ := of_decide_eq_true htouches
    exact List.mem_map_of_mem hmem
  rw [lastAt, hnone]
  rfl

/-! ## Warnings -/

/-- The warning about a flag that a mailbox does not have. -/
def flagWarning (id : FlagId) : Notice :=
  .warning ("cannot flag message with flag ".toList ++ Text.ofInt id.toInt
    ++ ", skipping it: ".toList ++ ("cannot find flag ".toList ++ Text.ofInt id.toInt))

/-- The warning about a tag that a mailbox does not have. -/
def tagWarning (recipient name : Text) : Notice :=
  .warning ("tag ".toList ++ name ++ " does not exist, cannot tag message for ".toList ++ recipient)

theorem warnings_flags (h : m.flags = MailboxFlag.system) (recipient : Text)
    (settings : List (FlagId × Bool)) :
    (settings.map (flagAnswer m)).filterMap (MarkAnswer.warning? recipient) =
      ((settings.map (·.1)).filter (· ∉ Flag.numbers)).map flagWarning := by
  induction settings with
  | nil => rfl
  | cons setting settings ih =>
    rw [List.map_cons, List.map_cons, List.filterMap_cons, List.filter_cons, ih]
    by_cases hid : setting.1 ∈ Flag.numbers
    · obtain ⟨f, hanswer, -⟩ := Mailbox.flagById_of_mem h hid
      have hquiet : (flagAnswer m setting).warning? recipient = none := by
        rw [flagAnswer, hanswer]
        rfl
      rw [hquiet, if_neg (by simpa using hid)]
    · have hwarns : (flagAnswer m setting).warning? recipient = some (flagWarning setting.1) := by
        rw [flagAnswer, Mailbox.flagById_of_not_mem h hid]
        rfl
      rw [hwarns, if_pos (by simpa using hid), List.map_cons]

theorem warnings_tags (hm : m.Reachable) (recipient : Text) (names : List Text) :
    (names.map (tagAnswer m)).filterMap (MarkAnswer.warning? recipient) =
      (names.filter (!m.hasTag ·)).map (tagWarning recipient) := by
  induction names with
  | nil => rfl
  | cons name names ih =>
    rw [List.map_cons, List.filterMap_cons, List.filter_cons, ih]
    cases hhas : m.hasTag name with
    | true =>
      obtain ⟨t, hanswer, -⟩ := hm.tagByName_of_hasTag hhas
      rw [tagAnswer, hanswer]
      rfl
    | false =>
      rw [tagAnswer, Mailbox.tagByName_of_not_hasTag hhas]
      rfl

/-! ## Tags -/

/-- The tags are those that the mailbox has of the names. -/
theorem tags_forall₂ (hm : m.Reachable) (names : List Text) :
    List.Forall₂ (fun name id => ∃ t, m.IsTagOf name t ∧ t.id = id) (names.filter m.hasTag)
      ((names.map (tagAnswer m)).filterMap MarkAnswer.tag?) := by
  induction names with
  | nil => exact .nil
  | cons name names ih =>
    rw [List.map_cons, List.filterMap_cons, List.filter_cons]
    cases hhas : m.hasTag name with
    | true =>
      obtain ⟨t, hanswer, ht⟩ := hm.tagByName_of_hasTag hhas
      rw [tagAnswer, hanswer]
      exact .cons ⟨t, ht, rfl⟩ ih
    | false =>
      rw [tagAnswer, Mailbox.tagByName_of_not_hasTag hhas]
      exact ih

/-! ## All marks -/

/-- What marks and warnings have to do with actions. -/
structure Follow (m : Mailbox) (actions : List MarkAction) (recipient : Text) (marks : Marks)
    (notices : List Notice) : Prop where
  /-- A system flag is set when the last action on it sets it, or when there is none and the flag
  says that the message is unread. -/
  flag : ∀ id ∈ Flag.numbers, marks.flags.toNat.testBit (Flag.place id) =
    (lastSetting actions id).getD (id == Flag.unread)
  /-- No other bit is set. -/
  rest : ∀ n, n ∉ Flag.numbers.map Flag.place → marks.flags.toNat.testBit n = false
  /-- The tags are those of the names that the mailbox has a tag of, name by name. -/
  tags : List.Forall₂ (fun name id => ∃ t, m.IsTagOf name t ∧ t.id = id)
    ((actions.filterMap MarkAction.tagName?).filter m.hasTag) marks.tags
  /-- There is one warning for each action that names a flag or a tag the mailbox does not have. -/
  notices : notices = (((actions.filterMap MarkAction.setting?).map (·.1)).filter
      (· ∉ Flag.numbers)).map flagWarning ++
    ((actions.filterMap MarkAction.tagName?).filter (!m.hasTag ·)).map (tagWarning recipient)

theorem flags_ofAnswers (m : Mailbox) (settings : List (FlagId × Bool)) (names : List Text) :
    (ofAnswers (settings.map (flagAnswer m) ++ names.map (tagAnswer m))).flags =
      (settings.map (flagAnswer m)).foldl MarkAnswer.applyFlag initialFlags := by
  -- an answer about a tag leaves the flags alone
  have htags : ∀ mask, (names.map (tagAnswer m)).foldl MarkAnswer.applyFlag mask = mask := by
    intro mask
    induction names with
    | nil => rfl
    | cons name names ih => exact ih
  show (settings.map (flagAnswer m) ++ names.map (tagAnswer m)).foldl MarkAnswer.applyFlag _ = _
  rw [List.foldl_append, htags]

theorem tags_ofAnswers (m : Mailbox) (settings : List (FlagId × Bool)) (names : List Text) :
    (ofAnswers (settings.map (flagAnswer m) ++ names.map (tagAnswer m))).tags =
      (names.map (tagAnswer m)).filterMap MarkAnswer.tag? := by
  have hflags : (settings.map (flagAnswer m)).filterMap MarkAnswer.tag? = [] := by
    refine List.filterMap_eq_nil_iff.2 fun answer hanswer => ?_
    obtain ⟨setting, -, rfl⟩ := List.mem_map.1 hanswer
    rfl
  show (settings.map (flagAnswer m) ++ names.map (tagAnswer m)).filterMap MarkAnswer.tag? = _
  rw [List.filterMap_append, hflags, List.nil_append]

/-- The bits of the marks, in terms of the actions. -/
theorem testBit_ofAnswers (h : m.flags = MailboxFlag.system) (actions : List MarkAction) (n : ℕ) :
    (ofAnswers (ask Mailbox.store actions m).1).flags.toNat.testBit n =
      (lastAt (actions.filterMap MarkAction.setting?) n).getD (initialFlags.toNat.testBit n) := by
  rw [ask_store, flags_ofAnswers, testBit_flags h]

/-! ## Flags that no mailbox has -/

theorem settings_isHeard (actions : List MarkAction) :
    (actions.filter MarkAction.isHeard).filterMap MarkAction.setting? =
      (actions.filterMap MarkAction.setting?).filter fun setting =>
        decide (setting.1 ∈ Flag.numbers) := by
  induction actions with
  | nil => rfl
  | cons a actions ih =>
    cases a with
    | tag name => exact ih
    | flag id set =>
      have hsetting : (MarkAction.flag id set).setting? = some (id, set) := rfl
      by_cases hid : id ∈ Flag.numbers
      · have hheard : (MarkAction.flag id set).isHeard = true := decide_eq_true hid
        rw [List.filter_cons_of_pos hheard, List.filterMap_cons_some hsetting,
          List.filterMap_cons_some hsetting, List.filter_cons, if_pos (decide_eq_true hid), ih]
      · have hdeaf : ¬ (MarkAction.flag id set).isHeard = true := by simpa [MarkAction.isHeard]
        rw [List.filter_cons_of_neg hdeaf, List.filterMap_cons_some hsetting, List.filter_cons,
          if_neg (by simpa using hid), ih]

theorem names_isHeard (actions : List MarkAction) :
    (actions.filter MarkAction.isHeard).filterMap MarkAction.tagName? =
      actions.filterMap MarkAction.tagName? := by
  rw [List.filterMap_filter]
  congr 1
  funext a
  cases a with
  | tag name => rfl
  | flag id set => exact ite_self _

/-- Actions on flags that no mailbox has change nothing. -/
theorem ofAnswers_isHeard (h : m.flags = MailboxFlag.system) (actions : List MarkAction) :
    ofAnswers (ask Mailbox.store (actions.filter MarkAction.isHeard) m).1 =
      ofAnswers (ask Mailbox.store actions m).1 := by
  have hlast : ∀ n, lastAt ((actions.filter MarkAction.isHeard).filterMap MarkAction.setting?) n =
      lastAt (actions.filterMap MarkAction.setting?) n := by
    intro n
    rw [settings_isHeard, lastAt, lastAt, List.filter_filter]
    congr 3
    funext setting
    rw [touches, Bool.eq_iff_iff, Bool.and_eq_true, decide_eq_true_iff, decide_eq_true_iff]
    exact and_iff_left_of_imp And.left
  have hflags : (ofAnswers (ask Mailbox.store (actions.filter MarkAction.isHeard) m).1).flags =
      (ofAnswers (ask Mailbox.store actions m).1).flags := by
    refine UInt32.toNat_inj.1 (Nat.eq_of_testBit_eq fun n => ?_)
    rw [testBit_ofAnswers h, testBit_ofAnswers h, hlast]
  have htags : (ofAnswers (ask Mailbox.store (actions.filter MarkAction.isHeard) m).1).tags =
      (ofAnswers (ask Mailbox.store actions m).1).tags := by
    rw [ask_store, ask_store, tags_ofAnswers, tags_ofAnswers, names_isHeard]
  exact congrArg₂ Marks.mk hflags htags

/-- **Marks follow the actions.**  A mailbox answers for all actions and stays as it is.  Each
system flag is as the last action on it leaves it, and unread unless one says otherwise; the tags
are those of the names that the mailbox knows, in order and as often as they are named; what the
mailbox does not have changes nothing and is warned about once for each action. -/
theorem ask_follow (hm : m.Reachable) (actions : List MarkAction) (recipient : Text) :
    let answers := (ask Mailbox.store actions m).1
    (ask Mailbox.store actions m).2 = m ∧
      Follow m actions recipient (ofAnswers answers)
        (answers.filterMap (MarkAnswer.warning? recipient)) ∧
      ofAnswers (ask Mailbox.store (actions.filter MarkAction.isHeard) m).1 =
        ofAnswers answers := by
  intro answers
  have hanswers : answers = (actions.filterMap MarkAction.setting?).map (flagAnswer m) ++
      (actions.filterMap MarkAction.tagName?).map (tagAnswer m) :=
    congrArg Prod.fst (ask_store m actions)
  have hinitial : ∀ id ∈ Flag.numbers,
      initialFlags.toNat.testBit (Flag.place id) = (id == Flag.unread) := by
    decide +kernel
  have hclear : ∀ n, n ∉ Flag.numbers.map Flag.place → initialFlags.toNat.testBit n = false := by
    intro n hn
    rw [initialFlags, Flag.testBit_bitmask (by decide), decide_eq_false_iff_not]
    rintro rfl
    exact hn (by decide)
  refine ⟨congrArg Prod.snd (ask_store m actions), ?_, ofAnswers_isHeard hm.flags_eq actions⟩
  constructor
  case flag =>
    intro id hid
    rw [testBit_ofAnswers hm.flags_eq, lastAt_place actions hid, hinitial id hid]
  case rest =>
    intro n hn
    rw [testBit_ofAnswers hm.flags_eq, lastAt_of_not_place _ hn, hclear n hn]
    rfl
  case tags =>
    rw [hanswers, tags_ofAnswers]
    exact tags_forall₂ hm _
  case notices =>
    rw [hanswers, List.filterMap_append, warnings_flags hm.flags_eq, warnings_tags hm]

/-- Tags are known in any spelling, and of two actions on a flag the second one counts. -/
theorem ask_follow_respelled :
    let m := (Mailbox.new "bob".toList none).apply (.createTag "work".toList)
    let actions : List MarkAction := [.tag "Work".toList, .flag Flag.unread false, .flag (-30) true,
      .flag Flag.flagged false, .tag "home".toList, .flag Flag.flagged true, .tag "WORK".toList]
    m.Reachable ∧ Follow m actions "bob@localhost".toList ⟨32, [64, 64]⟩
      [flagWarning (-30), tagWarning "bob@localhost".toList "home".toList] := by
  intro m actions
  have hm : m.Reachable := .apply (.new "bob".toList none) _ (by decide)
  have hmarks : ofAnswers (ask Mailbox.store actions m).1 = ⟨32, [64, 64]⟩ := by decide +kernel
  have hwarnings : (ask Mailbox.store actions m).1.filterMap
      (MarkAnswer.warning? "bob@localhost".toList) =
      [flagWarning (-30), tagWarning "bob@localhost".toList "home".toList] := by
    decide +kernel
  obtain ⟨-, hfollow, -⟩ := ask_follow hm actions "bob@localhost".toList
  rw [hmarks, hwarnings] at hfollow
  exact ⟨hm, hfollow⟩

end Marks

end Postroom
