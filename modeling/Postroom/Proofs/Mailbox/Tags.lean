import Mathlib.Data.List.Nodup
import Postroom.Proofs.Mailbox.Resolution
import Postroom.Proofs.Text.Pieces

/-!
# The tags of a mailbox

A tag is created under a name that no tag has yet, and no other request touches the tags
(`Mailbox.apply_naming`).  So the tags of a mailbox are those that its history has created, in order
(`Mailbox.tags_run`); they have different names, and numbers that follow one another, which is why a
tag that has been found by its name once is found by it ever after.

* `Mailbox.hasTag`, `Mailbox.newTag` — when a tag is created under a name, and which one;
* `Mailbox.coined` — the tags that a history creates;
* `TagId.pieces_renderAll` — the numbers of tags are the pieces of the text that lists them.
-/

namespace Postroom

namespace Mailbox

variable {m next : Mailbox} {name : Text}

/-- The mailbox has a tag of the name, up to case. -/
def hasTag (m : Mailbox) (name : Text) : Bool :=
  m.tags.any fun t => Text.sameName t.name name

/-- The tag is the one that a name stands for, up to case. -/
def IsTagOf (m : Mailbox) (name : Text) (t : Tag) : Prop :=
  ∀ t', t' ∈ m.tags ∧ Text.sameName t'.name name = true ↔ t' = t

/-- The tag that is created under a name. -/
def newTag (m : Mailbox) (name : Text) : Tag :=
  ⟨firstTag + UInt32.ofNat m.tags.length, name⟩

/-- No two tags have the same name up to case. -/
def DistinctTags (m : Mailbox) : Prop :=
  m.tags.Pairwise fun t t' => Text.sameName t.name t'.name = false

theorem hasTag_eq_false_iff :
    m.hasTag name = false ↔ ∀ t ∈ m.tags, Text.sameName t.name name = false := by
  simp [hasTag]

/-! ## One creation -/

theorem createTag_of_hasTag (h : m.hasTag name = true) :
    m.createTag name = .error (.tagExists name) :=
  if_pos h

theorem createTag_of_not_hasTag (h : m.hasTag name = false) :
    m.createTag name = .ok (m.newTag name, { m with tags := m.tags ++ [m.newTag name] }) :=
  if_neg (Bool.eq_false_iff.1 h)

/-- A creation fails exactly when the name is taken. -/
theorem createTag_error_iff :
    (∃ e, m.createTag name = .error e) ↔ ∃ t ∈ m.tags, Text.sameName t.name name = true := by
  rw [← List.any_eq_true]
  constructor
  · rintro ⟨e, he⟩
    by_contra hno
    rw [createTag_of_not_hasTag (Bool.eq_false_iff.2 hno)] at he
    cases he
  · exact fun h => ⟨_, createTag_of_hasTag h⟩

theorem createTag_error {e : CreateError} (h : m.createTag name = .error e) :
    e = .tagExists name := by
  obtain ⟨t, ht, hname⟩ := createTag_error_iff.1 ⟨e, h⟩
  rw [createTag_of_hasTag (List.any_eq_true.2 ⟨t, ht, hname⟩)] at h
  exact (Except.error.inj h).symm

/-! ## Look-ups -/

theorem DistinctTags.isTagOf (h : m.DistinctTags) {t : Tag} (ht : t ∈ m.tags)
    (hname : Text.sameName t.name name = true) : m.IsTagOf name t := by
  intro t'
  constructor
  · rintro ⟨ht', hname'⟩
    have hfind := find?_of_distinct h ht hname
    have hfind' := find?_of_distinct h ht' hname'
    exact Option.some_inj.1 (hfind'.symm.trans hfind)
  · rintro rfl
    exact ⟨ht, hname⟩

theorem tagByName_of_not_hasTag (h : m.hasTag name = false) :
    m.tagByName name = .error (.tagUnknown name) := by
  have hnone : (m.tags.find? fun t => Text.sameName t.name name) = none := by
    rw [List.find?_eq_none]
    exact List.any_eq_false.1 h
  rw [tagByName, hnone]

/-- A tag is found by its name. -/
theorem DistinctTags.tagByName_of_mem (h : m.DistinctTags) {t : Tag} (ht : t ∈ m.tags)
    (hname : Text.sameName t.name name = true) : m.tagByName name = .ok t := by
  rw [tagByName, find?_of_distinct h ht hname]

theorem DistinctTags.tagByName_eq_ok_iff (h : m.DistinctTags) {t : Tag} :
    m.tagByName name = .ok t ↔ m.IsTagOf name t := by
  constructor
  · intro hfound
    unfold tagByName at hfound
    split at hfound
    · rename_i t' hfind
      obtain rfl := Except.ok.inj hfound
      exact h.isTagOf (List.mem_of_find?_eq_some hfind) (by simpa using List.find?_some hfind)
    · cases hfound
  · intro htag
    obtain ⟨ht, hname⟩ := (htag t).2 rfl
    exact h.tagByName_of_mem ht hname

/-! ## Histories -/

/-- The tag that an operation creates, if it creates one. -/
def coined? (m : Mailbox) : Operation → Option Tag
  | .createTag name => (m.createTag name).toOption.map (·.1)
  | .createFolder _ | .createMountpoint _ _ _ | .addMessage _ => none

/-- The tags that a history creates, in order. -/
def coined (m : Mailbox) : List Operation → List Tag
  | [] => []
  | o :: ops => (m.coined? o).toList ++ (m.apply o).coined ops

/-- What a request does to the tags: nothing, or it adds one under a name that is free. -/
inductive Naming (m next : Mailbox) : Option Tag → Prop
  | nothing (htags : next.tags = m.tags) : Naming m next none
  | tag (name : Text) (hfree : m.hasTag name = false)
      (htags : next.tags = m.tags ++ [m.newTag name]) : Naming m next (some (m.newTag name))

theorem apply_naming (m : Mailbox) (o : Operation) : Naming m (m.apply o) (m.coined? o) := by
  have hcreate : ∀ path kind, (m.created (m.create path kind)).tags = m.tags := by
    intro path kind
    by_cases hroom : m.HasRoom path
    · rw [create_of_hasRoom hroom]
      rfl
    · obtain ⟨e, he⟩ := create_of_not_hasRoom hroom kind
      rw [he]
      rfl
  cases o with
  | createFolder path => exact .nothing (hcreate path .own)
  | createMountpoint path owner remoteId =>
    exact .nothing (hcreate path (.mounted ⟨owner, remoteId⟩))
  | addMessage f => exact .nothing (sameSetup_addMessage m f).tags
  | createTag name =>
    show Naming m (m.created (m.createTag name)) ((m.createTag name).toOption.map (·.1))
    cases hhas : m.hasTag name with
    | true =>
      rw [createTag_of_hasTag hhas]
      exact .nothing rfl
    | false =>
      rw [createTag_of_not_hasTag hhas]
      exact .tag name hhas rfl

/-- A request as an addition to the tags, for case analysis. -/
theorem exists_naming (m : Mailbox) (o : Operation) :
    ∃ next t, m.apply o = next ∧ m.coined? o = t ∧ Naming m next t :=
  ⟨_, _, rfl, rfl, apply_naming m o⟩

theorem Naming.tags {t : Option Tag} (h : Naming m next t) : next.tags = m.tags ++ t.toList := by
  cases h with
  | nothing htags => rw [htags, Option.toList_none, List.append_nil]
  | tag name hfree htags => exact htags

/-- The tags of a mailbox are those it had and those that were created since. -/
theorem tags_run (m : Mailbox) (ops : List Operation) :
    (m.run ops).tags = m.tags ++ m.coined ops := by
  induction ops generalizing m with
  | nil => exact (List.append_nil _).symm
  | cons o ops ih => rw [run_cons, ih, (apply_naming m o).tags, coined, List.append_assoc]

theorem Naming.distinctTags {t : Option Tag} (h : Naming m next t) (hm : m.DistinctTags) :
    next.DistinctTags := by
  unfold DistinctTags at hm ⊢
  cases h with
  | nothing htags => rwa [htags]
  | tag name hfree htags =>
    rw [htags]
    refine List.pairwise_append.2 ⟨hm, List.pairwise_singleton _ _, fun t ht t' ht' => ?_⟩
    obtain rfl := List.mem_singleton.1 ht'
    exact hasTag_eq_false_iff.1 hfree t ht

theorem DistinctTags.run (hm : m.DistinctTags) (ops : List Operation) :
    (m.run ops).DistinctTags := by
  induction ops generalizing m with
  | nil => exact hm
  | cons o ops ih => exact ih ((apply_naming m o).distinctTags hm)

theorem distinctTags_new (account : Text) (token : Option AuthToken) :
    (new account token).DistinctTags :=
  List.Pairwise.nil

theorem Reachable.distinctTags (h : m.Reachable) : m.DistinctTags := by
  induction h with
  | new account token => exact distinctTags_new account token
  | @apply m h o hnext ih => exact (apply_naming m o).distinctTags ih

/-- A tag is found by its name, and it is the only one. -/
theorem Reachable.tagByName_of_hasTag (hm : m.Reachable) (h : m.hasTag name = true) :
    ∃ t, m.tagByName name = .ok t ∧ m.IsTagOf name t := by
  obtain ⟨t, ht, hname⟩ := List.any_eq_true.1 h
  exact ⟨t, hm.distinctTags.tagByName_of_mem ht hname, hm.distinctTags.isTagOf ht hname⟩

/-- The number of a new tag, as long as the numbers do not run out. -/
theorem toNat_newTag (name : Text) (h : 64 + m.tags.length < 2 ^ 32) :
    (m.newTag name).id.toNat = 64 + m.tags.length := by
  show (firstTag + UInt32.ofNat m.tags.length).toNat = _
  rw [UInt32.toNat_add, UInt32.toNat_ofNat']
  simp only [firstTag, UInt32.reduceToNat]
  omega

/-- The tags that a history creates get numbers that follow one another. -/
theorem ids_coined {ops : List Operation}
    (h : 64 + m.tags.length + (m.coined ops).length ≤ 2 ^ 32) :
    (m.coined ops).map (·.id.toNat) =
      List.range' (64 + m.tags.length) (m.coined ops).length := by
  induction ops generalizing m with
  | nil => rfl
  | cons o ops ih =>
    rw [coined] at h ⊢
    obtain ⟨next, t, hnext, hcoined, hnaming⟩ := exists_naming m o
    have htags := congrArg List.length hnaming.tags
    rw [List.length_append] at htags
    rw [hnext, hcoined, List.length_append] at h ⊢
    have hids := ih (m := next) (by omega)
    rw [List.map_append, hids, htags, ← Nat.add_assoc, ← List.range'_append_1]
    cases hnaming with
    | nothing => rfl
    | tag name hfree htags =>
      rw [Option.toList_some, List.length_singleton] at h
      rw [Option.toList_some, List.map_singleton, List.length_singleton, List.range'_one,
        toNat_newTag name (by omega)]

theorem coined_append (m : Mailbox) (ops later : List Operation) :
    m.coined (ops ++ later) = m.coined ops ++ (m.run ops).coined later := by
  induction ops generalizing m with
  | nil => rfl
  | cons o ops ih => rw [List.cons_append, coined, coined, ih, run_cons, List.append_assoc]

theorem tags_run_new (account : Text) (token : Option AuthToken) (ops : List Operation) :
    ((new account token).run ops).tags = (new account token).coined ops :=
  tags_run _ ops

/-- A creation that succeeds gives the new tag, which is the next one that the history creates. -/
theorem of_createTag_eq_ok {t : Tag} (h : m.createTag name = .ok (t, next)) :
    t = m.newTag name ∧ m.apply (.createTag name) = next ∧
      m.coined? (.createTag name) = some t := by
  have hfree : m.hasTag name = false := by
    by_contra hhas
    rw [createTag_of_hasTag (Bool.not_eq_false _ ▸ hhas)] at h
    cases h
  have hnew : m.newTag name = t := by
    rw [createTag_of_not_hasTag hfree] at h
    exact (Prod.mk.inj (Except.ok.inj h)).1
  refine ⟨hnew.symm, ?_, ?_⟩
  · show m.created (m.createTag name) = next
    rw [h]
    rfl
  · show (m.createTag name).toOption.map (·.1) = some t
    rw [h]
    rfl

/-- What a creation has added is there, in its place, whatever comes later. -/
theorem coined_prefix {before later : List Operation} {t : Tag}
    (h : (m.run before).createTag name = .ok (t, next)) :
    m.coined before ++ [t] <+: m.coined (before ++ .createTag name :: later) := by
  obtain ⟨-, hnext, hcoined⟩ := of_createTag_eq_ok h
  rw [coined_append, coined, hcoined, hnext, Option.toList_some, ← List.append_assoc]
  exact List.prefix_append _ _

/-- **Tags keep their names and numbers.**  After any history of a new mailbox, a creation fails
exactly when a tag has the name up to case, and then it changes nothing.  The tags are those that
have been created, in order; their numbers are 64 and those that follow it, until the numbers run
out, and so no two tags have the same number or the same name up to case.  A look-up finds the one
tag that has the name up to case, and reports an unknown tag when there is none.  A tag that has
been created at some point, after `n` others, has the number `64 + n` and the name as it was given,
and any spelling of this name finds it ever after. -/
theorem tags_stay_unambiguous (account : Text) (token : Option AuthToken) (ops : List Operation) :
    let empty := new account token
    let m := empty.run ops
    (∀ name, ((∃ e, m.createTag name = .error e) ↔
          ∃ t ∈ m.tags, Text.sameName t.name name = true) ∧
        ∀ e, m.createTag name = .error e →
          e = .tagExists name ∧ m.apply (.createTag name) = m) ∧
      m.tags = empty.coined ops ∧
      (m.tags.length ≤ 2 ^ 32 - 64 →
        m.tags.map (·.id.toNat) = List.range' 64 m.tags.length ∧ (m.tags.map (·.id)).Nodup) ∧
      (m.tags.Pairwise fun t t' => Text.sameName t.name t'.name = false) ∧
      (∀ name, (∀ t, m.tagByName name = .ok t ↔ m.IsTagOf name t) ∧
        ((∀ t ∈ m.tags, Text.sameName t.name name = false) →
          m.tagByName name = .error (.tagUnknown name))) ∧
      ∀ before name later t next, ops = before ++ .createTag name :: later →
        (empty.run before).createTag name = .ok (t, next) →
          t.name = name ∧
          ((empty.coined before).length < 2 ^ 32 - 64 →
            t.id.toNat = 64 + (empty.coined before).length) ∧
          empty.coined before ++ [t] <+: m.tags ∧
          ∀ asked, Text.sameName name asked = true → m.tagByName asked = .ok t := by
  intro empty m
  have htags : ∀ ops, (empty.run ops).tags = empty.coined ops := tags_run_new account token
  have hdistinct : m.DistinctTags := (distinctTags_new account token).run ops
  refine ⟨fun name => ⟨createTag_error_iff, ?_⟩, htags ops, ?_, hdistinct,
    fun name => ⟨fun t => hdistinct.tagByName_eq_ok_iff, ?_⟩, ?_⟩
  · intro e he
    refine ⟨createTag_error he, ?_⟩
    show m.created (m.createTag name) = m
    rw [he]
    rfl
  · intro hlen
    have hids : m.tags.map (·.id.toNat) = List.range' 64 m.tags.length := by
      rw [htags ops] at hlen ⊢
      exact ids_coined (show 64 + 0 + _ ≤ 2 ^ 32 by omega)
    have hnumbers : ((m.tags.map (·.id)).map UInt32.toNat).Nodup := by
      rw [List.map_map]
      exact hids ▸ List.nodup_range'
    exact ⟨hids, hnumbers.of_map _⟩
  · exact fun hnone => tagByName_of_not_hasTag (hasTag_eq_false_iff.2 hnone)
  · intro before name later t next hops hcreate
    have hthere : empty.coined before ++ [t] <+: m.tags := by
      rw [htags ops, hops]
      exact coined_prefix hcreate
    obtain ⟨rfl, -, -⟩ := of_createTag_eq_ok hcreate
    refine ⟨rfl, ?_, hthere, fun asked hasked => ?_⟩
    · rw [← htags before]
      exact fun hlen => toNat_newTag name (by omega)
    · exact hdistinct.tagByName_of_mem (hthere.subset (by simp)) hasked

/-- Letters beyond the ASCII ones are different names in either case, and the first `Work` of this
history is found by any spelling after all of it. -/
theorem tags_stay_unambiguous_respelled :
    let name : Text := "Work".toList
    let ops : List Operation := [.createTag name, .createTag "WORK".toList,
      .createFolder "/Work".toList, .createTag "Äpfel".toList, .createTag "äpfel".toList,
      .createTag "äPFEL".toList]
    let m := (new "bob".toList none).run ops
    m.tags = [⟨64, name⟩, ⟨65, "Äpfel".toList⟩, ⟨66, "äpfel".toList⟩] ∧
      m.tags.map (·.id.toNat) = List.range' 64 m.tags.length ∧
      m.tagByName "wORK".toList = .ok ⟨64, name⟩ ∧
      m.tagByName "ÄpfEL".toList = .ok ⟨65, "Äpfel".toList⟩ ∧
      m.tagByName "work ".toList = .error (.tagUnknown "work ".toList) := by
  intro name ops m
  have htags : m.tags = [⟨64, name⟩, ⟨65, "Äpfel".toList⟩, ⟨66, "äpfel".toList⟩] := by
    decide +kernel
  obtain ⟨-, -, hids, -, hfind, hcreated⟩ := tags_stay_unambiguous "bob".toList none ops
  obtain ⟨-, -, -, hwork⟩ := hcreated [] name _ ⟨64, name⟩ _ rfl rfl
  obtain ⟨-, -, -, happles⟩ := hcreated (ops.take 3) "Äpfel".toList _ ⟨65, "Äpfel".toList⟩ _ rfl rfl
  exact ⟨htags, (hids (by rw [htags]; decide)).1, hwork _ (by decide), happles _ (by decide),
    (hfind _).2 (by rw [htags]; decide)⟩

end Mailbox

/-! ## The list that is kept with a message -/

namespace TagId

/-- The numeral of a tag. -/
abbrev render (id : TagId) : Text :=
  Text.ofNat id.toNat

theorem render_injective : Function.Injective render :=
  fun _ _ h => UInt32.toNat_inj.1 (Text.ofNat_injective h)

/-- A numeral holds no comma. -/
theorem not_comma_of_mem_render {id : TagId} {c : Char} (h : c ∈ render id) :
    (c == ',') = false := by
  rw [beq_eq_false_iff_ne]
  rintro rfl
  cases Text.isDigit_of_mem_ofNat h

/-- The numerals are read off the list at its commas; of no tags, there is one empty piece. -/
theorem pieces_renderAll (ids : List TagId) :
    Text.pieces (· == ',') (renderAll ids) = if ids.isEmpty then [[]] else ids.map render := by
  cases ids with
  | nil => rfl
  | cons id ids =>
    refine Text.pieces_join (List.cons_ne_nil _ _) ?_
    exact List.forall_mem_map.2 fun id _ c hc => not_comma_of_mem_render hc

theorem renderAll_eq_nil_iff {ids : List TagId} : renderAll ids = [] ↔ ids = [] := by
  constructor
  · intro hnil
    have hpieces := pieces_renderAll ids
    rw [hnil] at hpieces
    cases ids with
    | nil => rfl
    | cons id ids =>
      -- the only piece of an empty text is empty, and no numeral is
      obtain ⟨hid, -⟩ := List.cons.inj hpieces
      exact absurd hid.symm (Text.ofNat_ne_nil _)
  · rintro rfl
    rfl

theorem renderAll_injective : Function.Injective renderAll := by
  intro ids ids' h
  by_cases hids : ids = []
  · rw [hids] at h ⊢
    exact (renderAll_eq_nil_iff.1 h.symm).symm
  · have hids' : ids' ≠ [] := fun hnil => hids (renderAll_eq_nil_iff.1 (by rw [h, hnil]; rfl))
    have hpieces := congrArg (Text.pieces (· == ',')) h
    rw [pieces_renderAll, pieces_renderAll, if_neg (by simpa using hids),
      if_neg (by simpa using hids')] at hpieces
    exact List.map_injective_iff.2 render_injective hpieces

/-- **A list of tags is kept without loss.**  Two lists have the same text only if they are the same
list, with the same numbers in the same order and as often, and only the empty list has an empty
text. -/
theorem renderAll_unambiguous :
    (∀ ids ids' : List TagId, renderAll ids = renderAll ids' ↔ ids = ids') ∧
      ∀ ids : List TagId, renderAll ids = [] ↔ ids = [] :=
  ⟨fun _ _ => renderAll_injective.eq_iff, fun _ => renderAll_eq_nil_iff⟩

end TagId

end Postroom
