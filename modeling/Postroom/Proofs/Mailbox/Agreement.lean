import Postroom.Proofs.Mailbox.Folders

/-!
# Mailboxes that answer alike

What a mailbox answers to a filing depends on its setup (folders, tags, flags and the token), on
whether it knows the copy, and for the number of the copy on how many messages it has.  Mailboxes
that agree on this answer alike, and go on to agree.

* `Mailbox.SameSetup` — mailboxes that differ at most in what has been filed;
* `Mailbox.AgreesOn` — those that also know the same ones of certain filings;
* `Mailbox.Interchangeable` — those that no later request can tell apart.
-/

namespace Postroom

/-- A copy apart from its number. -/
def StoredMessage.unnumbered (copy : StoredMessage) : StoredMessage :=
  { copy with id := 0 }

/-- Two answers to a filing are the same apart from the number of the copy. -/
def SameAnswer (answer answer' : Except StoreError (Option StoredMessage)) : Prop :=
  answer'.map (Option.map StoredMessage.unnumbered) = answer.map (Option.map StoredMessage.unnumbered)

/-- Both refuse with the same error, both know the copy already, or both give one. -/
theorem SameAnswer.cases {answer answer' : Except StoreError (Option StoredMessage)}
    (h : SameAnswer answer answer') :
    (∃ e, answer = .error e ∧ answer' = .error e) ∨ (answer = .ok none ∧ answer' = .ok none) ∨
      ∃ copy copy', answer = .ok (some copy) ∧ answer' = .ok (some copy') := by
  rcases answer with e | (_ | copy) <;> rcases answer' with e' | (_ | copy')
  case error.error =>
    cases h
    exact Or.inl ⟨e, rfl, rfl⟩
  case ok.none.ok.none => exact Or.inr (Or.inl ⟨rfl, rfl⟩)
  case ok.some.ok.some => exact Or.inr (Or.inr ⟨copy, copy', rfl, rfl⟩)
  all_goals cases h

namespace Mailbox

/-- The mailboxes differ at most in what has been filed. -/
structure SameSetup (m m' : Mailbox) : Prop where
  account : m'.account = m.account
  token : m'.token = m.token
  folders : m'.folders = m.folders
  nextFolder : m'.nextFolder = m.nextFolder
  tags : m'.tags = m.tags
  flags : m'.flags = m.flags

/-- The mailboxes have the same setup and know the same ones of certain filings. -/
structure AgreesOn (K : Filing → Prop) (m m' : Mailbox) : Prop extends SameSetup m m' where
  knows : ∀ f, K f → (m'.Knows f ↔ m.Knows f)

/-- The mailboxes have the same setup, know the same filings and have as many messages. -/
structure Interchangeable (m m' : Mailbox) : Prop extends AgreesOn (fun _ => True) m m' where
  length : m'.messages.length = m.messages.length

variable {K : Filing → Prop} {m m' m'' : Mailbox}

/-! ## The setup -/

theorem SameSetup.refl (m : Mailbox) : m.SameSetup m :=
  ⟨rfl, rfl, rfl, rfl, rfl, rfl⟩

theorem SameSetup.symm (h : m.SameSetup m') : m'.SameSetup m :=
  ⟨h.account.symm, h.token.symm, h.folders.symm, h.nextFolder.symm, h.tags.symm, h.flags.symm⟩

theorem SameSetup.trans (h : m.SameSetup m') (h' : m'.SameSetup m'') : m.SameSetup m'' :=
  ⟨h'.account.trans h.account, h'.token.trans h.token, h'.folders.trans h.folders,
    h'.nextFolder.trans h.nextFolder, h'.tags.trans h.tags, h'.flags.trans h.flags⟩

theorem SameSetup.authToken (h : m.SameSetup m') : m'.authToken = m.authToken := by
  simp only [Mailbox.authToken, h.token, h.account]

theorem SameSetup.tagByName (h : m.SameSetup m') (name : Text) :
    m'.tagByName name = m.tagByName name := by
  simp only [Mailbox.tagByName, h.tags]

theorem SameSetup.flagById (h : m.SameSetup m') (id : FlagId) :
    m'.flagById id = m.flagById id := by
  simp only [Mailbox.flagById, h.flags]

/-- A filing leaves the setup alone. -/
theorem sameSetup_addMessage (m : Mailbox) (f : Filing) : m.SameSetup (m.addMessage f).2 := by
  by_cases ht : m.Takes f.folder
  · by_cases hk : m.Knows f
    · rw [addMessage_of_knows ht hk]
      exact .refl m
    · rw [addMessage_of_not_knows ht hk]
      exact ⟨rfl, rfl, rfl, rfl, rfl, rfl⟩
  · obtain ⟨e, he⟩ := addMessage_of_not_takes ht
    rw [he]
    exact .refl m

/-! ## Filings -/

/-- A mailbox knows a filing after it has accepted one when it did before, or when both ask for the
same copy. -/
theorem knows_append_iff {f g : Filing} :
    (m.append f).2.Knows g ↔ m.Knows g ∨ SameCopy f g := by
  simp only [Knows, append, List.mem_append, Option.mem_toList, or_and_right, exists_or,
    sameCopy_iff]

theorem knows_addMessage_iff {f g : Filing} (hf : ¬ SameCopy f g) :
    (m.addMessage f).2.Knows g ↔ m.Knows g := by
  by_cases ht : m.Takes f.folder
  · by_cases hk : m.Knows f
    · rw [addMessage_of_knows ht hk]
    · rw [addMessage_of_not_knows ht hk, knows_append_iff]
      exact or_iff_left hf
  · obtain ⟨e, he⟩ := addMessage_of_not_takes ht
    rw [he]

theorem SameSetup.refusal (h : m.SameSetup m') {f : Filing} (ht : ¬ m.Takes f.folder) :
    ∃ e, m.addMessage f = (.error e, m) ∧ m'.addMessage f = (.error e, m') := by
  unfold addMessage
  simp only [folder?, h.folders]
  cases hfolder : m.folders.find? (·.id == f.folder) with
  | none => exact ⟨_, rfl, rfl⟩
  | some folder =>
    have hmount : folder.isMountpoint = true := by
      by_contra hne
      exact ht ⟨folder, hfolder, by simpa using hne⟩
    simp only [hmount, if_true]
    exact ⟨_, rfl, rfl⟩

/-- **Agreeing mailboxes answer alike.**  To a filing that they agree on, their answers are the same
apart from the number of the copy, and they still agree afterwards. -/
theorem AgreesOn.addMessage (h : m.AgreesOn K m') {f : Filing} (hf : K f) :
    SameAnswer (m.addMessage f).1 (m'.addMessage f).1 ∧
      (m.addMessage f).2.AgreesOn K (m'.addMessage f).2 := by
  have hsetup := ((sameSetup_addMessage m f).symm.trans h.toSameSetup).trans
    (sameSetup_addMessage m' f)
  by_cases ht : m.Takes f.folder
  · have ht' : m'.Takes f.folder := ht.congr h.folders
    by_cases hk : m.Knows f
    · have hk' : m'.Knows f := (h.knows f hf).2 hk
      rw [addMessage_of_knows ht hk, addMessage_of_knows ht' hk']
      exact ⟨rfl, h⟩
    · have hk' : ¬ m'.Knows f := mt (h.knows f hf).1 hk
      refine ⟨?_, hsetup, ?_⟩
      · rw [addMessage_of_not_knows ht hk, addMessage_of_not_knows ht' hk']
        rfl
      · intro g hg
        rw [addMessage_of_not_knows ht hk, addMessage_of_not_knows ht' hk', knows_append_iff,
          knows_append_iff, h.knows g hg]
  · obtain ⟨e, he, he'⟩ := h.toSameSetup.refusal ht
    rw [he, he']
    exact ⟨rfl, h⟩

theorem AgreesOn.refl (K : Filing → Prop) (m : Mailbox) : m.AgreesOn K m :=
  ⟨.refl m, fun _ _ => Iff.rfl⟩

/-- Filings of other copies leave a mailbox in agreement with what it was. -/
theorem agreesOn_run {ops : List Operation}
    (h : ∀ o ∈ ops, ∃ g, o = .addMessage g ∧ ∀ f, K f → ¬ SameCopy g f) :
    m.AgreesOn K (m.run ops) := by
  induction ops generalizing m with
  | nil => exact .refl K m
  | cons o ops ih =>
    obtain ⟨⟨g, rfl, hg⟩, hops⟩ := List.forall_mem_cons.1 h
    have hlater : (m.addMessage g).2.AgreesOn K ((m.addMessage g).2.run ops) := ih hops
    refine ⟨(sameSetup_addMessage m g).trans hlater.toSameSetup, ?_⟩
    intro f hf
    rw [run_cons, apply, hlater.knows f hf]
    exact knows_addMessage_iff (hg f hf)

/-! ## Whatever comes later -/

/-- Interchangeable mailboxes give the same answer to a filing, with the same number. -/
theorem Interchangeable.addMessage (h : m.Interchangeable m') (f : Filing) :
    (m'.addMessage f).1 = (m.addMessage f).1 ∧
      (m.addMessage f).2.Interchangeable (m'.addMessage f).2 := by
  obtain ⟨-, hagrees⟩ := h.toAgreesOn.addMessage (f := f) trivial
  by_cases ht : m.Takes f.folder
  · have ht' : m'.Takes f.folder := ht.congr h.folders
    by_cases hk : m.Knows f
    · have hk' : m'.Knows f := (h.knows f trivial).2 hk
      rw [addMessage_of_knows ht hk, addMessage_of_knows ht' hk']
      exact ⟨rfl, h⟩
    · have hk' : ¬ m'.Knows f := mt (h.knows f trivial).1 hk
      rw [addMessage_of_not_knows ht hk, addMessage_of_not_knows ht' hk'] at hagrees ⊢
      refine ⟨by simp only [append, h.length], hagrees, ?_⟩
      simp only [append, List.length_append, h.length]
  · obtain ⟨e, he, he'⟩ := h.toSameSetup.refusal ht
    rw [he, he']
    exact ⟨rfl, h⟩

theorem Interchangeable.created (h : m.Interchangeable m') (path : Text) (kind : FolderKind) :
    (m.created (m.create path kind)).Interchangeable (m'.created (m'.create path kind)) := by
  -- whether a folder is added, and which one, is decided by the folders there are
  unfold create
  simp only [folderAt?, h.folders, h.nextFolder]
  split
  · exact h
  · split
    · exact h
    · split
      · exact h
      · split
        · exact h
        · exact ⟨⟨⟨h.account, h.token, rfl, rfl, h.tags, h.flags⟩, h.knows⟩, h.length⟩

theorem Interchangeable.createdTag (h : m.Interchangeable m') (name : Text) :
    (m.created (m.createTag name)).Interchangeable (m'.created (m'.createTag name)) := by
  unfold createTag
  simp only [h.tags]
  split
  · exact h
  · exact ⟨⟨⟨h.account, h.token, h.folders, h.nextFolder, rfl, h.flags⟩, h.knows⟩, h.length⟩

theorem Interchangeable.apply (h : m.Interchangeable m') (o : Operation) :
    (m.apply o).Interchangeable (m'.apply o) := by
  cases o with
  | createFolder path => exact h.created path .own
  | createMountpoint path owner remoteId => exact h.created path (.mounted ⟨owner, remoteId⟩)
  | createTag name => exact h.createdTag name
  | addMessage f => exact (h.addMessage f).2

/-- Interchangeable mailboxes stay so, whatever comes. -/
theorem Interchangeable.run (h : m.Interchangeable m') (ops : List Operation) :
    (m.run ops).Interchangeable (m'.run ops) := by
  induction ops generalizing m m' with
  | nil => exact h
  | cons o ops ih => exact ih (h.apply o)

end Mailbox

end Postroom
