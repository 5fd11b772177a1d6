import Postroom.Mailbox.Memory
import Mathlib.Algebra.Order.Ring.Nat

/-!
# Histories of a mailbox

A mailbox answers the requests of any number of deliveries, one at a time and in whatever order
they arrive.  `Mailbox.run` carries out such a history, and `Mailbox.accepted` lists the filings of
a history that were answered with a copy.  `Mailbox.apply_change` says once what an operation can
do; everything about whole histories is derived from it.
-/

namespace Postroom.Mailbox

/-- A request that may change a mailbox. -/
inductive Operation where
  | createFolder (path : Text)
  | createMountpoint (path owner : Text) (remoteId : FolderId)
  | createTag (name : Text)
  | addMessage (f : Filing)

/-- The mailbox after an attempt to create something; a failed attempt leaves it alone. -/
def created {α : Type} (m : Mailbox) : Except CreateError (α × Mailbox) → Mailbox
  | .ok (_, next) => next
  | .error _ => m

/-- The mailbox after an operation. -/
def apply (m : Mailbox) : Operation → Mailbox
  | .createFolder path => m.created (m.createFolder path)
  | .createMountpoint path owner remoteId => m.created (m.createMountpoint path owner remoteId)
  | .createTag name => m.created (m.createTag name)
  | .addMessage f => (m.addMessage f).2

/-- The mailbox after a history. -/
def run (m : Mailbox) (ops : List Operation) : Mailbox :=
  ops.foldl apply m

/-- The copy with which an operation is answered, and the filing that asked for it. -/
def copy? (m : Mailbox) : Operation → Option (Filing × StoredMessage)
  | .addMessage f =>
    match (m.addMessage f).1 with
    | .ok (some copy) => some (f, copy)
    | _ => none
  | _ => none

/-- The filings of a history that were answered with a copy, in order. -/
def accepted (m : Mailbox) : List Operation → List (Filing × StoredMessage)
  | [] => []
  | o :: ops => (m.copy? o).toList ++ (m.apply o).accepted ops

/-- The folder exists and is no mountpoint. -/
def Takes (m : Mailbox) (id : FolderId) : Prop :=
  ∃ folder, m.folder? id = some folder ∧ folder.isMountpoint = false

instance (m : Mailbox) (id : FolderId) : Decidable (m.Takes id) :=
  decidable_of_iff ((m.folder? id).any (!·.isMountpoint) = true) (by
    unfold Takes
    cases m.folder? id <;> simp)

/-- The key of a filing is among those of the copies filed so far. -/
def Knows (m : Mailbox) (f : Filing) : Prop :=
  ∃ key ∈ m.delivered, key? f = some key

/-- Two filings ask for the same copy: they share a context, the folder, and the recipient up to
case. -/
def SameCopy (f g : Filing) : Prop :=
  (∃ context, f.context = some context ∧ g.context = some context) ∧ f.folder = g.folder ∧
    Unicode.lowercase f.recipient = Unicode.lowercase g.recipient

@[simp] theorem run_nil (m : Mailbox) : m.run [] = m := rfl

@[simp] theorem run_cons (m : Mailbox) (o : Operation) (ops : List Operation) :
    m.run (o :: ops) = (m.apply o).run ops := rfl

theorem run_append (m : Mailbox) (ops later : List Operation) :
    m.run (ops ++ later) = (m.run ops).run later :=
  List.foldl_append

/-- Two filings ask for the same copy exactly when they have a key, and the same one. -/
theorem sameCopy_iff {f g : Filing} :
    SameCopy f g ↔ ∃ key, key? f = some key ∧ key? g = some key := by
  constructor
  · rintro ⟨⟨context, hf, hg⟩, hfolder, hrecipient⟩
    refine ⟨(context, Unicode.lowercase f.recipient, f.folder), by simp [key?, hf], ?_⟩
    simp [key?, hg, hfolder, hrecipient]
  · rintro ⟨⟨context, recipient, folder⟩, hf, hg⟩
    simp only [key?, Option.map_eq_some_iff, Prod.mk.injEq] at hf hg
    obtain ⟨_, hf, rfl, rfl, rfl⟩ := hf
    obtain ⟨_, hg, rfl, hrecipient, hfolder⟩ := hg
    exact ⟨⟨_, hf, hg⟩, hfolder.symm, hrecipient.symm⟩

instance (f g : Filing) : Decidable (SameCopy f g) :=
  decidable_of_iff (key? f ≠ none ∧ key? f = key? g) (by
    rw [sameCopy_iff]
    cases key? f <;> simp [eq_comm])

theorem any_key_iff {m : Mailbox} {f : Filing} :
    (key? f).any m.delivered.contains = true ↔ m.Knows f := by
  cases hkey : key? f with
  | none => simp [Knows, hkey]
  | some key => simp [Knows, hkey]

/-! ## One operation -/

/-- A folder that does not exist or is a mountpoint takes no message, and the mailbox is left
alone. -/
theorem addMessage_of_not_takes {m : Mailbox} {f : Filing} (h : ¬ m.Takes f.folder) :
    ∃ e, m.addMessage f = (.error e, m) := by
  unfold addMessage
  cases hfolder : m.folder? f.folder with
  | none => exact ⟨_, rfl⟩
  | some folder =>
    have hmount : folder.isMountpoint = true := by
      by_contra hne
      exact h ⟨folder, hfolder, by simpa using hne⟩
    simp only [hmount, if_true]
    exact ⟨_, rfl⟩

/-- A copy that has been filed is not filed again. -/
theorem addMessage_of_knows {m : Mailbox} {f : Filing} (h : m.Takes f.folder) (hk : m.Knows f) :
    m.addMessage f = (.ok none, m) := by
  obtain ⟨folder, hfolder, hmount⟩ := h
  simp [addMessage, hfolder, hmount, any_key_iff.2 hk]

/-- A copy that is new is appended. -/
theorem addMessage_of_not_knows {m : Mailbox} {f : Filing} (h : m.Takes f.folder)
    (hk : ¬ m.Knows f) : m.addMessage f = (.ok (some (m.append f).1), (m.append f).2) := by
  obtain ⟨folder, hfolder, hmount⟩ := h
  have hany : (key? f).any m.delivered.contains = false := by
    simpa using mt any_key_iff.1 hk
  simp [addMessage, hfolder, hmount, hany]

/-- What an operation can do to a mailbox, and the copy it is answered with. -/
inductive Change (m : Mailbox) : Mailbox → Option (Filing × StoredMessage) → Prop
  | nothing : Change m m none
  | folder (f : Folder) : f.id = m.nextFolder →
      Change m { m with folders := m.folders ++ [f], nextFolder := m.nextFolder + 1 } none
  | tag (t : Tag) : Change m { m with tags := m.tags ++ [t] } none
  | copy (f : Filing) : m.Takes f.folder → ¬ m.Knows f →
      Change m (m.append f).2 (some (f, (m.append f).1))

theorem change_create (m : Mailbox) (path : Text) (kind : FolderKind) :
    Change m (m.created (m.create path kind)) none := by
  unfold create
  simp only
  split
  · exact .nothing
  · split
    · exact .nothing
    · split
      · exact .nothing
      · split
        · exact .nothing
        · exact .folder _ rfl

theorem change_createTag (m : Mailbox) (name : Text) :
    Change m (m.created (m.createTag name)) none := by
  unfold createTag
  split
  · exact .nothing
  · exact .tag _

theorem apply_change (m : Mailbox) (o : Operation) : Change m (m.apply o) (m.copy? o) := by
  cases o with
  | createFolder path => exact change_create m path .own
  | createMountpoint path owner remoteId => exact change_create m path (.mounted ⟨owner, remoteId⟩)
  | createTag name => exact change_createTag m name
  | addMessage f =>
    by_cases ht : m.Takes f.folder
    · by_cases hk : m.Knows f
      · simp only [apply, copy?, addMessage_of_knows ht hk]
        exact .nothing
      · simp only [apply, copy?, addMessage_of_not_knows ht hk]
        exact .copy f ht hk
    · obtain ⟨e, he⟩ := addMessage_of_not_takes ht
      simp only [apply, copy?, he]
      exact .nothing

/-- An operation as a change between two mailboxes, for case analysis. -/
theorem exists_change (m : Mailbox) (o : Operation) :
    ∃ next c, m.apply o = next ∧ m.copy? o = c ∧ Change m next c :=
  ⟨_, _, rfl, rfl, apply_change m o⟩

/-! ## Whole histories -/

/-- An accepted filing was asked for, and its copy is in the folder that it named. -/
theorem mem_accepted {m : Mailbox} {ops : List Operation} {e : Filing × StoredMessage}
    (h : e ∈ m.accepted ops) :
    .addMessage e.1 ∈ ops ∧ e.2.folder = e.1.folder := by
  induction ops generalizing m with
  | nil => cases h
  | cons o ops ih =>
    rcases List.mem_append.1 h with h | h
    · obtain ⟨next, c, -, hc, hchange⟩ := exists_change m o
      rw [hc] at h
      cases hchange with
      | nothing | folder | tag => cases h
      | copy f ht hk =>
        obtain rfl := List.mem_singleton.1 h
        cases o with
        | addMessage g =>
          simp only [copy?] at hc
          split at hc
          · cases hc
            exact ⟨List.mem_cons_self, rfl⟩
          · cases hc
        | _ => cases hc
    · obtain ⟨hmem, hfolder⟩ := ih h
      exact ⟨List.mem_cons_of_mem _ hmem, hfolder⟩

/-- The messages of a mailbox are those it had and the copies that were accepted since. -/
theorem messages_run (m : Mailbox) (ops : List Operation) :
    (m.run ops).messages = m.messages ++ (m.accepted ops).map fun e => (e.2, e.1.message.raw) := by
  induction ops generalizing m with
  | nil => simp [accepted]
  | cons o ops ih =>
    rw [run_cons, ih, accepted, List.map_append]
    obtain ⟨next, c, hm, hc, hchange⟩ := exists_change m o
    rw [hm, hc]
    cases hchange with
    | nothing | folder | tag => simp
    | copy f => simp [append]

/-- The keys of a mailbox are those it had and those of the copies that were accepted since. -/
theorem delivered_run (m : Mailbox) (ops : List Operation) :
    (m.run ops).delivered = m.delivered ++ (m.accepted ops).filterMap fun e => key? e.1 := by
  induction ops generalizing m with
  | nil => simp [accepted]
  | cons o ops ih =>
    rw [run_cons, ih, accepted, List.filterMap_append]
    obtain ⟨next, c, hm, hc, hchange⟩ := exists_change m o
    rw [hm, hc]
    cases hchange with
    | nothing | folder | tag => simp
    | copy f =>
      cases hkey : key? f <;> simp [append, hkey]

end Postroom.Mailbox
