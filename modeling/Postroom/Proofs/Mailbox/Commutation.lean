import Postroom.Proofs.Mailbox.Agreement
import Mathlib.Data.List.Perm.Basic

/-!
# Histories in either order

Two histories of filings that have no copy in common do not get in each other's way: each of them
files the same after the other one as alone, and in either order they leave mailboxes that no later
request can tell apart.
-/

namespace Postroom

/-- What a filing puts into a mailbox: the folder, the flags, the tags and the octets. -/
def Filing.content (f : Filing) : FolderId × Bitmask × List TagId × Octets :=
  (f.folder, f.flags, f.tags, f.message.raw)

namespace Mailbox

variable {m m' : Mailbox} {K L : Filing → Prop} {ops ops' : List Operation}

/-- The messages of a mailbox in order, apart from their numbers. -/
def contents (m : Mailbox) : List (FolderId × Bitmask × List TagId × Octets) :=
  m.messages.map fun e => (e.1.folder, e.1.flags, e.1.tags, e.2)

/-- The filings of a history that put a copy into the mailbox, in order. -/
def taken (m : Mailbox) (ops : List Operation) : List Filing :=
  (m.accepted ops).map (·.1)

/-- The history consists of certain filings. -/
def OnlyFiles (K : Filing → Prop) (ops : List Operation) : Prop :=
  ∀ o ∈ ops, ∃ f, o = .addMessage f ∧ K f

theorem SameCopy.symm {f g : Filing} (h : SameCopy f g) : SameCopy g f :=
  sameCopy_iff.2 ((sameCopy_iff.1 h).imp fun _ hkey => hkey.symm)

theorem contents_run (m : Mailbox) (ops : List Operation) :
    (m.run ops).contents = m.contents ++ (m.taken ops).map Filing.content := by
  induction ops generalizing m with
  | nil => simp [taken, accepted]
  | cons o ops ih =>
    rw [run_cons, ih, taken, taken, accepted, List.map_append, List.map_append]
    obtain ⟨next, c, hm, hc, hchange⟩ := exists_change m o
    rw [hm, hc]
    cases hchange with
    | nothing | folder | tag => simp [contents]
    | copy f => simp [contents, append, Filing.content]

theorem knows_run_iff_taken {f : Filing} :
    (m.run ops).Knows f ↔ m.Knows f ∨ ∃ g ∈ m.taken ops, SameCopy g f := by
  simp only [Knows, delivered_run, taken, sameCopy_iff, List.mem_append, List.mem_filterMap,
    List.mem_map, or_and_right, exists_or]
  refine or_congr Iff.rfl ⟨?_, ?_⟩
  · rintro ⟨key, ⟨e, he, hek⟩, hf⟩
    exact ⟨e.1, ⟨e, he, rfl⟩, key, hek, hf⟩
  · rintro ⟨-, ⟨e, he, rfl⟩, key, hek, hf⟩
    exact ⟨key, ⟨e, he, hek⟩, hf⟩

/-- Mailboxes that agree on the filings of a history take the same ones of them. -/
theorem AgreesOn.taken (h : m.AgreesOn K m') (hops : OnlyFiles K ops) :
    m'.taken ops = m.taken ops := by
  induction ops generalizing m m' with
  | nil => rfl
  | cons o ops ih =>
    obtain ⟨⟨f, rfl, hf⟩, hlater⟩ := List.forall_mem_cons.1 hops
    obtain ⟨hanswer, hnext⟩ := h.addMessage hf
    have hrest : (m'.addMessage f).2.taken ops = (m.addMessage f).2.taken ops := ih hnext hlater
    have hfirst : (m'.copy? (.addMessage f)).toList.map (·.1) =
        (m.copy? (.addMessage f)).toList.map (·.1) := by
      simp only [copy?]
      rcases hanswer.cases with ⟨e, h, h'⟩ | ⟨h, h'⟩ | ⟨copy, copy', h, h'⟩
      all_goals simp [h, h']
    show ((m'.copy? (.addMessage f)).toList ++ (m'.addMessage f).2.accepted ops).map (·.1) =
      ((m.copy? (.addMessage f)).toList ++ (m.addMessage f).2.accepted ops).map (·.1)
    rw [List.map_append, List.map_append, hfirst]
    exact congrArg (_ ++ ·) hrest

/-- A history without a copy in common with certain filings leaves a mailbox in agreement on them
with what it was. -/
theorem OnlyFiles.agreesOn (h : OnlyFiles K ops) (hKL : ∀ f g, K f → L g → ¬ SameCopy f g)
    (m : Mailbox) : m.AgreesOn L (m.run ops) := by
  refine agreesOn_run fun o ho => ?_
  obtain ⟨f, rfl, hf⟩ := h o ho
  exact ⟨f, rfl, fun g hg => hKL f g hf hg⟩

theorem OnlyFiles.sameSetup (h : OnlyFiles K ops) (m : Mailbox) : m.SameSetup (m.run ops) :=
  (h.agreesOn (L := fun _ => False) (fun _ _ _ => False.elim) m).toSameSetup

/-- **Histories without a copy in common can be exchanged.**  They leave the same messages, maybe in
another order, and mailboxes that no later request can tell apart. -/
theorem run_exchange (hops : OnlyFiles K ops) (hops' : OnlyFiles L ops')
    (hKL : ∀ f g, K f → L g → ¬ SameCopy f g) (m : Mailbox) :
    ((m.run ops).run ops').contents.Perm ((m.run ops').run ops).contents ∧
      ((m.run ops).run ops').Interchangeable ((m.run ops').run ops) := by
  have hLK : ∀ g f, L g → K f → ¬ SameCopy g f := fun g f hg hf hsame => hKL f g hf hg hsame.symm
  -- neither history changes what the other one does
  have htaken' : (m.run ops).taken ops' = m.taken ops' := (hops.agreesOn hKL m).taken hops'
  have htaken : (m.run ops').taken ops = m.taken ops := (hops'.agreesOn hLK m).taken hops
  have hcontents : ((m.run ops).run ops').contents.Perm ((m.run ops').run ops).contents := by
    rw [contents_run, contents_run, contents_run, contents_run, htaken, htaken',
      List.append_assoc, List.append_assoc]
    exact List.perm_append_comm.append_left _
  have hsetup := ((hops.sameSetup m).trans (hops'.sameSetup _)).symm.trans
    ((hops'.sameSetup m).trans (hops.sameSetup _))
  refine ⟨hcontents, ⟨hsetup, ?_⟩, ?_⟩
  · intro f _
    rw [knows_run_iff_taken, knows_run_iff_taken, knows_run_iff_taken, knows_run_iff_taken,
      htaken, htaken', or_right_comm]
  · simpa [contents] using hcontents.length_eq.symm

end Mailbox

end Postroom
