import Postroom.Proofs.Mailbox.History
import Mathlib.Data.List.Pairwise

/-!
# Duplicate suppression

Over any history of a mailbox, a filing is answered with a copy exactly once for a context, a
recipient and a folder.  A refused filing leaves no trace, so it does not count as the first one.
Copies are numbered in the order of filing, and what has been filed stays as it is.

The invariant that carries this: the keys of the mailbox are those of the accepted filings
(`delivered_run`), they are pairwise different, and the message at place `n` has number `n + 1`.
-/

namespace Postroom.Mailbox

/-- The messages carry their place in the mailbox as their number. -/
def Numbered (m : Mailbox) : Prop :=
  ∀ n entry, m.messages[n]? = some entry → entry.1.id = UInt32.ofNat n + 1

theorem Numbered.append {m : Mailbox} (h : m.Numbered) (f : Filing) :
    (m.append f).2.Numbered := by
  intro n entry hn
  simp only [Mailbox.append] at hn
  rw [List.getElem?_append] at hn
  split at hn
  · exact h n entry hn
  · rename_i hlen
    obtain ⟨hzero, rfl⟩ := List.getElem?_eq_some_iff.1 hn
    have hplace : n = m.messages.length := by
      simp only [List.length_singleton] at hzero
      omega
    simp [hplace]

theorem Numbered.apply {m : Mailbox} (h : m.Numbered) (o : Operation) : (m.apply o).Numbered := by
  obtain ⟨next, c, hm, -, hchange⟩ := exists_change m o
  rw [hm]
  cases hchange with
  | nothing | folder | tag => exact h
  | copy f => exact h.append f

theorem Numbered.run {m : Mailbox} (h : m.Numbered) (ops : List Operation) :
    (m.run ops).Numbered := by
  induction ops generalizing m with
  | nil => exact h
  | cons o ops ih => exact ih (h.apply o)

theorem numbered_new (account : Text) (token : Option AuthToken) :
    (new account token).Numbered := by
  intro n entry hn
  simp [new] at hn

/-- The number of a message as a natural number, as long as the numbers do not run out. -/
theorem Numbered.toNat_id {m : Mailbox} (h : m.Numbered) (hfew : m.messages.length < 2 ^ 32) {n : ℕ}
    {entry : StoredMessage × Octets} (hn : m.messages[n]? = some entry) :
    entry.1.id.toNat = n + 1 := by
  obtain ⟨hlt, -⟩ := List.getElem?_eq_some_iff.1 hn
  rw [h n entry hn, UInt32.toNat_add, UInt32.toNat_ofNat']
  simp only [UInt32.toNat_one]
  omega

/-- A message is found by its number. -/
theorem Numbered.rawMessage {m : Mailbox} (h : m.Numbered) (hfew : m.messages.length < 2 ^ 32)
    {n : ℕ} {entry : StoredMessage × Octets} (hn : m.messages[n]? = some entry) :
    m.rawMessage entry.1.id = some entry.2 := by
  have hfind : m.messages.find? (·.1.id == entry.1.id) = some entry := by
    obtain ⟨hlt, hget⟩ := List.getElem?_eq_some_iff.1 hn
    refine List.find?_eq_some_iff_getElem.2 ⟨by simp, n, hlt, hget, ?_⟩
    intro j hj
    have hj' : j < m.messages.length := Nat.lt_trans hj hlt
    have hother := h.toNat_id hfew (List.getElem?_eq_getElem hj')
    have hthis := h.toNat_id hfew hn
    -- an earlier message has a smaller number
    have hne : m.messages[j].1.id ≠ entry.1.id := by
      intro heq
      rw [heq] at hother
      omega
    simpa using hne
  simp [Mailbox.rawMessage, hfind]

/-- Of a new mailbox, the keys are those of the accepted filings. -/
theorem knows_run_iff (account : Text) (token : Option AuthToken) (ops : List Operation)
    (f : Filing) :
    ((new account token).run ops).Knows f ↔
      ∃ e ∈ (new account token).accepted ops, SameCopy e.1 f := by
  simp only [Knows, delivered_run, sameCopy_iff, List.mem_append, List.mem_filterMap]
  constructor
  · rintro ⟨key, hkey | ⟨e, he, hek⟩, hf⟩
    · simp [new] at hkey
    · exact ⟨e, he, key, hek, hf⟩
  · rintro ⟨e, he, key, hek, hf⟩
    exact ⟨key, Or.inr ⟨e, he, hek⟩, hf⟩

/-- No two accepted filings ask for the same copy. -/
theorem pairwise_accepted {m : Mailbox} (ops : List Operation) :
    (∀ e ∈ m.accepted ops, ¬ m.Knows e.1) ∧
      (m.accepted ops).Pairwise fun e e' => ¬ SameCopy e.1 e'.1 := by
  induction ops generalizing m with
  | nil => simp [accepted]
  | cons o ops ih =>
    obtain ⟨next, c, hm, hc, hchange⟩ := exists_change m o
    obtain ⟨hfresh, hpair⟩ := ih (m := next)
    rw [accepted, hm, hc]
    cases hchange with
    | nothing | folder | tag =>
      exact ⟨fun e he => hfresh e (by simpa using he), by simpa using hpair⟩
    | copy f ht hk =>
      -- what the first filing adds to the keys is what later ones must not ask for
      have hlater : ∀ e ∈ (m.append f).2.accepted ops, ¬ m.Knows e.1 ∧ ¬ SameCopy f e.1 := by
        intro e he
        constructor
        · rintro ⟨key, hmem, hkey⟩
          exact hfresh e he ⟨key, by simp [append, hmem], hkey⟩
        · intro hsame
          obtain ⟨key, hf, hkey⟩ := sameCopy_iff.1 hsame
          exact hfresh e he ⟨key, by simp [append, hf], hkey⟩
      refine ⟨?_, ?_⟩
      · intro e he
        rcases List.mem_append.1 he with he | he
        · obtain rfl : e = (f, (m.append f).1) := by simpa using he
          exact hk
        · exact (hlater e he).1
      · simp only [Option.toList_some, List.singleton_append, List.pairwise_cons]
        exact ⟨fun e he => (hlater e he).2, hpair⟩

/-- A message that has been filed stays where it is. -/
theorem messages_run_prefix (m : Mailbox) (ops : List Operation) :
    m.messages <+: (m.run ops).messages :=
  ⟨_, (messages_run m ops).symm⟩

/-- **Exactly once, and nothing on failure.**  In every history of a mailbox, a filing fails exactly
when its folder does not exist or is a mountpoint, and then changes nothing.  Otherwise it is
answered with nothing exactly when an earlier filing of the history was answered with a copy for the
same context, folder and recipient up to case, and else appends one message.  So there is at most
one copy of each kind; the messages are those of the accepted filings, numbered from one on, and
they stay what they are. -/
theorem addMessage_exactly_once (account : Text) (token : Option AuthToken) (ops : List Operation)
    (hfew : ((new account token).run ops).messages.length < 2 ^ 32) :
    (∀ before f after, ops = before ++ .addMessage f :: after →
      let m := (new account token).run before
      let known := ∃ e ∈ (new account token).accepted before, SameCopy e.1 f
      ((∃ e, (m.addMessage f).1 = .error e) ↔ ¬ m.Takes f.folder) ∧
      (¬ m.Takes f.folder → (m.addMessage f).2 = m) ∧
      (m.Takes f.folder →
        ((m.addMessage f).1 = .ok none ↔ known) ∧
        (known → (m.addMessage f).2 = m) ∧
        (¬ known → ∃ copy, (m.addMessage f).1 = .ok (some copy) ∧
          copy.folder = f.folder ∧ copy.flags = f.flags ∧ copy.tags = f.tags ∧
          (m.addMessage f).2.messages = m.messages ++ [(copy, f.message.raw)]))) ∧
    ((new account token).accepted ops).Pairwise (fun e e' => ¬ SameCopy e.1 e'.1) ∧
    ((new account token).run ops).messages =
      ((new account token).accepted ops).map (fun e => (e.2, e.1.message.raw)) ∧
    ∀ before after, ops = before ++ after → ∀ n entry,
      ((new account token).run before).messages[n]? = some entry →
        entry.1.id.toNat = n + 1 ∧
        ((new account token).run ops).messages[n]? = some entry ∧
        ((new account token).run ops).rawMessage entry.1.id = some entry.2 := by
  refine ⟨?_, (pairwise_accepted ops).2, ?_, ?_⟩
  · rintro before f after -
    intro m known
    -- before the filing, the keys are those of the accepted filings
    have hknown : m.Knows f ↔ known := knows_run_iff account token before f
    by_cases ht : m.Takes f.folder
    · by_cases hk : m.Knows f
      · have hadd := addMessage_of_knows ht hk
        simp [hadd, ht, hknown.1 hk]
      · have hadd := addMessage_of_not_knows ht hk
        have hnew : ¬ known := mt hknown.2 hk
        refine ⟨by simp [hadd, ht], fun h => absurd ht h, fun _ => ⟨by simp [hadd, hnew], ?_, ?_⟩⟩
        · exact fun h => absurd h hnew
        · exact fun _ => ⟨(m.append f).1, by rw [hadd], rfl, rfl, rfl, by rw [hadd]; rfl⟩
    · obtain ⟨e, hadd⟩ := addMessage_of_not_takes ht
      simp [hadd, ht]
  · rw [messages_run]
    simp [new]
  · rintro before after rfl n entry hn
    have hnumbered := (numbered_new account token).run (before ++ after)
    have hlater : ((new account token).run (before ++ after)).messages[n]? = some entry := by
      rw [run_append]
      obtain ⟨rest, hrest⟩ := messages_run_prefix ((new account token).run before) after
      rw [← hrest, List.getElem?_append_left (List.getElem?_eq_some_iff.1 hn).1]
      exact hn
    exact ⟨hnumbered.toNat_id hfew hlater, hlater, hnumbered.rawMessage hfew hlater⟩

/-- The second of two deliveries of one message to the same recipient, spelled in two ways, is
answered with nothing, whatever happened in between. -/
theorem addMessage_exactly_once_respelled :
    let first : Filing := ⟨.inbox, ⟨[10, 72, 105, 10], []⟩, 0, [], "bob".toList, some 1⟩
    let second : Filing := ⟨.inbox, ⟨[10, 72, 105, 10], []⟩, 0, [], "BOB".toList, some 1⟩
    let ops := [.addMessage first, .createTag "work".toList, .addMessage second]
    let m := (new "bob".toList none).run [.addMessage first, .createTag "work".toList]
    Message.ofOctets first.message.raw = .ok first.message ∧ second.message = first.message ∧
      ((new "bob".toList none).run ops).messages.length < 2 ^ 32 ∧
      (m.addMessage second).1 = .ok none ∧ (m.addMessage second).2 = m := by
  intro first second ops m
  have hfew : ((new "bob".toList none).run ops).messages.length < 2 ^ 32 := by decide +kernel
  obtain ⟨hanswer, -⟩ := addMessage_exactly_once "bob".toList none ops hfew
  obtain ⟨-, -, htaken⟩ := hanswer [.addMessage first, .createTag "work".toList] second [] rfl
  obtain ⟨hnone, hsame, -⟩ := htaken (by decide +kernel)
  have hknown : ∃ e ∈ (new "bob".toList none).accepted
      [.addMessage first, .createTag "work".toList], SameCopy e.1 second := by decide +kernel
  exact ⟨Message.ofOctets_of_blank _, rfl, hfew, hnone.2 hknown, hsame hknown⟩

end Postroom.Mailbox
