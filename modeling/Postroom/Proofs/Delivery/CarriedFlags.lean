import Mathlib.Data.List.Nodup
import Mathlib.Data.Nat.Bitwise
import Postroom.Proofs.Delivery.Uniformity
import Postroom.Proofs.Filter.ResolvedMarks

/-!
# Flags on the way to another account

A word of flag bits travels as a set of transport flags, and only the table of system flags says
what it was.  Every system flag has a form there (`TransportFlag.form`), the unread flag one that
shows where its bit is clear.  No two entries of the table share a form, nor what mail servers write
for it, so that the set tells all twelve bits: `TransportFlag.ofBitmask_lossless`.
-/

namespace Postroom

theorem nodup_eraseDups {α : Type} [BEq α] [LawfulBEq α] : ∀ l : List α, l.eraseDups.Nodup
  | [] => by simp
  | a :: l => by
    rw [List.eraseDups_cons, List.nodup_cons, List.mem_eraseDups]
    exact ⟨by simp, nodup_eraseDups _⟩
termination_by l => l.length
decreasing_by exact Nat.lt_succ_of_le (List.length_filter_le _ _)

namespace Flag

/-- A system flag is clear in a word when the bit at its place is. -/
theorem and_bitmask_eq_zero_iff {id : FlagId} (h : id ∈ numbers) (mask : Bitmask) :
    mask &&& bitmask id = 0 ↔ mask.toNat.testBit (place id) = false := by
  rw [← UInt32.toNat_inj, UInt32.toNat_and, toNat_bitmask id h, Nat.and_two_pow]
  cases mask.toNat.testBit (place id) <;> simp

theorem mem_numbers {entry : FlagId × String} (h : entry ∈ system) : entry.1 ∈ numbers :=
  List.mem_map_of_mem h

theorem unread_mem_system : (unread, "unread") ∈ system := by
  decide

theorem place_lt : ∀ id ∈ numbers, place id < 12 := by
  decide +kernel

theorem exists_place : ∀ n < 12, ∃ entry ∈ system, place entry.1 = n := by
  decide +kernel

end Flag

namespace TransportFlag

/-! ## Forms -/

/-- The form in which a system flag travels. -/
def form (entry : FlagId × String) : TransportFlag :=
  if entry.1 = Flag.unread then seen else ofMailboxFlag entry.1 entry.2.toList

/-- The form of a system flag belongs to a word: `seen` by a clear bit, every other one by a set
bit. -/
def Shows (mask : Bitmask) (entry : FlagId × String) : Prop :=
  mask.toNat.testBit (Flag.place entry.1) = decide (entry.1 ≠ Flag.unread)

/-- A system flag is known by what mail servers write for its form. -/
theorem eq_of_wire_form : ∀ entry ∈ Flag.system, ∀ entry' ∈ Flag.system,
    (form entry').wire = (form entry).wire → entry' = entry := by
  decide +kernel

/-- The transport flags of a word are the forms that belong to it. -/
theorem mem_ofBitmask {mask : Bitmask} {f : TransportFlag} :
    f ∈ ofBitmask mask ↔ ∃ entry ∈ Flag.system, form entry = f ∧ Shows mask entry := by
  rw [ofBitmask, List.mem_eraseDups, List.mem_append]
  constructor
  · rintro (hseen | hother)
    · rw [List.mem_ite_nil_right, List.mem_singleton] at hseen
      obtain ⟨hclear, rfl⟩ := hseen
      exact ⟨_, Flag.unread_mem_system, rfl,
        (Flag.and_bitmask_eq_zero_iff (by decide) mask).1 hclear⟩
    · obtain ⟨entry, hentry, hform⟩ := List.mem_filterMap.1 hother
      rw [Option.ite_none_right_eq_some, Option.some_inj] at hform
      obtain ⟨⟨hne, hset⟩, rfl⟩ := hform
      refine ⟨entry, hentry, if_neg hne, ?_⟩
      have hbit := mt (Flag.and_bitmask_eq_zero_iff (Flag.mem_numbers hentry) mask).2 hset
      rw [Shows, Bool.not_eq_false] at *
      rw [hbit, decide_eq_true hne]
  · rintro ⟨entry, hentry, rfl, hshows⟩
    have hclear := Flag.and_bitmask_eq_zero_iff (Flag.mem_numbers hentry) mask
    rw [Shows] at hshows
    by_cases hne : entry.1 = Flag.unread
    · rw [hne] at hshows hclear
      refine Or.inl ?_
      rw [form, if_pos hne, if_pos (hclear.2 hshows)]
      exact List.mem_singleton_self _
    · refine Or.inr (List.mem_filterMap.2 ⟨entry, hentry, ?_⟩)
      rw [decide_eq_true hne] at hshows
      rw [form, if_neg hne, if_pos]
      exact ⟨hne, fun hzero => by rw [hclear.1 hzero] at hshows; cases hshows⟩

/-- What mail servers write for a word tells which forms belong to it. -/
theorem wire_form_mem_iff {mask : Bitmask} {entry : FlagId × String} (h : entry ∈ Flag.system) :
    (form entry).wire ∈ (ofBitmask mask).map wire ↔ Shows mask entry := by
  rw [List.mem_map]
  constructor
  · rintro ⟨f, hf, hwire⟩
    obtain ⟨entry', hentry', rfl, hshows⟩ := mem_ofBitmask.1 hf
    rwa [← eq_of_wire_form entry h entry' hentry' hwire]
  · intro hshows
    exact ⟨form entry, mem_ofBitmask.2 ⟨entry, h, rfl, hshows⟩, rfl⟩

theorem form_mem_iff {mask : Bitmask} {entry : FlagId × String} (h : entry ∈ Flag.system) :
    form entry ∈ ofBitmask mask ↔ Shows mask entry := by
  constructor
  · exact fun hmem => (wire_form_mem_iff h).1 (List.mem_map_of_mem hmem)
  · exact fun hshows => mem_ofBitmask.2 ⟨entry, h, rfl, hshows⟩

/-- No two transport flags of a word are written alike. -/
theorem nodup_wire (mask : Bitmask) : ((ofBitmask mask).map wire).Nodup := by
  refine List.Nodup.map_on ?_ (nodup_eraseDups _)
  intro f hf f' hf' hwire
  obtain ⟨entry, hentry, rfl, -⟩ := mem_ofBitmask.1 hf
  obtain ⟨entry', hentry', rfl, -⟩ := mem_ofBitmask.1 hf'
  rw [eq_of_wire_form entry' hentry' entry hentry hwire]

/-- Two words have the same lowest twelve bits when the same forms belong to them. -/
theorem shows_congr_iff {a b : Bitmask} :
    (∀ entry ∈ Flag.system, Shows a entry ↔ Shows b entry) ↔
      ∀ n < 12, a.toNat.testBit n = b.toNat.testBit n := by
  constructor
  · intro h n hn
    obtain ⟨entry, hentry, rfl⟩ := Flag.exists_place n hn
    have hshows := h entry hentry
    rw [Shows, Shows] at hshows
    cases ha : a.toNat.testBit (Flag.place entry.1) <;>
      cases hb : b.toNat.testBit (Flag.place entry.1) <;> simp_all
  · intro h entry hentry
    rw [Shows, Shows, h _ (Flag.place_lt entry.1 (Flag.mem_numbers hentry))]

theorem ofBitmask_congr_iff {a b : Bitmask} :
    (∀ f, f ∈ ofBitmask a ↔ f ∈ ofBitmask b) ↔
      ∀ n < 12, a.toNat.testBit n = b.toNat.testBit n := by
  rw [← shows_congr_iff]
  constructor
  · intro h entry hentry
    rw [← form_mem_iff hentry, ← form_mem_iff hentry, h]
  · intro h f
    rw [mem_ofBitmask, mem_ofBitmask]
    exact exists_congr fun entry => and_congr_right fun hentry =>
      and_congr_right fun _ => h entry hentry

theorem wire_perm_iff {a b : Bitmask} :
    ((ofBitmask a).map wire).Perm ((ofBitmask b).map wire) ↔
      ∀ n < 12, a.toNat.testBit n = b.toNat.testBit n := by
  constructor
  · intro h
    rw [← shows_congr_iff]
    intro entry hentry
    rw [← wire_form_mem_iff hentry, ← wire_form_mem_iff hentry]
    exact h.mem_iff
  · intro h
    have hsame := ofBitmask_congr_iff.2 h
    refine (List.perm_ext_iff_of_nodup (nodup_wire a) (nodup_wire b)).2 fun t => ?_
    simp only [List.mem_map, hsame]

theorem seen_mem_iff (mask : Bitmask) :
    seen ∈ ofBitmask mask ↔ mask &&& Flag.bitmask Flag.unread = 0 := by
  rw [Flag.and_bitmask_eq_zero_iff (by decide)]
  exact form_mem_iff Flag.unread_mem_system

theorem ofMailboxFlag_mem_iff {entry : FlagId × String} (h : entry ∈ Flag.system)
    (hne : entry.1 ≠ Flag.unread) (mask : Bitmask) :
    ofMailboxFlag entry.1 entry.2.toList ∈ ofBitmask mask ↔
      mask &&& Flag.bitmask entry.1 ≠ 0 := by
  have hform : form entry = ofMailboxFlag entry.1 entry.2.toList := if_neg hne
  rw [← hform, form_mem_iff h, Shows, decide_eq_true hne, ne_eq,
    Flag.and_bitmask_eq_zero_iff (Flag.mem_numbers h), Bool.not_eq_false]

/-! ## Copies here and there -/

variable {σ τ : Type}

/-- Where a run files a copy in a store that keeps marks, it asks another account to take the
message with the flags of this copy. -/
theorem eq_ofBitmask_of_copy {s : Surroundings σ τ} (hs : s.store.KeepsMarks) (d : Delivery) (w : σ)
    {copy : StoredMessage} (hcopy : copy ∈ (d.execute s w).events.filterMap Event.copy?)
    {folder : RemoteFolder} {flags : List TransportFlag} {raw : Octets}
    {answer : Except RemoteError Unit}
    (happended : .appended folder flags raw answer ∈ (d.execute s w).events) :
    flags = ofBitmask copy.flags := by
  obtain ⟨known, hmarked⟩ := Delivery.execute_markedOnce s d w
  obtain ⟨e, hfiled, he⟩ := List.mem_filterMap.1 hcopy
  obtain ⟨f, rfl⟩ : ∃ f, e = .filed f (.ok (some copy)) := by
    match e, he with
    | .filed f (.ok (some _)), rfl => exact ⟨f, rfl⟩
  -- both go by the marks that the answers of the run give
  have hflags : Marks.ofAnswers _ = ⟨f.flags, f.tags⟩ := Option.some.inj (hmarked.goesBy hfiled rfl)
  have hforms := Option.some.inj (hmarked.goesBy happended rfl)
  have hkept := (Delivery.execute_explains hs.follows d w).2 f copy hfiled
  rw [← hforms, hflags, hkept.1]

/-- **Transport flags lose no system flag.**  Two words have the same transport flags, and what mail
servers write for these is the same up to order, exactly when they agree on the bits of the twelve
system flags, which are the lowest ones.  A word is `seen` exactly when its unread bit is clear, and
nothing is written for it twice.  In a run, another account is asked to take the message with the
flags of each copy that is filed in the mailbox: `seen` unless the copy is unread, and with the form
of every other system flag exactly when the copy has the flag. -/
theorem ofBitmask_lossless :
    (∀ a b : Bitmask,
      ((∀ f, f ∈ ofBitmask a ↔ f ∈ ofBitmask b) ↔
        ∀ n < 12, a.toNat.testBit n = b.toNat.testBit n) ∧
      (((ofBitmask a).map wire).Perm ((ofBitmask b).map wire) ↔
        ∀ n < 12, a.toNat.testBit n = b.toNat.testBit n)) ∧
    (∀ a : Bitmask, (seen ∈ ofBitmask a ↔ a &&& Flag.bitmask Flag.unread = 0) ∧
      ((ofBitmask a).map wire).Nodup) ∧
    ∀ (s : Surroundings σ τ) (d : Delivery) (w : σ), s.store.KeepsMarks →
      ∀ copy ∈ (d.execute s w).events.filterMap Event.copy?, ∀ folder flags raw answer,
        .appended folder flags raw answer ∈ (d.execute s w).events →
        flags = ofBitmask copy.flags ∧
        (seen ∈ flags ↔ copy.flags &&& Flag.bitmask Flag.unread = 0) ∧
        ∀ entry ∈ Flag.system, entry.1 ≠ Flag.unread →
          (ofMailboxFlag entry.1 entry.2.toList ∈ flags ↔
            copy.flags &&& Flag.bitmask entry.1 ≠ 0) := by
  refine ⟨fun a b => ⟨ofBitmask_congr_iff, wire_perm_iff⟩,
    fun a => ⟨seen_mem_iff a, nodup_wire a⟩, ?_⟩
  intro s d w hs copy hcopy folder flags raw answer happended
  obtain rfl := eq_ofBitmask_of_copy hs d w hcopy happended
  exact ⟨rfl, seen_mem_iff copy.flags, fun entry hentry hne =>
    ofMailboxFlag_mem_iff hentry hne copy.flags⟩

/-- Another account takes the message and the inbox takes a copy of it, both read, flagged and
forwarded; a flag that no mailbox has leaves no trace. -/
theorem ofBitmask_lossless_forwarded :
    let connector : Connector Unit Unit :=
      ⟨fun _ _ w => (.ok (), w), fun _ t w => (.ok (some ⟨[], [], []⟩), t, w),
        fun _ _ t w => (.ok none, t, w), fun _ _ _ t w => (.ok (), t, w), fun _ w => w⟩
    let s := Mailbox.surroundings (some connector) none fun w => (⟨[], []⟩, w)
    let m := (Mailbox.new "bob".toList (some ⟨"token".toList⟩)).apply
      (.createMountpoint "/Shared".toList "alice".toList 257)
    let d := (Delivery.start ⟨[10, 72, 105, 10], []⟩ "bob".toList none .none).setActions
      [.fileInto "/Shared".toList, .flag (-4) true, .flag Flag.unread false, .flag (-30) true,
        .flag Flag.flagged true, .keep false]
    let x := d.execute s (m, ())
    Message.ofOctets d.message.raw = .ok d.message ∧ s.store.KeepsMarks ∧
      x.events.filterMap Event.copy? = [⟨1, .inbox, 40, []⟩] ∧
      ∃ folder flags raw answer, .appended folder flags raw answer ∈ x.events ∧
        flags = [.seen, .custom "forwarded".toList, .flagged] ∧ flags = ofBitmask 40 := by
  intro connector s m d x
  have hs : s.store.KeepsMarks := Mailbox.surroundings_keepsMarks _ _ _
  have hcopies : x.events.filterMap Event.copy? = [⟨1, .inbox, 40, []⟩] := by decide +kernel
  have hcopy : ⟨1, .inbox, 40, []⟩ ∈ x.events.filterMap Event.copy? := by
    rw [hcopies]
    exact List.mem_singleton_self _
  have hflags : [.seen, .custom "forwarded".toList, .flagged] ∈
      (x.events.filterMap Event.append?).map (·.2.1) := by
    decide +kernel
  obtain ⟨⟨folder, flags, raw, answer⟩, happend, hform⟩ := List.mem_map.1 hflags
  obtain ⟨e, he, heq⟩ := List.mem_filterMap.1 happend
  obtain rfl : e = .appended folder flags raw answer := by
    match e, heq with
    | .appended _ _ _ _, rfl => rfl
  obtain ⟨hsame, -⟩ :=
    ofBitmask_lossless.2.2 s d (m, ()) hs _ hcopy folder flags raw answer he
  exact ⟨Message.ofOctets_of_blank _, hs, hcopies, folder, flags, raw, answer, he, hform, hsame⟩

end TransportFlag

end Postroom
