import Postroom.Config.Server
import Postroom.Proofs.Text.Pieces

/-!
# Keys of items

A mount is written under the text of the item that it is for: the account, a colon and the number.
An account may hold colons and digits of its own.  A number holds no colon, so that the text is cut
in two at its last colon (`ItemId.splitLast_render`), and no two items share one.
-/

namespace Postroom

namespace ItemId

/-- The last colon of an item's text is the one in front of its number. -/
theorem splitLast_render (item : ItemId) :
    Text.splitLast ':' item.render = some (item.account, Text.ofNat item.id.toNat) := by
  refine Text.splitLast_append_cons ?_ item.account
  intro hcolon
  have hdigit : ':'.isDigit = true := Text.isDigit_of_mem_ofNat hcolon
  cases hdigit

theorem render_injective : Function.Injective render := by
  intro i j h
  have hcut := congrArg (Text.splitLast ':') h
  rw [splitLast_render, splitLast_render, Option.some_inj, Prod.mk.injEq] at hcut
  obtain ⟨haccount, hnumeral⟩ := hcut
  have hid : i.id = j.id := UInt32.toNat_inj.1 (Text.ofNat_injective hnumeral)
  cases i
  cases j
  exact congrArg₂ mk haccount hid

end ItemId

namespace ImapConfig

/-- The mailbox of a folder is the one in the first entry whose key is the text of the folder. -/
theorem mount?_eq_some_iff (c : ImapConfig) (item : ItemId) (name : Text) :
    c.mount? item = some name ↔
      ∃ before after, c.mounts = before ++ (item.render, name) :: after ∧
        ∀ entry ∈ before, entry.1 ≠ item.render := by
  simp only [mount?, List.lookup_eq_some_iff, bne_iff_ne, ne_comm]

/-- **A mount is for one folder of one account.**  Items with the same text are the same item.  The
mailbox that is mounted where a mountpoint leads to is the one in the first entry under a certain
key, and this key is the text of the folder with the number of the mountpoint in the account of its
owner, and of no other item; there is no mailbox only when no entry has this text as its key. -/
theorem mount?_keyed :
    (∀ i j : ItemId, i.render = j.render ↔ i = j) ∧
    ∀ (c : ImapConfig) (m : Mountpoint),
      (∀ name, c.mount? m.item = some name ↔
        ∃ before key after, c.mounts = before ++ (key, name) :: after ∧
          (∀ entry ∈ before, entry.1 ≠ key) ∧
          ∀ item : ItemId, item.render = key ↔ item = ⟨m.owner, m.remoteId⟩) ∧
      (c.mount? m.item = none ↔ ∀ entry ∈ c.mounts, entry.1 ≠ m.item.render) := by
  have hrender : ∀ i j : ItemId, i.render = j.render ↔ i = j :=
    fun i j => ItemId.render_injective.eq_iff
  refine ⟨hrender, fun c m => ⟨fun name => ?_, ?_⟩⟩
  · rw [mount?_eq_some_iff]
    constructor
    · rintro ⟨before, after, hmounts, hbefore⟩
      exact ⟨before, m.item.render, after, hmounts, hbefore, fun item => hrender item m.item⟩
    · rintro ⟨before, key, after, hmounts, hbefore, hkey⟩
      -- of all items, the key is the text of the one that the mountpoint leads to
      obtain rfl : m.item.render = key := (hkey m.item).2 rfl
      exact ⟨before, after, hmounts, hbefore⟩
  · simp only [mount?, List.lookup_eq_none_iff, bne_iff_ne, ne_comm]

end ImapConfig

end Postroom
