import Postroom.Mailbox.Path

/-!
# Folders

A folder belongs to the mailbox itself or is a mountpoint, the place where a folder of another
account appears.  A `Resolution` tells how far a path leads: to a folder, and maybe to a rest of
the path that names nothing.
-/

namespace Postroom

/-- The number of a folder within its account. -/
abbrev FolderId := UInt32

namespace FolderId

/-- The root of the folder tree. -/
def root : FolderId := 1

/-- Where mail arrives. -/
def inbox : FolderId := 2

/-- Where deleted mail goes. -/
def trash : FolderId := 3

/-- Where mail classified as spam goes. -/
def spam : FolderId := 4

/-- Where copies of sent mail are kept. -/
def sent : FolderId := 5

/-- Where unfinished mail is kept. -/
def drafts : FolderId := 6

end FolderId

/-- A folder of some account. -/
structure ItemId where
  account : Text
  id : FolderId
deriving DecidableEq, Repr

namespace ItemId

/-- An item is written as its account, a colon and its number. -/
def render (item : ItemId) : Text :=
  item.account ++ ':' :: Text.ofNat item.id.toNat

end ItemId

/-- The folder of another account that a mountpoint leads to. -/
structure Mountpoint where
  owner : Text
  remoteId : FolderId
deriving DecidableEq, Repr

/-- The folder a mountpoint leads to, as an item of its owner. -/
def Mountpoint.item (m : Mountpoint) : ItemId :=
  ⟨m.owner, m.remoteId⟩

/-- Whether a folder holds messages itself. -/
inductive FolderKind where
  /-- A folder of the mailbox itself. -/
  | own
  /-- A place where a folder of another account appears. -/
  | mounted (m : Mountpoint)
deriving DecidableEq, Repr

/-- A folder of a mailbox. -/
structure Folder where
  id : FolderId
  name : Text
  path : Text
  kind : FolderKind
deriving DecidableEq, Repr

namespace Folder

/-- The mountpoint that the folder is, if it is one. -/
def mountpoint? (f : Folder) : Option Mountpoint :=
  match f.kind with
  | .own => none
  | .mounted m => some m

/-- The folder is a mountpoint. -/
def isMountpoint (f : Folder) : Bool :=
  f.mountpoint?.isSome

/-- A folder is shown by its path. -/
def render (f : Folder) : Text :=
  f.path

end Folder

/-- The folder a path leads to, and the rest of the path that names nothing below it. -/
structure Resolution where
  folder : Folder
  rest : Option Text
deriving DecidableEq, Repr

namespace Resolution

/-- A path that leads all the way. -/
def full (folder : Folder) : Resolution :=
  ⟨folder, none⟩

/-- A path that leads to a folder and leaves a rest; an empty rest is none. -/
def partway (folder : Folder) (rest : Text) : Resolution :=
  ⟨folder, if rest.isEmpty then none else some rest⟩

/-- The rest of the path, where an empty rest counts as none. -/
def remaining (r : Resolution) : Option Text :=
  r.rest.filter fun rest => !rest.isEmpty

/-- The path leads only part of the way. -/
def isPartial (r : Resolution) : Bool :=
  r.remaining.isSome

@[simp] theorem remaining_full (folder : Folder) : (full folder).remaining = none := rfl

@[simp] theorem remaining_partway (folder : Folder) (rest : Text) :
    (partway folder rest).remaining = if rest.isEmpty then none else some rest := by
  cases rest <;> simp [partway, remaining]

end Resolution

end Postroom
