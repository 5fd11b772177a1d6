import Postroom.Mailbox.Store
import Postroom.Unicode.Case

/-!
# Mailboxes

A mailbox is a tree of folders, named by their paths, with tags, flags and filed messages.  Folders
and tags are only ever added, and nothing that has been filed is changed.

* `Mailbox.new` — a mailbox with its system folders and flags;
* `Mailbox.createFolder`, `Mailbox.createMountpoint`, `Mailbox.createTag` — what can be added;
* `Mailbox.addMessage` — files a message, at most once for a context, a recipient and a folder;
* `Mailbox.resolve` — the deepest folder that a path leads to;
* `Mailbox.store` — the mailbox as a store.
-/

namespace Postroom

/-- What identifies a copy of a message that goes to several recipients: the message, the recipient
in lower case and the folder. -/
abbrev DeliveryKey := ContextId × Text × FolderId

/-- A mailbox. -/
structure Mailbox where
  account : Text
  token : Option AuthToken
  /-- The folders in the order of their numbers. -/
  folders : List Folder
  /-- The number of the next folder. -/
  nextFolder : FolderId
  tags : List Tag
  flags : List MailboxFlag
  /-- The filed messages in the order of filing, each with its octets. -/
  messages : List (StoredMessage × Octets)
  /-- What has been filed for a context. -/
  delivered : List DeliveryKey
deriving DecidableEq

namespace Mailbox

/-- The number of the first folder that is created. -/
def firstFolder : FolderId := 256

/-- The number of the first tag. -/
def firstTag : TagId := 64

/-- A folder at the top of the tree, or the root itself for an empty name. -/
def systemFolder (id : FolderId) (name : String) : Folder :=
  ⟨id, name.toList, Path.join (if name.isEmpty then [] else [name.toList]), .own⟩

/-- The folders of every mailbox. -/
def systemFolders : List Folder :=
  [systemFolder .root "", systemFolder .inbox "Inbox", systemFolder .trash "Trash",
   systemFolder .spam "Junk", systemFolder .sent "Sent", systemFolder .drafts "Drafts"]

/-- The mailbox of an account, without messages. -/
def new (account : Text) (token : Option AuthToken) : Mailbox :=
  ⟨account, token, systemFolders, firstFolder, [], MailboxFlag.system, [], []⟩

/-! ## Look-ups -/

/-- The folder of a number. -/
def folder? (m : Mailbox) (id : FolderId) : Option Folder :=
  m.folders.find? (·.id == id)

/-- The folder of a path, up to the case of ASCII letters. -/
def folderAt? (m : Mailbox) (path : Text) : Option Folder :=
  m.folders.find? fun f => Text.sameName f.path path

/-- The folder of a number, or the reason why there is none. -/
def folderById (m : Mailbox) (id : FolderId) : Except StoreError Folder :=
  match m.folder? id with
  | some f => .ok f
  | none => .error (.folderUnknown id)

/-- The tag of a name, up to the case of ASCII letters. -/
def tagByName (m : Mailbox) (name : Text) : Except StoreError Tag :=
  match m.tags.find? fun t => Text.sameName t.name name with
  | some t => .ok t
  | none => .error (.tagUnknown name)

/-- The flag of a number. -/
def flagById (m : Mailbox) (id : FlagId) : Except StoreError MailboxFlag :=
  match m.flags.find? (·.id == id) with
  | some f => .ok f
  | none => .error (.flagUnknown id)

/-- The token of the owner. -/
def authToken (m : Mailbox) : Except StoreError AuthToken :=
  match m.token with
  | some t => .ok t
  | none => .error (.authTokenMissing m.account)

/-- The deepest folder whose path consists of the first `least` segments and at most `extra` more,
and the segments that remain. -/
def deepest (m : Mailbox) (segments : List Text) (least extra : Nat) :
    Option (Folder × List Text) :=
  match m.folderAt? (Path.join (segments.take (least + extra))) with
  | some f => some (f, segments.drop (least + extra))
  | none =>
    match extra with
    | 0 => none
    | extra + 1 => m.deepest segments least extra

/-- The deepest folder that a path below the folder `root` leads to. -/
def resolve (m : Mailbox) (root : FolderId) (path : Text) : Except StoreError Resolution :=
  match m.folder? root with
  | none => .error (.folderUnknown root)
  | some f =>
    let above := Path.split f.path
    let below := Path.split path
    match m.deepest (above ++ below) above.length below.length with
    | some (found, rest) => .ok (.partway found (Path.relative rest))
    | none => .ok (.partway f path)

/-- The messages in a folder. -/
def messagesIn (m : Mailbox) (folder : FolderId) : List StoredMessage :=
  (m.messages.map (·.1)).filter (·.folder == folder)

/-- The octets of the message of a number. -/
def rawMessage (m : Mailbox) (id : UInt32) : Option Octets :=
  (m.messages.find? (·.1.id == id)).map (·.2)

/-! ## Additions -/

/-- Adds a folder below an existing folder that is no mountpoint. -/
def create (m : Mailbox) (path : Text) (kind : FolderKind) :
    Except CreateError (Folder × Mailbox) :=
  let segments := Path.split path
  match segments.getLast? with
  | none => .error .rootPath
  | some name =>
    let path := Path.join segments
    if (m.folderAt? path).isSome then .error (.folderExists path)
    else
      match m.folderAt? (Path.join segments.dropLast) with
      | none => .error (.parentMissing path)
      | some parent =>
        if parent.isMountpoint then .error (.parentMissing path)
        else
          let folder : Folder := ⟨m.nextFolder, name, path, kind⟩
          .ok (folder, { m with
            folders := m.folders ++ [folder]
            nextFolder := m.nextFolder + 1 })

/-- Adds a folder of the mailbox itself. -/
def createFolder (m : Mailbox) (path : Text) : Except CreateError (Folder × Mailbox) :=
  m.create path .own

/-- Adds a place where the folder of another account appears. -/
def createMountpoint (m : Mailbox) (path owner : Text) (remoteId : FolderId) :
    Except CreateError (Folder × Mailbox) :=
  m.create path (.mounted ⟨owner, remoteId⟩)

/-- Adds a tag, unless there is one of this name up to the case of ASCII letters. -/
def createTag (m : Mailbox) (name : Text) : Except CreateError (Tag × Mailbox) :=
  if m.tags.any fun t => Text.sameName t.name name then .error (.tagExists name)
  else
    let tag : Tag := ⟨firstTag + UInt32.ofNat m.tags.length, name⟩
    .ok (tag, { m with tags := m.tags ++ [tag] })

/-- The key of a filing that belongs to a context. -/
def key? (f : Filing) : Option DeliveryKey :=
  f.context.map fun context => (context, Unicode.lowercase f.recipient, f.folder)

/-- Appends a message. -/
def append (m : Mailbox) (f : Filing) : StoredMessage × Mailbox :=
  let stored : StoredMessage := ⟨UInt32.ofNat m.messages.length + 1, f.folder, f.flags, f.tags⟩
  (stored, { m with
    messages := m.messages ++ [(stored, f.message.raw)]
    delivered := m.delivered ++ (key? f).toList })

/-- Files a message.  What has been filed for the same context, recipient and folder is not filed
again. -/
def addMessage (m : Mailbox) (f : Filing) :
    Except StoreError (Option StoredMessage) × Mailbox :=
  match m.folder? f.folder with
  | none => (.error (.folderUnknown f.folder), m)
  | some folder =>
    if folder.isMountpoint then
      (.error (.filingRefused "folder is a mountpoint".toList f.folder), m)
    else if (key? f).any m.delivered.contains then (.ok none, m)
    else
      let (stored, m) := m.append f
      (.ok (some stored), m)

/-- The mailbox as a store. -/
def store : Store Mailbox where
  authToken := fun m => (m.authToken, m)
  addMessage := fun f m => m.addMessage f
  resolve := fun root path m => (m.resolve root path, m)
  tagByName := fun name m => (m.tagByName name, m)
  flagById := fun id m => (m.flagById id, m)

end Mailbox

end Postroom
