import Postroom.Mailbox.Folder
import Postroom.Mailbox.Flag

/-!
# What a mailbox can refuse

The causes for which a look-up or a filing fails, those for which a folder or a tag is not created,
and their wording.
-/

namespace Postroom

/-- Why a mailbox did not answer a look-up or a filing. -/
inductive StoreError where
  | folderUnknown (id : FolderId)
  | tagUnknown (name : Text)
  | flagUnknown (id : FlagId)
  | authTokenMissing (account : Text)
  | filingRefused (reason : Text) (folder : FolderId)
deriving DecidableEq, Repr

namespace StoreError

/-- The item asked for does not exist, as opposed to a look-up that went wrong. -/
def isNotFound : StoreError → Bool
  | folderUnknown _ | tagUnknown _ | flagUnknown _ => true
  | authTokenMissing _ | filingRefused _ _ => false

/-- The wording of the cause. -/
def message : StoreError → Text
  | folderUnknown id => "cannot find folder ".toList ++ Text.ofNat id.toNat
  | tagUnknown name => "cannot find tag ".toList ++ name
  | flagUnknown id => "cannot find flag ".toList ++ Text.ofInt id.toInt
  | authTokenMissing account => "cannot get auth token of account ".toList ++ account
  | filingRefused reason folder =>
    "cannot add message to folder ".toList ++ Text.ofNat folder.toNat ++ ": ".toList ++ reason

end StoreError

/-- Why a folder or a tag was not created. -/
inductive CreateError where
  | parentMissing (path : Text)
  | folderExists (path : Text)
  | rootPath
  | tagExists (name : Text)
deriving DecidableEq, Repr

/-- The wording of the cause. -/
def CreateError.message : CreateError → Text
  | .parentMissing path =>
    "cannot create folder ".toList ++ path ++ ": parent folder does not exist".toList
  | .folderExists path => "cannot create folder ".toList ++ path ++ ": folder already exists".toList
  | .rootPath => "cannot create folder at the mailbox root".toList
  | .tagExists name => "cannot create tag ".toList ++ name ++ ": tag already exists".toList

end Postroom
