import Postroom.Filter.Action
import Postroom.Mailbox.Store
import Postroom.Notice

/-!
# Marks

The flags and tags that every copy of a message carries, as the mark actions of a filter ask for.
Flags and tags that the mailbox does not know are passed over with a warning.  A mark action changes
the marks only through the answer of the store, so the marks are a fold over the answers.
-/

namespace Postroom

/-- The flags and the tags of a message. -/
structure Marks where
  flags : Bitmask
  tags : List TagId
deriving DecidableEq, Repr

/-- A request to a store about marks, with its answer. -/
inductive MarkAnswer where
  | flag (id : FlagId) (set : Bool) (answer : Except StoreError MailboxFlag)
  | tag (name : Text) (answer : Except StoreError Tag)

namespace MarkAnswer

/-- The flags after an answer. -/
def applyFlag (flags : Bitmask) : MarkAnswer → Bitmask
  | flag _ true (.ok f) => flags ||| f.bitmask
  | flag _ false (.ok f) => flags &&& ~~~f.bitmask
  | _ => flags

/-- The tag that an answer gives. -/
def tag? : MarkAnswer → Option TagId
  | tag _ (.ok t) => some t.id
  | _ => none

/-- The warning about an answer that gives nothing. -/
def warning? (recipient : Text) : MarkAnswer → Option Notice
  | flag id _ (.error e) =>
    some (.warning ("cannot flag message with flag ".toList ++ Text.ofInt id.toInt
      ++ ", skipping it: ".toList ++ e.message))
  | tag name (.error e) =>
    some (.warning (if e.isNotFound then
        "tag ".toList ++ name ++ " does not exist, cannot tag message for ".toList ++ recipient
      else "cannot resolve tag ".toList ++ name ++ ": ".toList ++ e.message))
  | _ => none

end MarkAnswer

namespace Marks

/-- The flags of a message that no action has marked. -/
def initialFlags : Bitmask :=
  Flag.bitmask Flag.unread

/-- Asks a store for the flags that actions name, in order. -/
def askFlags {σ : Type} (s : Store σ) : List MarkAction → σ → List MarkAnswer × σ
  | [], w => ([], w)
  | .flag id set :: rest, w =>
    let (answer, w) := s.flagById id w
    let (answers, w) := askFlags s rest w
    (.flag id set answer :: answers, w)
  | .tag _ :: rest, w => askFlags s rest w

/-- Asks a store for the tags that actions name, in order. -/
def askTags {σ : Type} (s : Store σ) : List MarkAction → σ → List MarkAnswer × σ
  | [], w => ([], w)
  | .tag name :: rest, w =>
    let (answer, w) := s.tagByName name w
    let (answers, w) := askTags s rest w
    (.tag name answer :: answers, w)
  | .flag _ _ :: rest, w => askTags s rest w

/-- The marks that answers give: each flag sets or clears its bits, the tags are kept in order. -/
def ofAnswers (answers : List MarkAnswer) : Marks :=
  ⟨answers.foldl MarkAnswer.applyFlag initialFlags, answers.filterMap MarkAnswer.tag?⟩

/-- Asks a store for all flags and then for all tags that actions name. -/
def ask {σ : Type} (s : Store σ) (actions : List MarkAction) (w : σ) : List MarkAnswer × σ :=
  let (flags, w) := askFlags s actions w
  let (tags, w) := askTags s actions w
  (flags ++ tags, w)

end Marks

end Postroom
