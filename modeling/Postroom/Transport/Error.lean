import Postroom.Mail.Recipient
import Postroom.Mailbox.Error
import Postroom.Transport.Process

/-!
# What can go wrong on the way

The causes for which a message does not reach another account or another server, and their wording.
-/

namespace Postroom

/-- Why a server with mailboxes does not do what it is asked. -/
inductive ImapError where
  | connection
  | authentication (login owner : Text)
  | listing (name : Text)
  | appending (path : Text)
  | password (cause : ProcessError)
deriving DecidableEq, Repr

/-- The wording of the cause. -/
def ImapError.message : ImapError → Text
  | .connection => "cannot connect to imap server".toList
  | .authentication login owner =>
    "cannot authenticate to imap server as ".toList ++ login ++ " on behalf of ".toList ++ owner
  | .listing name => "cannot list mailboxes matching ".toList ++ name
  | .appending path => "cannot append message to mailbox ".toList ++ path
  | .password _ => "cannot get imap password".toList

/-- Why a message is not filed in the mailbox of another account. -/
inductive RemoteError where
  | connectorMissing (account : Text)
  | authentication (account : Text)
  | filing (folder : Text)
  | store (cause : StoreError)
  | imap (cause : ImapError)
deriving DecidableEq, Repr

/-- The wording of the cause. -/
def RemoteError.message : RemoteError → Text
  | .connectorMissing account =>
    "cannot connect to mailbox of account ".toList ++ account
      ++ ": remote delivery not configured".toList
  | .authentication account => "cannot authenticate to mailbox of account ".toList ++ account
  | .filing folder => "cannot add message to remote folder ".toList ++ folder
  | .store cause => cause.message
  | .imap cause => cause.message

/-- Why a text is no address on an envelope. -/
inductive EnvelopeFault where
  | incomplete
  | user
  | domain
deriving DecidableEq, Repr

/-- The wording of the cause. -/
def EnvelopeFault.message : EnvelopeFault → Text
  | .incomplete => "Missing domain or user".toList
  | .user => "Invalid email user".toList
  | .domain => "Invalid email domain".toList

/-- Why a server does not take a message for someone else. -/
inductive SmtpError where
  | recipient (fault : EnvelopeFault) (text : Text)
  | encryption
  | relay
  | sending
  | password (cause : ProcessError)
  | passwordEmpty
deriving DecidableEq, Repr

/-- The wording of the cause. -/
def SmtpError.message : SmtpError → Text
  | .recipient _ text => "cannot parse recipient ".toList ++ text
  | .encryption => "cannot build smtp tls parameters".toList
  | .relay => "cannot build smtp transport relay".toList
  | .sending => "cannot send email".toList
  | .password _ => "cannot get smtp password".toList
  | .passwordEmpty => "cannot get smtp password: password is empty".toList

/-- Why a message is not sent on. -/
inductive SendError where
  | senderMissing (address : Text)
  | recipient (cause : Recipient.RecipientError)
  | sendmail (cause : ProcessError)
  | smtp (cause : SmtpError)
deriving DecidableEq, Repr

/-- The wording of the cause. -/
def SendError.message : SendError → Text
  | .senderMissing address =>
    "cannot send message to ".toList ++ address ++ ": sender is not defined".toList
  | .recipient cause => cause.message
  | .sendmail _ => "cannot run sendmail command".toList
  | .smtp cause => cause.message

end Postroom
