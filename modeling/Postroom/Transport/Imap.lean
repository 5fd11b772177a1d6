import Postroom.Coding.MailboxName
import Postroom.Config.Server
import Postroom.Mailbox.Path
import Postroom.Transport.Remote

/-!
# Remote mailboxes over IMAP

A connector that reaches the mailboxes of other accounts through a mail server.  A trusted account
logs in on behalf of the owner, mailboxes are looked up by their exact names, and messages are
appended to them.

* `Imap.Server` — the other end of the connections;
* `Imap.mailboxName` — the mailbox at a path below a folder;
* `Imap.findMailbox` — looks a mailbox up;
* `Imap.connector` — the connector.
-/

namespace Postroom.Imap

/-- A mail server, over a world of type `σ`.  A server answers with lines; it has closed the
connection when lines are missing. -/
structure Server (σ : Type) where
  /-- Opens a connection; the answer is what the server says at once. -/
  connect : σ → List Text × σ
  /-- Encrypts the connection, if the server is able to. -/
  secure : σ → Bool × σ
  /-- Sends a line. -/
  say : Text → σ → List Text × σ
  /-- Sends octets that the server has asked for, and the end of their line. -/
  give : Octets → σ → List Text × σ

/-- A session with a server: how many commands have been sent. -/
structure Session where
  commands : Nat
deriving DecidableEq, Repr

/-- What the `n`-th command begins with. -/
def tag (n : Nat) : Text :=
  'a' :: Text.ofNat n

/-! ## Answers -/

/-- The line reports success. -/
def isSuccess (status : Text) : Bool :=
  (Text.pieces (· == ' ') status).head?.any (Text.sameName "OK".toList)

/-- The lines before the one that completes a command, if the command succeeds. -/
def completion? (tag : Text) : List Text → Option (List Text)
  | [] => none
  | line :: rest =>
    match Text.stripFront (tag ++ [' ']) line with
    | some status => if isSuccess status then some [] else none
    | none => (completion? tag rest).map (line :: ·)

/-- The first line that is no remark of the server. -/
def firstReply? (lines : List Text) : Option Text :=
  lines.find? fun line => (Text.stripFront ['*', ' '] line).isNone

/-- The line asks for more. -/
def asksForMore (line : Text) : Bool :=
  line.head? = some '+'

/-- A mailbox as a server lists it. -/
structure Listed where
  name : Text
  delimiter : Option Text
deriving DecidableEq, Repr

/-- What a quotation mark has opened, and what follows the one that closes it.  A backslash keeps
the character behind it from closing. -/
def quotedFrom (read : Text) : Text → Option (Text × Text)
  | [] => none
  | '"' :: rest => some (read, rest)
  | '\\' :: c :: rest => quotedFrom (read ++ ['\\', c]) rest
  | c :: rest => quotedFrom (read ++ [c]) rest

/-- A quoted text, and what follows it. -/
def quoted? : Text → Option (Text × Text)
  | '"' :: rest => quotedFrom [] rest
  | _ => none

/-- The delimiter of a listed mailbox, which may have none, and what follows. -/
def delimiter? (t : Text) : Option (Option Text × Text) :=
  match quoted? t with
  | some (d, rest) => some (some d, rest)
  | none => (Text.stripFront "NIL".toList t).map fun rest => (none, rest)

/-- The name of a listed mailbox, up to the end of the line. -/
def listedName? (t : Text) : Option Text :=
  match t with
  | '"' :: rest =>
    match quotedFrom [] rest with
    | some (name, []) => some name
    | _ => none
  | _ => if t.isEmpty ∨ t.any (fun c => c = ' ' ∨ c = '"' ∨ c = '(' ∨ c = '{') then none else some t

/-- The mailbox that arrives is known by one name, however it is spelled. -/
def normalName (name : Text) : Text :=
  if Text.sameName name "INBOX".toList then "INBOX".toList else name

/-- The mailbox that a line lists, behind the word for it. -/
def listed? (t : Text) : Option Listed := do
  let (_, rest) ← Text.splitAtInfix [')', ' '] t
  let (delimiter, rest) ← delimiter? rest
  let rest ← Text.stripFront [' '] rest
  let name ← listedName? rest
  return ⟨normalName name, delimiter⟩

/-- The mailboxes that an answer lists, unless one of them cannot be read. -/
def listing? (lines : List Text) : Option (List Listed) :=
  (lines.filterMap fun line => Text.stripFront "* LIST (".toList line).mapM listed?

/-! ## Requests -/

variable {σ : Type}

/-- Sends a command. -/
def command (s : Server σ) (t : Text) (session : Session) (w : σ) : List Text × Session × σ :=
  let n := session.commands + 1
  let (lines, w) := s.say (tag n ++ ' ' :: t) w
  (lines, ⟨n⟩, w)

/-- The password of the trusted account: what the configured command gives, or the token. -/
def password (c : ImapConfig) (runner : CommandRunner σ) (token : AuthToken) (w : σ) :
    Except ImapError Text × σ :=
  match c.passwordCommand with
  | none => (.ok token.secret, w)
  | some command =>
    match Process.firstLine runner command w with
    | (.ok line, w) => (.ok (line.getD token.secret), w)
    | (.error e, w) => (.error (.password e), w)

/-- Makes the connection ready for a login: the server has to greet, and to encrypt the connection
if that is configured. -/
def openConnection (c : ImapConfig) (s : Server σ) (w : σ) : Bool × σ :=
  let (greeting, w) := s.connect w
  if c.usesStarttls then
    if greeting.isEmpty then (false, w)
    else
      let (lines, _, w) := command s "STARTTLS".toList ⟨0⟩ w
      if (completion? (tag 1) lines).isNone then (false, w)
      else if c.usesSsl then s.secure w
      else (true, w)
  else if c.usesSsl then
    match s.secure w with
    | (true, w) => (!greeting.isEmpty, w)
    | (false, w) => (false, w)
  else (!greeting.isEmpty, w)

/-- The credentials of an account that acts on behalf of an owner. -/
def credentials (owner login password : Text) : Text :=
  Base64.encode (Utf8.encode (owner ++ '\x00' :: login ++ '\x00' :: password))

/-- Logs in on behalf of an owner. -/
def logIn (s : Server σ) (owner login password : Text) (w : σ) : Option Session × σ :=
  let (lines, session, w) := command s "AUTHENTICATE PLAIN".toList ⟨0⟩ w
  if (firstReply? lines).any asksForMore then
    let (lines, w) := s.say (credentials owner login password) w
    (if (completion? (tag 1) lines).isSome then some session else none, w)
  else
    (if (completion? (tag 1) lines).isSome then some session else none, w)

/-- Opens a session on behalf of an owner. -/
def connect (c : ImapConfig) (s : Server σ) (runner : CommandRunner σ) (token : AuthToken)
    (owner : Text) (w : σ) : Except ImapError Session × σ :=
  match openConnection c s w with
  | (false, w) => (.error .connection, w)
  | (true, w) =>
    match password c runner token w with
    | (.error e, w) => (.error e, w)
    | (.ok password, w) =>
      match logIn s owner c.login password w with
      | (some session, w) => (.ok session, w)
      | (none, w) => (.error (.authentication c.login owner), w)

/-- The command that lists the mailboxes of an encoded name. -/
def listCommand (encoded : Text) : Text :=
  "LIST \"\" ".toList ++ encoded

/-- The folder that an answer lists under an encoded name, whatever else it lists. -/
def pick (encoded : Text) (mailboxes : List Listed) : Option RemoteFolder :=
  (mailboxes.find? (·.name == encoded)).map fun m =>
    ⟨m.name, MailboxName.decode m.name, m.delimiter.getD []⟩

/-- Looks up the mailbox of a name. -/
def findMailbox (s : Server σ) (name : Text) (session : Session) (w : σ) :
    Except ImapError (Option RemoteFolder) × Session × σ :=
  let encoded := MailboxName.encode name
  let (lines, session, w) := command s (listCommand encoded) session w
  match (completion? (tag session.commands) lines).bind listing? with
  | some mailboxes => (.ok (pick encoded mailboxes), session, w)
  | none => (.error (.listing name), session, w)

/-- Looks up the mailbox that is mounted for a folder. -/
def findMounted (c : ImapConfig) (s : Server σ) (item : ItemId) (session : Session) (w : σ) :
    Except ImapError (Option RemoteFolder) × Session × σ :=
  match c.mount? item with
  | some name => findMailbox s name session w
  | none => (.ok none, session, w)

/-- What stands between the names of a mailbox below the given one. -/
def delimiterOf (parent : RemoteFolder) : Text :=
  if parent.delimiter.isEmpty then [Path.delimiter] else parent.delimiter

/-- The name of the mailbox at a path below a folder. -/
def mailboxName (parent : RemoteFolder) (path : Text) : Text :=
  parent.path ++ (Path.split path).flatMap (delimiterOf parent ++ ·)

/-- The command that appends a message of a size to a mailbox, with flags. -/
def appendCommand (folder : RemoteFolder) (flags : List TransportFlag) (size : Nat) : Text :=
  "APPEND \"".toList ++ folder.id ++ ['"', ' ', '(']
    ++ Text.join [' '] (flags.map TransportFlag.wire) ++ [')', ' ', '{'] ++ Text.ofNat size ++ ['}']

/-- Appends a message to a mailbox. -/
def append (s : Server σ) (folder : RemoteFolder) (flags : List TransportFlag) (raw : Octets)
    (session : Session) (w : σ) : Except ImapError Unit × Session × σ :=
  let (lines, session, w) := command s (appendCommand folder flags raw.length) session w
  if lines.head?.any asksForMore then
    let (lines, w) := s.give raw w
    if (completion? (tag session.commands) lines).isSome then (.ok (), session, w)
    else (.error (.appending folder.path), session, w)
  else (.error (.appending folder.path), session, w)

/-- Ends a session. -/
def logOut (s : Server σ) (session : Session) (w : σ) : σ :=
  (command s "LOGOUT".toList session w).2.2

/-- The connector to the mailboxes of a server. -/
def connector (c : ImapConfig) (s : Server σ) (runner : CommandRunner σ) : Connector σ Session where
  connect := fun token owner w =>
    match connect c s runner token owner w with
    | (answer, w) => (answer.mapError .imap, w)
  folder := fun item session w =>
    match findMounted c s item session w with
    | (answer, session, w) => (answer.mapError .imap, session, w)
  subfolder := fun parent path session w =>
    match findMailbox s (mailboxName parent path) session w with
    | (answer, session, w) => (answer.mapError .imap, session, w)
  append := fun folder flags raw session w =>
    match append s folder flags raw session w with
    | (answer, session, w) => (answer.mapError .imap, session, w)
  close := logOut s

end Postroom.Imap
