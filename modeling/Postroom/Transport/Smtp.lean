import Postroom.Coding.Base64
import Postroom.Transport.Envelope
import Postroom.Transport.Sender

/-!
# Sending over SMTP

A sender that hands messages to a mail server.  What it needs for that is made ready with the first
message that needs it, and kept: the password command runs no more once it has succeeded.

* `Smtp.Server` — the other end of the connections;
* `Smtp.Setup`, `Smtp.build` — how connections are made ready;
* `Smtp.stuff` — the octets of a message as the server gets them;
* `Smtp.converse` — what is said for one message;
* `Smtp.send`, `Smtp.sender` — the sender.
-/

namespace Postroom.Smtp

/-- An answer of a server: its number, and its lines. -/
structure Reply where
  code : Nat
  lines : List Text
deriving DecidableEq, Repr

namespace Reply

/-- The server agrees. -/
def isPositive (r : Reply) : Bool :=
  200 ≤ r.code && r.code < 400

/-- The server has a feature, in each of the given ways. -/
def offers (r : Reply) (feature : Text) (ways : List Text) : Bool :=
  r.lines.any fun line =>
    let words := Text.pieces (· == ' ') line
    words.head?.any (Text.sameName feature)
      && ways.all fun way => (words.drop 1).any (Text.sameName way)

end Reply

/-- A mail server, over a world of type `σ`. -/
structure Server (σ : Type) where
  /-- Opens a connection, on which the server greets. -/
  connect : σ → Reply × σ
  /-- Encrypts the connection, if the server is able to. -/
  secure : σ → Bool × σ
  /-- Sends a line. -/
  say : Text → σ → Reply × σ
  /-- Sends the octets of a message and the mark of their end. -/
  give : Octets → σ → Reply × σ

/-- What is set up on the near side before any connection, over a world of type `σ`.  Either step may
fail. -/
structure Setup (σ : Type) where
  /-- Sets up encryption towards a host; any certificate will do when that is asked for. -/
  encryption : Text → Bool → σ → Bool × σ
  /-- Sets up the relay at a host, on whose connections encryption is negotiated when that is asked
  for. -/
  relay : Text → Bool → σ → Bool × σ

/-- The account to use at a server. -/
structure Credentials where
  login : Text
  password : Text
deriving DecidableEq

/-- What has been made ready to send messages. -/
structure Transport where
  credentials : Option Credentials
deriving DecidableEq

variable {σ : Type}

/-- The configured account, with the password that the configured command gives. -/
def credentials (c : SmtpConfig) (runner : CommandRunner σ) (w : σ) :
    Except SmtpError (Option Credentials) × σ :=
  match c.login, c.passwordCommand with
  | none, _ => (.ok none, w)
  | some _, none => (.error .passwordEmpty, w)
  | some login, some command =>
    match Process.firstLine runner command w with
    | (.ok (some password), w) => (.ok (some ⟨login, password⟩), w)
    | (.ok none, w) => (.error .passwordEmpty, w)
    | (.error e, w) => (.error (.password e), w)

/-- Sets up encryption, unless it is switched off. -/
def setUpEncryption (c : SmtpConfig) (p : Setup σ) (w : σ) : Bool × σ :=
  if c.usesSsl then p.encryption c.host c.isInsecure w else (true, w)

/-- Sets up connections to the configured server. -/
def setUp (c : SmtpConfig) (p : Setup σ) (w : σ) : Except SmtpError Unit × σ :=
  match setUpEncryption c p w with
  | (false, w) => (.error .encryption, w)
  | (true, w) =>
    match p.relay c.host (c.usesSsl && c.usesStarttls) w with
    | (false, w) => (.error .relay, w)
    | (true, w) => (.ok (), w)

/-- Makes ready what is needed to send messages. -/
def build (c : SmtpConfig) (p : Setup σ) (runner : CommandRunner σ) (w : σ) :
    Except SmtpError Transport × σ :=
  match setUp c p w with
  | (.error e, w) => (.error e, w)
  | (.ok (), w) =>
    match credentials c runner w with
    | (.ok credentials, w) => (.ok ⟨credentials⟩, w)
    | (.error e, w) => (.error e, w)

/-! ## Messages on the wire -/

/-- Where in a line a message is being written. -/
inductive LinePlace where
  | start
  | inside
  /-- Behind a carriage return. -/
  | ending
deriving DecidableEq, Repr

/-- Doubles a dot at the start of a line, from a place on. -/
def stuffFrom : LinePlace → Octets → Octets
  | _, [] => []
  | place, b :: rest =>
    if b = 13 then b :: stuffFrom .ending rest
    else if b = 10 ∧ place = .ending then b :: stuffFrom .start rest
    else if b = 46 ∧ place = .start then b :: b :: stuffFrom .inside rest
    else b :: stuffFrom .inside rest

/-- The octets of a message as a server gets them: a dot alone on a line is the mark of the end, so
every dot at the start of a line is doubled. -/
def stuff (email : Octets) : Octets :=
  stuffFrom .start email

/-! ## The conversation -/

/-- Sends a line, which the server has to agree to. -/
def demand (s : Server σ) (line : Text) (w : σ) : Option Reply × σ :=
  let (reply, w) := s.say line w
  (if reply.isPositive then some reply else none, w)

/-- Sends lines in order as long as the server agrees. -/
def demandAll (s : Server σ) : List Text → σ → Bool × σ
  | [], w => (true, w)
  | line :: lines, w =>
    match demand s line w with
    | (some _, w) => demandAll s lines w
    | (none, w) => (false, w)

/-- How the client introduces itself. -/
def hello : Text :=
  "EHLO localhost".toList

/-- Introduces the client on a connection that is ready, which is encrypted first when that is to
be negotiated. -/
def introduce (c : SmtpConfig) (s : Server σ) (w : σ) : Option Reply × σ :=
  match demand s hello w with
  | (none, w) => (none, w)
  | (some reply, w) =>
    if c.usesSsl ∧ c.usesStarttls then
      if reply.offers "STARTTLS".toList [] then
        match demand s "STARTTLS".toList w with
        | (none, w) => (none, w)
        | (some _, w) =>
          match s.secure w with
          | (true, w) => demand s hello w
          | (false, w) => (none, w)
      else (none, w)
    else (some reply, w)

/-- Opens a connection and introduces the client; the answer tells what the server offers. -/
def openConnection (c : SmtpConfig) (s : Server σ) (w : σ) : Option Reply × σ :=
  let (greeting, w) := s.connect w
  if c.usesSsl ∧ ¬ c.usesStarttls then
    match s.secure w with
    | (true, w) => if greeting.isPositive then introduce c s w else (none, w)
    | (false, w) => (none, w)
  else if greeting.isPositive then introduce c s w
  else (none, w)

/-- The line that logs an account in. -/
def logInLine (a : Credentials) : Text :=
  "AUTH PLAIN ".toList
    ++ Base64.encode (Utf8.encode ('\x00' :: a.login ++ '\x00' :: a.password))

/-- Logs an account in, if there is one. -/
def logIn (s : Server σ) (offer : Reply) (account : Option Credentials) (w : σ) : Bool × σ :=
  match account with
  | none => (true, w)
  | some a =>
    if offer.offers "AUTH".toList ["PLAIN".toList] then demandAll s [logInLine a] w else (false, w)

/-- What a line says about addresses and octets beyond ASCII. -/
def parameters (e : Envelope) (email : Octets) : Text :=
  (if e.isInternational then " SMTPUTF8".toList else [])
    ++ if email.any (0x80 ≤ ·) then " BODY=8BITMIME".toList else []

/-- The lines before a message. -/
def envelopeLines (e : Envelope) (email : Octets) : List Text :=
  ["MAIL FROM:<".toList ++ e.author.getD [] ++ ['>'] ++ parameters e email,
   "RCPT TO:<".toList ++ e.recipient ++ ['>'],
   "DATA".toList]

/-- The server is able to take the message. -/
def isCapable (offer : Reply) (e : Envelope) (email : Octets) : Bool :=
  (!e.isInternational || offer.offers "SMTPUTF8".toList [])
    && (email.all (· < 0x80) || offer.offers "8BITMIME".toList [])

/-- Hands a message over on a connection that is ready. -/
def handOver (s : Server σ) (offer : Reply) (e : Envelope) (email : Octets) (w : σ) : Bool × σ :=
  if isCapable offer e email then
    match demandAll s (envelopeLines e email) w with
    | (false, w) => (false, w)
    | (true, w) =>
      let (reply, w) := s.give (stuff email) w
      (reply.isPositive, w)
  else (false, w)

/-- Says what there is to say for one message; the answer tells whether the server has taken it. -/
def converse (c : SmtpConfig) (s : Server σ) (t : Transport) (e : Envelope) (email : Octets)
    (w : σ) : Bool × σ :=
  match openConnection c s w with
  | (none, w) => (false, w)
  | (some offer, w) =>
    let (isIn, w) := logIn s offer t.credentials w
    let (isDone, w) := if isIn then handOver s offer e email w else (false, w)
    (isDone, (s.say "QUIT".toList w).2)

/-! ## The sender -/

/-- What is ready, or made ready now. -/
def ready (c : SmtpConfig) (p : Setup σ) (runner : CommandRunner σ) (kept : Option Transport)
    (w : σ) : Except SmtpError Transport × σ :=
  match kept with
  | some t => (.ok t, w)
  | none => build c p runner w

/-- Sends a message; what is ready is kept for the next one. -/
def send (c : SmtpConfig) (p : Setup σ) (s : Server σ) (runner : CommandRunner σ) (email : Octets)
    (recipient : Text) (kept : Option Transport) (w : σ) :
    Except SmtpError Unit × Option Transport × σ :=
  match Envelope.make email recipient with
  | .error e => (.error e, kept, w)
  | .ok envelope =>
    match ready c p runner kept w with
    | (.error e, w) => (.error e, kept, w)
    | (.ok t, w) =>
      match converse c s t envelope email w with
      | (true, w) => (.ok (), some t, w)
      | (false, w) => (.error .sending, some t, w)

/-- The sender to a server, over what is ready and the world. -/
def sender (c : SmtpConfig) (p : Setup σ) (s : Server σ) (runner : CommandRunner σ) :
    Sender (Option Transport × σ) :=
  fun email recipient (kept, w) =>
    match send c p s runner email recipient kept w with
    | (answer, kept, w) => (answer.mapError .smtp, kept, w)

end Postroom.Smtp
