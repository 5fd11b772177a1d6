import Postroom.Config.Value
import Postroom.Mailbox.Folder

/-!
# Server configuration

How to reach the programs and servers that take mail.

* `SendmailConfig` — a command;
* `SmtpConfig` — a server that takes mail for others;
* `ImapConfig` — the server with the mailboxes that mountpoints lead to; `ImapConfig.mount?` tells
  the mailbox of a folder.
-/

namespace Postroom

open Config

/-- A command that sends mail. -/
structure SendmailConfig where
  command : Text
deriving DecidableEq, Repr

namespace SendmailConfig

/-- The command that is used when none is configured. -/
def standard : SendmailConfig :=
  ⟨"/usr/sbin/sendmail -i --".toList⟩

/-- The configuration that a value describes. -/
def ofValue? (v : Value) : Option SendmailConfig :=
  match v.slots? ["cmd"] 0 with
  | some [command] => (Slot.text? command).map fun command => ⟨command⟩
  | _ => none

end SendmailConfig

/-- Where a server is and how connections to it are secured. -/
structure ServerConfig where
  host : Text
  port : UInt16
  ssl : Option Bool
  starttls : Option Bool
  insecure : Option Bool
deriving DecidableEq, Repr

namespace ServerConfig

/-- Connections are encrypted, unless that is switched off. -/
def usesSsl (c : ServerConfig) : Bool :=
  c.ssl.getD true

/-- Encryption is negotiated within a connection. -/
def usesStarttls (c : ServerConfig) : Bool :=
  c.starttls.getD false

/-- Any certificate is trusted. -/
def isInsecure (c : ServerConfig) : Bool :=
  c.insecure.getD false

/-- The configuration that five fields describe. -/
def ofSlots? (host port ssl starttls insecure : Slot) : Option ServerConfig := do
  let host ← Slot.text? host
  let port ← Slot.port? port
  let ssl ← Slot.optionalBool? ssl
  let starttls ← Slot.optionalBool? starttls
  let insecure ← Slot.optionalBool? insecure
  return ⟨host, port, ssl, starttls, insecure⟩

end ServerConfig

/-- A server that takes mail for others, and the account to use there. -/
structure SmtpConfig extends ServerConfig where
  login : Option Text
  passwordCommand : Option Text
deriving DecidableEq, Repr

/-- The configuration that a value describes. -/
def SmtpConfig.ofValue? (v : Value) : Option SmtpConfig :=
  match v.slots? ["host", "port", "ssl", "starttls", "insecure", "login", "passwd-cmd"] 0 with
  | some [host, port, ssl, starttls, insecure, login, command] => do
    let server ← ServerConfig.ofSlots? host port ssl starttls insecure
    let login ← Slot.optionalText? login
    let command ← Slot.optionalText? command
    return { server with login, passwordCommand := command }
  | _ => none

/-- The server with the mailboxes of other accounts, the account that acts for their owners, and the
mailbox of each folder that can be mounted. -/
structure ImapConfig extends ServerConfig where
  login : Text
  passwordCommand : Option Text
  mounts : List (Text × Text)
deriving DecidableEq, Repr

namespace ImapConfig

/-- The configuration that a value describes. -/
def ofValue? (v : Value) : Option ImapConfig :=
  match v.slots?
      ["host", "port", "ssl", "starttls", "insecure", "login", "passwd-cmd", "mounts"] 1 with
  | some [host, port, ssl, starttls, insecure, login, command, mounts] => do
    let server ← ServerConfig.ofSlots? host port ssl starttls insecure
    let login ← Slot.text? login
    let command ← Slot.optionalText? command
    let mounts ← Slot.table? mounts
    return { server with login, passwordCommand := command, mounts }
  | _ => none

/-- The name of the mailbox that is mounted for a folder. -/
def mount? (c : ImapConfig) (item : ItemId) : Option Text :=
  c.mounts.lookup item.render

end ImapConfig

end Postroom
