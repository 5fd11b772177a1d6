import Postroom.Config.Server
import Postroom.Shell.Token
import Postroom.Transport.Error

/-!
# Senders

A sender takes a message and one recipient, whatever recipients the message itself names.

* `Sender` — what a delivery asks of a sender;
* `Sendmail.sender` — the sender that hands messages to a command.
-/

namespace Postroom

/-- Sends octets to a recipient, over a world of type `σ`. -/
abbrev Sender (σ : Type) := Octets → Text → σ → Except SendError Unit × σ

namespace Sendmail

/-- The command line for a recipient, which becomes one more word. -/
def commandLine (c : SendmailConfig) (recipient : Text) : Text :=
  c.command ++ ' ' :: Shell.quote recipient

/-- Hands messages to the configured command. -/
def sender {σ : Type} (c : SendmailConfig) (runner : CommandRunner σ) : Sender σ :=
  fun email recipient w =>
    match Process.run runner (commandLine c recipient) email w with
    | (.ok _, w) => (.ok (), w)
    | (.error e, w) => (.error (.sendmail e), w)

end Sendmail

end Postroom
