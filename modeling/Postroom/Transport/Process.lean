import Postroom.Text.Blank
import Postroom.Text.Quoted
import Postroom.Text.Utf8

/-!
# Commands of the system

Mail is handed to commands, and passwords come from them.  What a command does is the business of a
`CommandRunner` over a world of type `σ`; here is what counts as success, and what is reported of a
failure.

* `Process.run` — runs a command on an input;
* `Process.firstLine` — the first line of what a command writes.
-/

namespace Postroom

/-- What is left of a command that has ended: its status, unless it was killed, what it wrote, and
how many octets of its input it left unread. -/
structure Completion where
  status : Option Nat
  output : Octets
  errors : Octets
  unread : Nat
deriving DecidableEq, Repr

/-- Runs a command line on an input; there is no completion when it cannot be started. -/
abbrev CommandRunner (σ : Type) := Text → Octets → σ → Option Completion × σ

/-- Why a command did not do what it was run for. -/
inductive ProcessError where
  | notStarted (command : Text)
  | inputRefused
  | failed (command : Text) (status : Int) (complaints : Text)
  | outputNotText
deriving DecidableEq, Repr

/-- The wording of the cause. -/
def ProcessError.message : ProcessError → Text
  | .notStarted command => "cannot spawn process for command ".toList ++ Text.quoted command
  | .inputRefused => "cannot write data to standard input".toList
  | .failed command status complaints =>
    "command ".toList ++ Text.quoted command ++ " exited with status ".toList
      ++ Text.ofInt status ++ ": ".toList ++ complaints
  | .outputNotText => "cannot parse command output".toList

namespace Process

/-- How many octets a command can be given before it reads any. -/
def pipeCapacity : Nat := 65536

/-- The status that is reported of a command that was killed. -/
def killedStatus : Int := -1

/-- What a completed command has written, or why it failed.  A failure is reported even when the
command did not take its input. -/
def judge (command : Text) (c : Completion) : Except ProcessError Octets :=
  match c.status with
  | some 0 => if pipeCapacity < c.unread then .error .inputRefused else .ok c.output
  | status =>
    .error (.failed command (status.elim killedStatus (fun n => (n : Int)))
      (Text.trim (Utf8.decodeLossy c.errors)))

/-- Runs a command on an input. -/
def run {σ : Type} (runner : CommandRunner σ) (command : Text) (input : Octets) (w : σ) :
    Except ProcessError Octets × σ :=
  match runner command input w with
  | (none, w) => (.error (.notStarted command), w)
  | (some c, w) => (judge command c, w)

/-- The first line of an output, unless it is empty. -/
def firstLineOf (output : Octets) : Except ProcessError (Option Text) :=
  match Utf8.decode? output with
  | none => .error .outputNotText
  | some t => .ok ((Text.lines t).head?.filter fun line => !line.isEmpty)

/-- Runs a command without input and gives the first line of its output, unless that is empty. -/
def firstLine {σ : Type} (runner : CommandRunner σ) (command : Text) (w : σ) :
    Except ProcessError (Option Text) × σ :=
  match run runner command [] w with
  | (.ok output, w) => (firstLineOf output, w)
  | (.error e, w) => (.error e, w)

end Process

end Postroom
