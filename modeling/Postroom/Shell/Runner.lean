import Postroom.Shell.Interpreter
import Postroom.Transport.Process

/-!
# The shell as a runner of commands

A shell works on octets, and reads a line as the octets of its text.

* `Shell.runner` — runs commands as the shell does, over the files that they leave.
-/

namespace Postroom.Shell

/-- The octets of a text, each as the character of its number. -/
def octetText (t : Text) : Text :=
  Utf8.ofLatin1 (Utf8.encode t)

/-- Runs commands in the given directories; each goes on with the files of those before it. -/
def runner (directories : List Text) : CommandRunner (List (Text × Octets)) :=
  fun line input files =>
    let inside := files.map fun f => (octetText f.1, Utf8.ofLatin1 f.2)
    match run (directories.map octetText) inside (octetText line) (Utf8.ofLatin1 input) with
    | none => (none, files)
    | some o =>
      (some ⟨o.status, Utf8.toLatin1 o.output, Utf8.toLatin1 o.errors, o.unread⟩,
        o.files.map fun f => (Utf8.decodeLossy (Utf8.toLatin1 f.1), Utf8.toLatin1 f.2))

end Postroom.Shell
