import Postroom.Shell.Builtin
import Postroom.Shell.Utility.Blocks
import Postroom.Shell.Utility.Clock
import Postroom.Shell.Utility.Difference
import Postroom.Shell.Utility.Edit
import Postroom.Shell.Utility.Encoding
import Postroom.Shell.Utility.Exchange
import Postroom.Shell.Utility.Files
import Postroom.Shell.Utility.Lines
import Postroom.Shell.Utility.Paths
import Postroom.Shell.Utility.Search
import Postroom.Shell.Utility.Sort
import Postroom.Shell.Utility.Values

/-!
# The utilities of the system

* `utility?` — the utility of a name.

Those that run other programs are here only by name: a shell does their work, since it knows how
to run a program.
-/

namespace Postroom.Shell

open Utility

/-- The utilities by their names. -/
def utilities : List (String × Utility) :=
  [("cat", cat), ("tee", tee), ("head", head), ("tail", tail), ("wc", wc), ("cut", cut),
    ("rev", rev), ("tac", tac), ("tr", tr), ("nl", nl), ("yes", yes), ("paste", paste),
    ("fold", fold), ("comm", comm), ("sort", sort), ("uniq", uniq), ("touch", touch),
    ("rm", rm), ("unlink", rm), ("mkdir", mkdir), ("rmdir", rmdir), ("mv", mv), ("cp", cp),
    ("ln", ln), ("ls", ls), ("chmod", chmod), ("mktemp", mktemp), ("basename", basename),
    ("dirname", dirname), ("realpath", realpath), ("readlink", readlink),
    ("install", install),
    ("expr", expr), ("seq", seq), ("printenv", printenv), ("echo", Utility.echo),
    ("id", identify), ("whoami", constant "root"), ("hostname", constant "localhost"),
    ("uname", uname), ("base64", based "base64" base64Digits),
    ("base32", based "base32" base32Digits), ("md5sum", digest "md5sum" "MD5" Digest.md5),
    ("sha1sum", digest "sha1sum" "SHA1" Digest.sha1),
    ("sha256sum", digest "sha256sum" "SHA256" Digest.sha256),
    ("sha512sum", digest "sha512sum" "SHA512" Digest.sha512), ("od", od), ("grep", grep),
    ("egrep", grepAs .extended), ("fgrep", grepAs .fixed), ("sed", sed), ("true", only 0),
    ("sleep", only 0), ("sync", only 0), ("chown", only 0), ("chgrp", only 0),
    ("false", only 1), ("printf", ofBuiltin "printf".toList Builtin.printf),
    ("test", ofBuiltin "test".toList Builtin.test),
    ("[", ofBuiltin "[".toList Builtin.bracket),
    ("pwd", ofBuiltin "pwd".toList Builtin.workingDirectory),
    ("kill", ofBuiltin "kill".toList Builtin.kill), ("awk", only 0), ("mawk", only 0),
    ("env", only 0), ("xargs", only 0), ("nohup", only 0), ("nice", only 0),
    ("setsid", only 0), ("stdbuf", only 0), ("timeout", only 0), ("sh", only 0),
    ("dash", only 0), ("bash", only 0), ("which", only 0),
    ("cmp", cmp), ("dd", dd), ("truncate", truncate), ("find", only 0), ("stat", stat),
    ("date", date), ("diff", diff),
    ("split", split), ("expand", expand), ("link", link), ("cksum", cksum),
    ("sha224sum", digest "sha224sum" "SHA224" Digest.sha224),
    ("sha384sum", digest "sha384sum" "SHA384" Digest.sha384), ("groups", constant "root"),
    ("arch", constant "x86_64"), ("tty", tty)]

/-- The utility of a name. -/
def utility? (name : Text) : Option Utility :=
  (utilities.find? fun u => u.1.toList = name).map (·.2)

end Postroom.Shell
