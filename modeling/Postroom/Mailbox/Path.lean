import Postroom.Text.Blank

/-!
# Folder paths

A path names a folder by the segments from the root down.  `Path.split` reads any text as such a
list and is forgiving: blanks around a segment and empty segments do not count.  `Path.join` writes
a list of segments in the one normal form, `/Work/Projects`, with `/` for the root.
-/

namespace Postroom.Path

/-- The character between the segments of a path. -/
def delimiter : Char := '/'

/-- The segments of a path: trimmed, without the blank ones. -/
def split (path : Text) : List Text :=
  ((Text.pieces (· == delimiter) path).map Text.trim).filter fun segment => !segment.isEmpty

/-- A delimiter in front of each segment. -/
def prefixed (segments : List Text) : Text :=
  segments.flatMap (delimiter :: ·)

/-- The path of a list of segments; the path of no segment is the root. -/
def join (segments : List Text) : Text :=
  if segments.isEmpty then [delimiter] else prefixed segments

@[simp] theorem join_nil : join [] = ['/'] := rfl

theorem join_cons (s : Text) (ss : List Text) :
    join (s :: ss) = '/' :: s ++ prefixed ss := by
  simp [join, prefixed, delimiter]

/-- The segments of a path that still have to be found, as one relative path. -/
def relative (segments : List Text) : Text :=
  Text.join [delimiter] segments

end Postroom.Path
