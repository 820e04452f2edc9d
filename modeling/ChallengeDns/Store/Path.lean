import ChallengeDns.Text.Basic
/-!
# Paths

Paths of files as they are shown: without empty and `.` components.  Two slashes in front are a root
of their own; any other number is one slash.
-/

namespace ChallengeDns.Path

/-- The root in front of a path: none, one slash, or exactly two. -/
def root (t : Text) : Text :=
  let slashes := t.takeWhile (· = .scalar '/')
  if slashes.length = 2 then "//" else if slashes.isEmpty then "" else "/"

def components (t : Text) : List Text :=
  (t.splitAt '/').filter fun c => !c.isEmpty && c != ("." : Text)

/-- A path as it is shown. -/
def shown (t : Text) : Text :=
  let path := root t ++ Text.join "/" (components t)
  if path.isEmpty then "." else path

def folder (t : Text) : Text :=
  let path := root t ++ Text.join "/" (components t).dropLast
  if path.isEmpty then "." else path

/-- What stands behind the last dot of a path's last component, with the dot.  A dot in front of the
component or at its end does not count. -/
def suffix (t : Text) : Text :=
  let name := (components t).getLast?.getD []
  let behind := name.reverse.takeWhile (· ≠ .scalar '.')
  if behind.length = name.length || behind.isEmpty || behind.length + 1 = name.length then []
  else .scalar '.' :: behind.reverse

end ChallengeDns.Path
