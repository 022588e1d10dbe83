import BootManual.Text.Split

/-!
# Paths

A path is a text of names with slashes between them.  It leads from the root if it
begins with a slash, and from the working directory otherwise.  Empty names, which
come from repeated slashes, lead nowhere.
-/

namespace BootManual.Path

/-- The names in a path. -/
def names (path : Text) : List Text :=
  (Text.pieces '/' path).filter fun name => !name.isEmpty

/-- Whether a path leads from the root. -/
def isAbsolute (path : Text) : Bool :=
  Text.startsWith ['/'] path

/-- The name that stands for the directory it is looked up in. -/
def stay : Text :=
  ['.']

/-- The name that stands for the directory above. -/
def up : Text :=
  ['.', '.']

/-- The names in a path, with one that stays at the end if the path ends in a slash:
what stands in front of the slash has to be a directory. -/
def namesToOpen (path : Text) : List Text :=
  if Text.endsWith '/' path then names path ++ [stay] else names path

/-- The names that lead somewhere, each of which stands for one directory to be
created. -/
def steps (path : Text) : List Text :=
  (names path).filter fun name => name ≠ stay

/-- The path of a name inside a directory. -/
def join (directory name : Text) : Text :=
  if directory.isEmpty || Text.endsWith '/' directory then
    directory ++ name
  else
    directory ++ '/' :: name

end BootManual.Path
