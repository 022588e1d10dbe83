import BootManual.Text.Blank

/-!
# Trees of files

A directory holds members by name, each of which is a file or a directory again.  A
place is given by the names on the way to it.  A spot is a place that has been
reached: it knows what stands there and every directory on the way, so that one can
step back from it.
-/

namespace BootManual

/-- A place in a tree: the names on the way from its top. -/
abbrev Place := List Text

/-- What can stand at a place. -/
inductive FileNode where
  | directory
  | file (content : List UInt8)
  deriving DecidableEq, Repr

/-- A file, or a directory with its members. -/
inductive FileTree where
  | file (content : List UInt8)
  | directory (members : List (Text × FileTree))
  deriving Repr

namespace FileTree

/-- What stands at the top of a tree. -/
def top : FileTree → FileNode
  | file content => .file content
  | directory _ => .directory

/-- Whether a tree is a directory. -/
def isDirectory : FileTree → Bool
  | file _ => false
  | directory _ => true

/-- The member of a directory with a name. -/
def member? (name : Text) : FileTree → Option FileTree
  | file _ => none
  | directory members => members.lookup name

/-- The tree at a place. -/
def at? : FileTree → Place → Option FileTree
  | tree, [] => some tree
  | tree, name :: place =>
    match tree.member? name with
    | some below => below.at? place
    | none => none

/-- The members with a tree under a name, in place of the one that had it. -/
def putMember (name : Text) (tree : FileTree) :
    List (Text × FileTree) → List (Text × FileTree)
  | [] => [(name, tree)]
  | known :: rest =>
    if known.1 = name then (name, tree) :: rest else known :: putMember name tree rest

/-- The tree with another one at a place.  The directories that lead to the place
have to be there; otherwise nothing changes. -/
def put : FileTree → Place → FileTree → FileTree
  | _, [], added => added
  | file content, _ :: _, _ => file content
  | directory members, name :: place, added =>
    match members.lookup name with
    | some below => directory (putMember name (below.put place added) members)
    | none =>
      if place.isEmpty then directory (putMember name added members) else directory members

mutual

/-- The files and the empty directories of a tree, with their places. -/
def leaves : FileTree → List (Place × FileNode)
  | file content => [([], .file content)]
  | directory [] => [([], .directory)]
  | directory members => leavesOfMembers members

/-- The files and the empty directories of the members of a directory. -/
def leavesOfMembers : List (Text × FileTree) → List (Place × FileNode)
  | [] => []
  | (name, tree) :: rest =>
    (leaves tree).map (fun leaf => (name :: leaf.1, leaf.2)) ++ leavesOfMembers rest

end

@[simp]
theorem at?_nil (tree : FileTree) : tree.at? [] = some tree := by
  cases tree <;> rfl

theorem lookup_putMember (name other : Text) (tree : FileTree)
    (members : List (Text × FileTree)) :
    (putMember name tree members).lookup other =
      if other = name then some tree else members.lookup other := by
  induction members with
  | nil =>
    by_cases same : other = name
    · simp [putMember, same]
    · have different : (other == name) = false := by simpa using same
      simp [putMember, List.lookup_cons, same, different]
  | cons known rest inductionHypothesis =>
    obtain ⟨first, below⟩ := known
    rw [putMember]
    split
    · next taken =>
      obtain rfl : first = name := taken
      by_cases same : other = first
      · simp [same]
      · have different : (other == first) = false := by simpa using same
        simp [List.lookup_cons, same, different]
    · next taken =>
      have free : first ≠ name := taken
      by_cases same : other = first
      · subst same
        simp [free]
      · have different : (other == first) = false := by simpa using same
        simp [List.lookup_cons, different, inductionHypothesis]

end FileTree

/-- A place in a tree that has been reached. -/
structure Spot where
  /-- What stands there. -/
  tree : FileTree
  /-- The names on the way, the last one first, each with the directory in which it
  was looked up. -/
  trail : List (Text × FileTree)

namespace Spot

/-- The top of a tree. -/
def top (tree : FileTree) : Spot :=
  ⟨tree, []⟩

/-- The place of a spot. -/
def place (spot : Spot) : Place :=
  (spot.trail.map Prod.fst).reverse

/-- The member with a name. -/
def enter? (spot : Spot) (name : Text) : Option Spot :=
  (spot.tree.member? name).map fun below => ⟨below, (name, spot.tree) :: spot.trail⟩

/-- The directory above.  Above the top there is only the top. -/
def leave (spot : Spot) : Spot :=
  match spot.trail with
  | [] => spot
  | (_, above) :: trail => ⟨above, trail⟩

end Spot

end BootManual
