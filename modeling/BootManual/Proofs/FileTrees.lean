import BootManual.FileSystem
import Mathlib.Logic.Function.Basic

/-!
# What stands where in a tree

A tree is seen through what stands at its places.  Putting a file or an empty
directory into a directory changes what stands at one place and nowhere else, as
long as nothing stood below that place before.
-/

namespace BootManual

namespace FileTree

variable {root parent : FileTree}

/-- What stands at a place. -/
def node? (tree : FileTree) (place : Place) : Option FileNode :=
  (tree.at? place).map top

/-- Nothing stands below the top of the tree. -/
def IsLeaf (tree : FileTree) : Prop :=
  ∀ name, tree.member? name = none

theorem isLeaf_file (content : List UInt8) : (file content).IsLeaf :=
  fun _ => rfl

theorem isLeaf_directory_nil : (directory []).IsLeaf :=
  fun _ => rfl

theorem isLeaf_of_isDirectory_eq_false {tree : FileTree} (plain : tree.isDirectory = false) :
    tree.IsLeaf := by
  cases tree with
  | file content => exact isLeaf_file content
  | directory members => contradiction

theorem isDirectory_iff_top {tree : FileTree} : tree.isDirectory ↔ tree.top = .directory := by
  cases tree <;> simp [isDirectory, top]

theorem at?_cons (members : List (Text × FileTree)) (name : Text) (place : Place) :
    (directory members).at? (name :: place) =
      (members.lookup name).bind fun below => below.at? place := by
  rw [at?, member?]
  cases members.lookup name <;> rfl

theorem at?_append (tree : FileTree) (front rest : Place) :
    tree.at? (front ++ rest) = (tree.at? front).bind fun below => below.at? rest := by
  induction front generalizing tree with
  | nil => rw [List.nil_append, at?_nil, Option.bind_some]
  | cons name front inductionHypothesis =>
      cases tree with
      | file content => rfl
      | directory members =>
          rw [List.cons_append, at?_cons, at?_cons, Option.bind_assoc]
          simp only [inductionHypothesis]

theorem at?_concat (found : root.at? place = some parent) (name : Text) :
    root.at? (place ++ [name]) = parent.member? name := by
  rw [at?_append, found, Option.bind_some, at?]
  cases parent.member? name with
  | none => rfl
  | some below => exact at?_nil below

@[simp]
theorem node?_nil (tree : FileTree) : tree.node? [] = some tree.top := by
  rw [node?, at?_nil, Option.map_some]

theorem node?_cons (members : List (Text × FileTree)) (name : Text) (place : Place) :
    (directory members).node? (name :: place) =
      (members.lookup name).bind fun below => below.node? place := by
  rw [node?, at?_cons, Option.map_bind]
  rfl

theorem node?_eq_directory_iff {tree : FileTree} {place : Place} :
    tree.node? place = some .directory ↔ ∃ below, tree.at? place = some below ∧ below.isDirectory := by
  simp only [node?, Option.map_eq_some_iff, isDirectory_iff_top]

theorem IsLeaf.node?_cons {tree : FileTree} (leaf : tree.IsLeaf) (name : Text) (place : Place) :
    tree.node? (name :: place) = none := by
  rw [node?, at?, leaf name]
  rfl

/-! ## Putting -/

theorem put_singleton (members : List (Text × FileTree)) (name : Text) (added : FileTree) :
    (directory members).put [name] added = directory (putMember name added members) := by
  rw [put]
  cases members.lookup name <;> rfl

theorem put_cons_of_lookup {members : List (Text × FileTree)} {name : Text} {below : FileTree}
    (found : members.lookup name = some below) (place : Place) (added : FileTree) :
    (directory members).put (name :: place) added =
      directory (putMember name (below.put place added) members) := by
  rw [put, found]

/-- What stands in a directory once a member has been put into it. -/
theorem node?_putMember (name : Text) (tree : FileTree) (members : List (Text × FileTree))
    (other : Text) (place : Place) :
    (directory (putMember name tree members)).node? (other :: place) =
      if other = name then tree.node? place else (directory members).node? (other :: place) := by
  rw [node?_cons, lookup_putMember, node?_cons]
  split <;> rfl

/-- Putting a leaf into a directory, where nothing or a leaf stood, changes what stands
at one place. -/
theorem node?_put {place : Place} {name : Text} {added : FileTree}
    (found : root.at? place = some parent) (isDirectory : parent.isDirectory)
    (shallow : ∀ below ∈ parent.member? name, below.IsLeaf) (leaf : added.IsLeaf) :
    (root.put (place ++ [name]) added).node? =
      Function.update root.node? (place ++ [name]) (some added.top) := by
  induction place generalizing root with
  | nil =>
      obtain rfl : root = parent := Option.some.inj ((at?_nil root).symm.trans found)
      cases root with
      | file content => contradiction
      | directory members =>
          rw [List.nil_append, put_singleton]
          funext other
          rcases other with _ | ⟨first, rest⟩
          · rfl
          · rw [node?_putMember]
            by_cases same : first = name
            · subst same
              rw [if_pos rfl]
              -- Below the new leaf there is nothing, and there was nothing before.
              rcases rest with _ | ⟨next, rest⟩
              · rw [node?_nil, Function.update_self]
              · have empty : (directory members).node? (first :: next :: rest) = none := by
                  rw [node?_cons]
                  cases known : members.lookup first with
                  | none => rfl
                  | some below => exact (shallow below known).node?_cons next rest
                rw [leaf.node?_cons, Function.update_of_ne (by simp), empty]
            · rw [if_neg same, Function.update_of_ne (by simp [same])]
  | cons head place inductionHypothesis =>
      cases root with
      | file content => contradiction
      | directory members =>
          rw [at?_cons, Option.bind_eq_some_iff] at found
          obtain ⟨below, known, found⟩ := found
          rw [List.cons_append, put_cons_of_lookup known]
          funext other
          rcases other with _ | ⟨first, rest⟩
          · rfl
          · rw [node?_putMember]
            by_cases same : first = head
            · subst same
              rw [if_pos rfl, inductionHypothesis found]
              by_cases here : rest = place ++ [name]
              · rw [here, Function.update_self, Function.update_self]
              · rw [Function.update_of_ne here, Function.update_of_ne (by simpa using here),
                  node?_cons, known, Option.bind_some]
            · rw [if_neg same, Function.update_of_ne (by simp [same])]

end FileTree

end BootManual
