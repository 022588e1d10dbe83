import BootManual.Proofs.FileTrees

/-!
# Where paths lead

A path leads to a place by a walk through the tree, in which every name is looked up
in a directory.  The walk of a path that is joined with a plain name goes one step
further.  A walk to a directory depends on nothing but where directories are: where
all of them are kept, the path leads to the same place.
-/

namespace BootManual

namespace Path

/-- A name that leads into a directory: it is not empty, does not cut a path, and does
not stand for the directory itself or the one above. -/
structure IsPlain (name : Text) : Prop where
  nonempty : name ≠ []
  single : '/' ∉ name
  ne_stay : name ≠ stay
  ne_up : name ≠ up

variable {directory name : Text}

theorem names_append_cons (front rest : Text) :
    names (front ++ '/' :: rest) = names front ++ names rest := by
  rw [names, Text.pieces, List.splitOn_append_cons_self, List.filter_append]
  rfl

theorem IsPlain.names_eq (plain : IsPlain name) : names name = [name] := by
  rw [names, Text.pieces, List.splitOn_eq_singleton plain.single]
  simp [plain.nonempty]

theorem exists_concat_of_endsWith {letter : Char} {text : Text} (ends : Text.endsWith letter text) :
    ∃ front, text = front ++ [letter] := by
  rw [Text.endsWith, beq_iff_eq] at ends
  exact List.getLast?_eq_some_iff.mp ends

/-- Joining with a plain name adds that name. -/
theorem names_join (directory : Text) (plain : IsPlain name) :
    names (join directory name) = names directory ++ [name] := by
  rw [join]
  split
  · next closed =>
    rcases Bool.or_eq_true_iff.mp closed with empty | ends
    · rw [List.isEmpty_iff.mp empty]
      exact plain.names_eq
    · obtain ⟨front, rfl⟩ := exists_concat_of_endsWith ends
      rw [List.append_assoc, List.singleton_append, names_append_cons, names_append_cons,
        plain.names_eq]
      rw [show names [] = [] from rfl, List.append_nil]
  · rw [names_append_cons, plain.names_eq]

theorem isAbsolute_append (front rest : Text) (nonempty : front ≠ []) :
    isAbsolute (front ++ rest) = isAbsolute front := by
  obtain ⟨first, others, rfl⟩ := List.exists_cons_of_ne_nil nonempty
  rfl

theorem IsPlain.isAbsolute_eq (plain : IsPlain name) : isAbsolute name = false := by
  obtain ⟨first, others, rfl⟩ := List.exists_cons_of_ne_nil plain.nonempty
  have different : '/' ≠ first := fun same => plain.single (same ▸ List.mem_cons_self)
  simp [isAbsolute, Text.startsWith, List.isPrefixOf, different]

/-- Joining with a plain name does not change where a path begins. -/
theorem isAbsolute_join (directory : Text) (plain : IsPlain name) :
    isAbsolute (join directory name) = isAbsolute directory := by
  rcases directory with _ | ⟨first, others⟩
  · exact plain.isAbsolute_eq
  · rw [join]
    split <;> exact isAbsolute_append _ _ (List.cons_ne_nil first others)

theorem join_ne_nil (directory : Text) (plain : IsPlain name) : join directory name ≠ [] := by
  intro empty
  have added := names_join directory plain
  rw [empty] at added
  exact List.append_ne_nil_of_right_ne_nil _ (List.cons_ne_nil name []) added.symm

end Path

/-! ## Walks -/

namespace Spot

/-- A spot of a tree is its top, or a member of a directory at a spot of it. -/
inductive IsIn (root : FileTree) : Spot → Prop
  | top : IsIn root (top root)
  | enter {spot next : Spot} {name : Text} (inside : IsIn root spot)
      (entered : spot.enter? name = some next) : IsIn root next

variable {root : FileTree} {spot next : Spot} {name : Text}

theorem enter?_eq_some_iff :
    spot.enter? name = some next ↔
      ∃ below, spot.tree.member? name = some below ∧
        next = ⟨below, (name, spot.tree) :: spot.trail⟩ := by
  simp only [enter?, Option.map_eq_some_iff, @eq_comm _ next]

theorem place_of_enter? (entered : spot.enter? name = some next) :
    next.place = spot.place ++ [name] := by
  obtain ⟨below, _, rfl⟩ := enter?_eq_some_iff.mp entered
  simp [place]

theorem leave_of_enter? (entered : spot.enter? name = some next) : next.leave = spot := by
  obtain ⟨below, _, rfl⟩ := enter?_eq_some_iff.mp entered
  rfl

theorem place_leave (spot : Spot) : spot.leave.place = spot.place.dropLast := by
  obtain ⟨tree, _ | ⟨⟨name, above⟩, trail⟩⟩ := spot
  · rfl
  · simp [leave, place]

/-- What stands at a spot is what the tree has at its place. -/
theorem IsIn.at?_place (inside : spot.IsIn root) : root.at? spot.place = some spot.tree := by
  induction inside with
  | top => exact FileTree.at?_nil root
  | enter inside entered inductionHypothesis =>
      rw [place_of_enter? entered, FileTree.at?_concat inductionHypothesis]
      obtain ⟨below, known, rfl⟩ := enter?_eq_some_iff.mp entered
      exact known

theorem IsIn.leave (inside : spot.IsIn root) : spot.leave.IsIn root := by
  cases inside with
  | top => exact .top
  | enter inside entered => rwa [leave_of_enter? entered]

theorem IsIn.node?_place (inside : spot.IsIn root) (isDirectory : spot.tree.isDirectory) :
    root.node? spot.place = some .directory :=
  FileTree.node?_eq_directory_iff.mpr ⟨spot.tree, inside.at?_place, isDirectory⟩

/-- A directory at the place of a spot is the one at the spot. -/
theorem IsIn.isDirectory (inside : spot.IsIn root)
    (node : root.node? spot.place = some .directory) : spot.tree.isDirectory := by
  obtain ⟨tree, found, isDirectory⟩ := FileTree.node?_eq_directory_iff.mp node
  rw [inside.at?_place] at found
  rwa [Option.some.inj found]

end Spot

namespace FileSystem

variable {root root' : FileTree} {spot after : Spot} {name : Text}

/-- A walk along two lists of names is a walk along the first and then the second. -/
theorem walk_append (spot : Spot) (front rest : List Text) :
    walk spot (front ++ rest) = (walk spot front).bind fun between => walk between rest := by
  fun_induction walk spot front with
  | case1 spot => rfl
  | case2 spot name front closed => simp [walk, closed, Except.bind]
  | case3 spot front isOpen inductionHypothesis => simp [walk, isOpen, inductionHypothesis]
  | case4 spot front isOpen different inductionHypothesis =>
      simp [walk, isOpen, different, inductionHypothesis]
  | case5 spot name front isOpen moves down long =>
      simp [walk, isOpen, moves, down, long, Except.bind]
  | case6 spot name front isOpen moves down short missing =>
      simp [walk, isOpen, moves, down, short, missing, Except.bind]
  | case7 spot name front isOpen moves down short next entered inductionHypothesis =>
      simp [walk, isOpen, moves, down, short, entered, inductionHypothesis]

/-- A step that neither stays nor goes up enters a member of a directory. -/
theorem walk_singleton_eq_ok_iff (moves : name ≠ Path.stay) (down : name ≠ Path.up) :
    walk spot [name] = .ok after ↔
      spot.tree.isDirectory ∧ Utf8.size name ≤ longestName ∧ spot.enter? name = some after := by
  rw [walk, if_neg moves, if_neg down]
  cases spot.tree.isDirectory with
  | false => simp
  | true =>
      by_cases long : longestName < Utf8.size name
      · simp [long, Nat.not_le_of_lt long]
      · cases entered : spot.enter? name <;> simp [long, walk, Nat.le_of_not_lt long]

theorem isIn_of_walk {names : List Text} (inside : spot.IsIn root)
    (walked : walk spot names = .ok after) : after.IsIn root := by
  fun_induction walk spot names with
  | case1 spot => exact Except.ok.inj walked ▸ inside
  | case2 => contradiction
  | case3 spot rest _ inductionHypothesis =>
      exact inductionHypothesis inside walked
  | case4 spot rest _ _ inductionHypothesis =>
      exact inductionHypothesis inside.leave walked
  | case5 => contradiction
  | case6 => contradiction
  | case7 spot name rest _ _ _ _ next entered inductionHypothesis =>
      exact inductionHypothesis (.enter inside entered) walked

/-- A walk that goes on, or ends in a directory, begins in one. -/
theorem isDirectory_of_walk {names : List Text} (walked : walk spot names = .ok after)
    (isDirectory : after.tree.isDirectory) : spot.tree.isDirectory := by
  cases names with
  | nil => exact Except.ok.inj walked ▸ isDirectory
  | cons name rest =>
      rw [walk] at walked
      split at walked
      · contradiction
      · next known => simpa using known

section Kept

variable {spot' : Spot}
  (kept : ∀ place, root.node? place = some .directory → root'.node? place = some .directory)
  (inside : spot.IsIn root) (inside' : spot'.IsIn root') (same : spot'.place = spot.place)

include kept inside inside' same

theorem isDirectory_of_kept (isDirectory : spot.tree.isDirectory) : spot'.tree.isDirectory :=
  inside'.isDirectory (same ▸ kept _ (inside.node?_place isDirectory))

/-- Where every directory of one tree is kept in another one, a walk to a directory of
the first leads to the same place in the second. -/
theorem exists_walk_of_kept {names : List Text} (walked : walk spot names = .ok after)
    (isDirectory : after.tree.isDirectory) :
    ∃ after', walk spot' names = .ok after' ∧ after'.place = after.place := by
  -- The second walk takes the same step as the first one as long as it stands in a
  -- directory, which is why both the start and every later spot have to be kept.
  have begins := isDirectory_of_kept kept inside inside' same
    (isDirectory_of_walk walked isDirectory)
  fun_induction walk spot names generalizing spot' with
  | case1 spot =>
      obtain rfl := Except.ok.inj walked
      exact ⟨spot', rfl, same⟩
  | case2 => contradiction
  | case3 spot rest _ inductionHypothesis =>
      obtain ⟨after', walked', place⟩ := inductionHypothesis inside inside' same walked begins
      refine ⟨after', ?_, place⟩
      rw [walk, if_neg (by simp [begins]), if_pos rfl, walked']
  | case4 spot rest _ different inductionHypothesis =>
      have sameAbove : spot'.leave.place = spot.leave.place := by
        rw [Spot.place_leave, Spot.place_leave, same]
      have above := isDirectory_of_kept kept inside.leave inside'.leave sameAbove
        (isDirectory_of_walk walked isDirectory)
      obtain ⟨after', walked', place⟩ :=
        inductionHypothesis inside.leave inside'.leave sameAbove walked above
      refine ⟨after', ?_, place⟩
      rw [walk, if_neg (by simp [begins]), if_neg different, if_pos rfl, walked']
  | case5 => contradiction
  | case6 => contradiction
  | case7 spot name rest _ stays leaves short next entered inductionHypothesis =>
      -- The member that is entered is a directory, so the other tree has one there too.
      have nextInside := inside.enter entered
      have node := kept _ (nextInside.node?_place (isDirectory_of_walk walked isDirectory))
      obtain ⟨below, found, below_isDirectory⟩ := FileTree.node?_eq_directory_iff.mp node
      rw [Spot.place_of_enter? entered, ← same, FileTree.at?_concat inside'.at?_place] at found
      have entered' : spot'.enter? name = some ⟨below, (name, spot'.tree) :: spot'.trail⟩ :=
        Spot.enter?_eq_some_iff.mpr ⟨below, found, rfl⟩
      have sameNext := Spot.place_of_enter? entered'
      rw [same, ← Spot.place_of_enter? entered] at sameNext
      obtain ⟨after', walked', place⟩ :=
        inductionHypothesis nextInside (inside'.enter entered') sameNext walked below_isDirectory
      refine ⟨after', ?_, place⟩
      rw [walk, if_neg (by simp [begins]), if_neg stays, if_neg leaves, if_neg short, entered']
      exact walked'

end Kept

end FileSystem

end BootManual
