import BootManual.Proofs.Paths
import BootManual.Proofs.Steps

/-!
# What operations on files change

An operation that succeeds keeps every directory and every file except the one that
it writes.  So one says of several operations in a row only which documents they
wrote, in which order: the last one written at a place is the one that stands there.
-/

namespace BootManual

/-- The content of a file. -/
def FileNode.content? : FileNode → Option (List UInt8)
  | directory => none
  | file content => some content

namespace FileSystem

variable {files after : FileSystem} {path directory name : Text} {place : Place}

/-- The content of the file at a place, if there is a file. -/
def content? (files : FileSystem) (place : Place) : Option (List UInt8) :=
  (files.node? place).bind FileNode.content?

/-- One file system comes from another one by writing documents in order, each at its
place.  Every directory is kept; directories may be added. -/
structure Gains (files after : FileSystem) (documents : List (Place × List UInt8)) : Prop where
  workingDirectory : after.workingDirectory = files.workingDirectory
  kept : ∀ place, files.node? place = some .directory → after.node? place = some .directory
  content : ∀ place,
    after.content? place = (documents.reverse.lookup place).or (files.content? place)

theorem Gains.refl (files : FileSystem) : Gains files files [] :=
  ⟨rfl, fun _ => id, fun _ => rfl⟩

theorem Gains.trans {between : FileSystem} {documents others : List (Place × List UInt8)}
    (first : Gains files between documents) (second : Gains between after others) :
    Gains files after (documents ++ others) where
  workingDirectory := second.workingDirectory.trans first.workingDirectory
  kept place node := second.kept place (first.kept place node)
  content place := by
    rw [second.content, first.content, List.reverse_append, List.lookup_append, Option.or_assoc]

/-- The contents of files below a place are those in the tree that stands there. -/
theorem content?_append_eq_some_iff {tree : FileTree} (found : files.root.at? place = some tree)
    (below : Place) (content : List UInt8) :
    files.content? (place ++ below) = some content ↔ tree.at? below = some (.file content) := by
  rw [content?, node?, FileTree.at?_append, found, Option.bind_some]
  cases stands : tree.at? below with
  | none => simp
  | some other => cases other <;> simp [FileTree.top, FileNode.content?]

/-- What stands under a name in a directory at a spot. -/
theorem node?_concat {spot : Spot} (inside : spot.IsIn files.root) (name : Text) :
    files.node? (spot.place ++ [name]) = (spot.tree.member? name).map FileTree.top :=
  congrArg (Option.map FileTree.top) (FileTree.at?_concat inside.at?_place name)

/-! ## Putting a member into a directory -/

theorem isDirectory_eq_false_of_top {member : Option FileTree}
    (free : member.map FileTree.top ≠ some .directory) :
    ∀ below ∈ member, below.isDirectory = false := by
  rintro below rfl
  apply eq_false_of_ne_true
  intro isDirectory
  exact free (congrArg some (FileTree.isDirectory_iff_top.mp isDirectory))

section Put

variable {spot : Spot} (inside : spot.IsIn files.root) (isDirectory : spot.tree.isDirectory)

include inside isDirectory

theorem node?_put {added : FileTree}
    (free : ∀ below ∈ spot.tree.member? name, below.isDirectory = false) (leaf : added.IsLeaf) :
    (files.put (spot.place ++ [name]) added).node? =
      Function.update files.node? (spot.place ++ [name]) (some added.top) :=
  FileTree.node?_put inside.at?_place isDirectory
    (fun below member => FileTree.isLeaf_of_isDirectory_eq_false (free below member)) leaf

/-- A place where no directory stands is not the place of a kept one. -/
theorem kept_put {added : FileTree}
    (free : ∀ below ∈ spot.tree.member? name, below.isDirectory = false) (leaf : added.IsLeaf)
    (other : Place) (node : files.node? other = some .directory) :
    (files.put (spot.place ++ [name]) added).node? other = some .directory := by
  have elsewhere : other ≠ spot.place ++ [name] := by
    rintro rfl
    obtain ⟨below, found, known⟩ := FileTree.node?_eq_directory_iff.mp node
    rw [FileTree.at?_concat inside.at?_place] at found
    rw [free below found] at known
    contradiction
  rw [node?_put inside isDirectory free leaf, Function.update_of_ne elsewhere, node]

theorem gains_put_directory (new : spot.tree.member? name = none) :
    Gains files (files.put (spot.place ++ [name]) (.directory [])) [] := by
  have free : ∀ below ∈ spot.tree.member? name, below.isDirectory = false := by simp [new]
  have nothing : files.node? (spot.place ++ [name]) = none := by
    rw [node?_concat inside, new, Option.map_none]
  refine ⟨rfl, kept_put inside isDirectory free FileTree.isLeaf_directory_nil, ?_⟩
  intro other
  rw [content?, node?_put inside isDirectory free FileTree.isLeaf_directory_nil,
    Function.update_apply]
  split
  · next same => simp [same, content?, nothing, FileTree.top, FileNode.content?]
  · rfl

theorem gains_put_file (free : ∀ below ∈ spot.tree.member? name, below.isDirectory = false)
    (content : List UInt8) :
    Gains files (files.put (spot.place ++ [name]) (.file content))
      [(spot.place ++ [name], content)] := by
  refine ⟨rfl, kept_put inside isDirectory free (FileTree.isLeaf_file content), ?_⟩
  intro other
  rw [content?, node?_put inside isDirectory free (FileTree.isLeaf_file content),
    Function.update_apply]
  split
  · next same => simp [same, FileTree.top, FileNode.content?]
  · next different =>
    have elsewhere : (other == spot.place ++ [name]) = false := beq_eq_false_iff_ne.mpr different
    simp [List.lookup_cons, elsewhere, content?]

end Put

/-! ## Routes to directories -/

/-- A route leads to a place where a directory stands. -/
def Arrives (files : FileSystem) (route : List Text) (place : Place) : Prop :=
  ∃ spot, walk (Spot.top files.root) route = .ok spot ∧ spot.tree.isDirectory ∧ spot.place = place

section Route

variable {route : List Text} (arrives : files.Arrives route place)

include arrives

/-- A route to a directory leads there as long as no directory is lost. -/
theorem Arrives.gains {documents : List (Place × List UInt8)}
    (gains : Gains files after documents) : after.Arrives route place := by
  obtain ⟨spot, walked, isDirectory, rfl⟩ := arrives
  obtain ⟨spot', walked', same⟩ :=
    exists_walk_of_kept gains.kept .top .top rfl walked isDirectory
  have node := gains.kept _ ((isIn_of_walk .top walked).node?_place isDirectory)
  exact ⟨spot', walked', (isIn_of_walk .top walked').isDirectory (same ▸ node), same⟩

/-- A member that is put into a directory, where no directory stands, changes what
stands at its place. -/
theorem Arrives.node?_put {added : FileTree}
    (free : files.node? (place ++ [name]) ≠ some .directory) (leaf : added.IsLeaf) :
    (files.put (place ++ [name]) added).node? =
      Function.update files.node? (place ++ [name]) (some added.top) := by
  obtain ⟨spot, walked, isDirectory, rfl⟩ := arrives
  have inside := isIn_of_walk .top walked
  rw [node?_concat inside] at free
  exact FileSystem.node?_put inside isDirectory (isDirectory_eq_false_of_top free) leaf

theorem Arrives.gains_put_directory (missing : files.node? (place ++ [name]) = none) :
    Gains files (files.put (place ++ [name]) (.directory [])) [] := by
  obtain ⟨spot, walked, isDirectory, rfl⟩ := arrives
  have inside := isIn_of_walk .top walked
  rw [node?_concat inside, Option.map_eq_none_iff] at missing
  exact FileSystem.gains_put_directory inside isDirectory missing

theorem Arrives.gains_put_file (free : files.node? (place ++ [name]) ≠ some .directory)
    (content : List UInt8) :
    Gains files (files.put (place ++ [name]) (.file content)) [(place ++ [name], content)] := by
  obtain ⟨spot, walked, isDirectory, rfl⟩ := arrives
  have inside := isIn_of_walk .top walked
  rw [node?_concat inside] at free
  exact FileSystem.gains_put_file inside isDirectory (isDirectory_eq_false_of_top free) content

/-- A route with one more name leads to that member of the directory. -/
theorem arrives_concat_iff (moves : name ≠ Path.stay) (down : name ≠ Path.up) {other : Place} :
    files.Arrives (route ++ [name]) other ↔
      other = place ++ [name] ∧ Utf8.size name ≤ longestName ∧
        files.node? other = some .directory := by
  obtain ⟨spot, walked, isDirectory, rfl⟩ := arrives
  have inside := isIn_of_walk .top walked
  constructor
  · rintro ⟨next, led, nextIsDirectory, rfl⟩
    have nextInside := isIn_of_walk .top led
    rw [walk_append, walked] at led
    obtain ⟨_, short, entered⟩ := (walk_singleton_eq_ok_iff moves down).mp led
    exact ⟨Spot.place_of_enter? entered, short, nextInside.node?_place nextIsDirectory⟩
  · rintro ⟨rfl, short, node⟩
    obtain ⟨below, found, below_isDirectory⟩ := FileTree.node?_eq_directory_iff.mp node
    rw [FileTree.at?_concat inside.at?_place] at found
    have entered := Spot.enter?_eq_some_iff.mpr ⟨below, found, rfl⟩
    refine ⟨_, ?_, below_isDirectory, Spot.place_of_enter? entered⟩
    rw [walk_append, walked]
    exact (walk_singleton_eq_ok_iff moves down).mpr ⟨isDirectory, short, entered⟩

end Route

theorem leadsToDirectory_iff_arrives {route : List Text} :
    files.leadsToDirectory route ↔ ∃ place, files.Arrives route place := by
  rw [leadsToDirectory, find]
  constructor
  · intro isDirectory
    cases walked : walk (Spot.top files.root) route with
    | error error => simp [walked] at isDirectory
    | ok spot => exact ⟨spot.place, spot, walked, by simpa [walked] using isDirectory, rfl⟩
  · rintro ⟨place, spot, walked, isDirectory, _⟩
    simpa [walked] using isDirectory

/-! ## Paths to directories -/

/-- A path leads to a place where a directory stands. -/
def LeadsTo (files : FileSystem) (path : Text) (place : Place) : Prop :=
  ∃ spot, walk (Spot.top files.root) (files.route path (Path.names path)) = .ok spot ∧
    spot.tree.isDirectory ∧ spot.place = place

theorem leadsTo_iff_arrives :
    files.LeadsTo path place ↔ files.Arrives (files.route path (Path.names path)) place :=
  Iff.rfl

theorem route_join (files : FileSystem) (directory : Text) (plain : Path.IsPlain name) :
    files.route (Path.join directory name) (Path.names (Path.join directory name)) =
      files.route directory (Path.names directory) ++ [name] := by
  rw [route, route, Path.isAbsolute_join directory plain, Path.names_join directory plain]
  split
  · rfl
  · rw [List.append_assoc]

theorem Gains.route_eq {documents : List (Place × List UInt8)}
    (gains : Gains files after documents) (path : Text) (names : List Text) :
    after.route path names = files.route path names := by
  rw [route, route, gains.workingDirectory]

/-- A path to a directory leads there as long as no directory is lost. -/
theorem LeadsTo.gains {documents : List (Place × List UInt8)} (leads : files.LeadsTo path place)
    (gains : Gains files after documents) : after.LeadsTo path place := by
  rw [leadsTo_iff_arrives, gains.route_eq]
  exact Arrives.gains leads gains

/-- A path that is joined with a plain name leads to that member of the directory. -/
theorem leadsTo_join_iff (plain : Path.IsPlain name) (leads : files.LeadsTo directory place)
    {other : Place} :
    files.LeadsTo (Path.join directory name) other ↔
      other = place ++ [name] ∧ Utf8.size name ≤ longestName ∧
        files.node? other = some .directory := by
  rw [leadsTo_iff_arrives, route_join files directory plain]
  exact arrives_concat_iff leads plain.ne_stay plain.ne_up

theorem leadsToDirectory_iff :
    files.leadsToDirectory (files.route path (Path.names path)) ↔
      ∃ place, files.LeadsTo path place :=
  leadsToDirectory_iff_arrives

/-- A path to a directory finds the tree that stands at its place. -/
theorem LeadsTo.exists_tree (leads : files.LeadsTo path place) :
    ∃ tree, files.find (files.route path (Path.names path)) = .ok tree ∧
      files.root.at? place = some tree := by
  obtain ⟨spot, walked, _, rfl⟩ := leads
  refine ⟨spot.tree, ?_, (isIn_of_walk .top walked).at?_place⟩
  rw [find, walked]

/-- A path that finds a directory leads to the place where it stands. -/
theorem exists_leadsTo {tree : FileTree}
    (found : files.find (files.route path (Path.names path)) = .ok tree)
    (isDirectory : tree.isDirectory) :
    ∃ place, files.LeadsTo path place ∧ files.root.at? place = some tree := by
  rw [find] at found
  cases walked : walk (Spot.top files.root) (files.route path (Path.names path)) with
  | error error => simp [walked] at found
  | ok spot =>
      rw [walked] at found
      obtain rfl := Except.ok.inj found
      exact ⟨spot.place, ⟨spot, walked, isDirectory, rfl⟩, (isIn_of_walk .top walked).at?_place⟩

/-! ## Operations that succeed -/

section Parent

variable {spot : Spot} {front : List Text}
  (walked : walk (Spot.top files.root) front = .ok spot) (isDirectory : spot.tree.isDirectory)

include walked isDirectory

theorem parent_concat (name : Text) : files.parent (front ++ [name]) = .ok spot := by
  simp only [parent, List.dropLast_concat, walked, isDirectory, if_true]

theorem makeDirectory_concat (moves : name ≠ Path.stay) (down : name ≠ Path.up) :
    files.makeDirectory (front ++ [name]) =
      if longestName < Utf8.size name then .error .nameTooLong
      else if (spot.tree.member? name).isSome then .error .alreadyExists
      else .ok (files.put (spot.place ++ [name]) (.directory [])) := by
  simp only [makeDirectory, List.getLast?_concat, parent_concat walked isDirectory, moves, down,
    or_self, if_false]

end Parent

theorem makeDirectory_of_leadsTo (leads : files.LeadsTo path place) :
    files.makeDirectory (files.route path (Path.names path)) = .error .alreadyExists := by
  obtain ⟨spot, walked, isDirectory, rfl⟩ := leads
  rcases List.eq_nil_or_concat' (files.route path (Path.names path)) with
    empty | ⟨front, name, cut⟩
  · rw [empty]
    rfl
  · rw [cut, walk_append] at walked
    rw [cut]
    obtain ⟨between, led, walked⟩ := except_bind_eq_ok_iff.mp walked
    have begins := isDirectory_of_walk walked isDirectory
    by_cases plain : name = Path.stay ∨ name = Path.up
    · simp only [makeDirectory, List.getLast?_concat, parent_concat led begins, plain, if_true]
    · rw [not_or] at plain
      obtain ⟨_, short, entered⟩ := (walk_singleton_eq_ok_iff plain.1 plain.2).mp walked
      obtain ⟨below, known, _⟩ := Spot.enter?_eq_some_iff.mp entered
      rw [makeDirectory_concat led begins plain.1 plain.2, if_neg (Nat.not_lt_of_le short), known,
        if_pos Option.isSome_some]

/-- Creating a directory that is there changes nothing. -/
theorem makeDirectories_of_leadsTo (leads : files.LeadsTo path place) :
    (files.makeDirectories path).files = files := by
  rw [makeDirectories]
  split
  · rfl
  · split
    · rfl
    · rw [ensureDirectory, makeDirectory_of_leadsTo leads]
      simp only [leadsToDirectory_iff.mpr ⟨place, leads⟩, if_true]

/-- It does not fail either, unless the path is refused. -/
theorem makeDirectories_eq_of_leadsTo (leads : files.LeadsTo path place)
    (accepted : files.refusal? path = none) : files.makeDirectories path = ⟨files, none⟩ := by
  rw [makeDirectories, accepted]
  split
  · rfl
  · simp only [ensureDirectory, makeDirectory_of_leadsTo leads,
      leadsToDirectory_iff.mpr ⟨place, leads⟩, if_true]

theorem leadsToDirectory_join (plain : Path.IsPlain name) (leads : files.LeadsTo directory place) :
    files.leadsToDirectory (files.route (Path.join directory name)
        (Path.names (Path.join directory name))) ↔
      Utf8.size name ≤ longestName ∧ files.node? (place ++ [name]) = some .directory := by
  rw [leadsToDirectory_iff]
  simp only [leadsTo_join_iff plain leads, exists_eq_left]

/-- What comes of creating a directory with a plain name in a directory that is there. -/
theorem makeDirectories_join_eq (plain : Path.IsPlain name)
    (leads : files.LeadsTo directory place) :
    files.makeDirectories (Path.join directory name) =
      match files.refusal? (Path.join directory name) with
      | some error => ⟨files, some error⟩
      | none =>
        if longestName < Utf8.size name then ⟨files, some .nameTooLong⟩
        else
          match files.node? (place ++ [name]) with
          | none => ⟨files.put (place ++ [name]) (.directory []), none⟩
          | some .directory => ⟨files, none⟩
          | some (.file _) => ⟨files, some .alreadyExists⟩ := by
  have there := leadsToDirectory_join plain leads
  obtain ⟨spot, walked, isDirectory, rfl⟩ := leads
  have nonempty : (Path.join directory name).isEmpty = false :=
    List.isEmpty_eq_false_iff.mpr (Path.join_ne_nil directory plain)
  have node := node?_concat (isIn_of_walk .top walked) name
  rw [makeDirectories, nonempty, if_neg Bool.false_ne_true]
  cases files.refusal? (Path.join directory name) with
  | some error => rfl
  | none =>
      -- The directory above is there, so nothing that leads to it is created first.
      rw [node, route_join files directory plain] at there
      simp only [node, ensureDirectory, route_join files directory plain,
        makeDirectory_concat walked isDirectory plain.ne_stay plain.ne_up]
      by_cases long : longestName < Utf8.size name
      · have nowhere := mt there.mp fun known => absurd long (Nat.not_lt_of_le known.1)
        simp [long, nowhere]
      · have short := Nat.le_of_not_lt long
        cases member : spot.tree.member? name with
        | none => simp [long]
        | some below =>
            rw [member] at there
            cases below <;> simp [long, short, there, FileTree.top]

/-- Creating a directory fails and changes nothing, finds it there, or makes it where
nothing stood. -/
theorem makeDirectories_join_cases (plain : Path.IsPlain name)
    (leads : files.LeadsTo directory place) :
    (∃ error, files.makeDirectories (Path.join directory name) = ⟨files, some error⟩) ∨
      Utf8.size name ≤ longestName ∧
        (files.node? (place ++ [name]) = some .directory ∧
            files.makeDirectories (Path.join directory name) = ⟨files, none⟩ ∨
          files.node? (place ++ [name]) = none ∧
            files.makeDirectories (Path.join directory name) =
              ⟨files.put (place ++ [name]) (.directory []), none⟩) := by
  rw [makeDirectories_join_eq plain leads]
  split
  · exact .inl ⟨_, rfl⟩
  split
  · exact .inl ⟨_, rfl⟩
  · next short =>
    split
    · next missing => exact .inr ⟨Nat.le_of_not_lt short, .inr ⟨missing, rfl⟩⟩
    · next known => exact .inr ⟨Nat.le_of_not_lt short, .inl ⟨known, rfl⟩⟩
    · exact .inl ⟨_, rfl⟩

/-- What comes of writing a file with a plain name in a directory that is there. -/
theorem writeFile_join_eq (plain : Path.IsPlain name) (leads : files.LeadsTo directory place)
    (content : List UInt8) :
    files.writeFile (Path.join directory name) content =
      match files.refusal? (Path.join directory name) with
      | some error => .error error
      | none =>
        if longestName < Utf8.size name then .error .nameTooLong
        else if files.node? (place ++ [name]) = some .directory then .error .isDirectory
        else .ok (files.put (place ++ [name]) (.file content)) := by
  obtain ⟨spot, walked, isDirectory, rfl⟩ := leads
  have node := node?_concat (isIn_of_walk .top walked) name
  rw [writeFile]
  cases files.refusal? (Path.join directory name) with
  | some error => rfl
  | none =>
      simp only [route_join files directory plain]
      simp only [Path.names_join directory plain, List.getLast?_concat,
        parent_concat walked isDirectory, plain.ne_stay, plain.ne_up, or_self, if_false, node]
      cases spot.tree.member? name with
      | none => rfl
      | some below => cases below <;> simp [FileTree.top, FileTree.isDirectory]

end FileSystem

end BootManual
