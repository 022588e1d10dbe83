import BootManual.Proofs.DatabaseRuns

/-!
# What stops a database

In an output directory that was empty, where paths may be as long as they like, only the
name of an entry can be in its way: it holds a NUL, it is too long, or it is that of the
document in the directory above.  The first entry with such a name stops the work before
anything is made for it, and all entries in front of it are there.
-/

namespace BootManual

namespace FileSystem

variable {files : FileSystem} {path : Text}

/-- Where the length of paths has no limit, only a path with a NUL is refused. -/
theorem refusal?_of_unlimited (unlimited : files.longestPath = none) :
    files.refusal? path = if '\x00' ∈ path then some .nulInName else none := by
  rw [refusal?, unlimited]
  simp

theorem nul_mem_join_iff {directory name : Text} :
    '\x00' ∈ Path.join directory name ↔ '\x00' ∈ directory ∨ '\x00' ∈ name := by
  rw [Path.join]
  split <;> simp

end FileSystem

namespace Database

/-! ## Names of directories -/

theorem nul_mem_directoryName_iff {name : Text} : '\x00' ∈ directoryName name ↔ '\x00' ∈ name := by
  rw [directoryName, List.mem_map]
  constructor
  · rintro ⟨letter, inside, same⟩
    split at same
    · exact absurd same (by decide)
    · exact same ▸ inside
  · intro inside
    exact ⟨'\x00', inside, by decide⟩

theorem size_directoryName (name : Text) : Utf8.size (directoryName name) = Utf8.size name := by
  have cons (letter : Char) (rest : Text) :
      Utf8.size (letter :: rest) = (String.utf8EncodeChar letter).length + Utf8.size rest := by
    rw [Utf8.size, Utf8.encode, List.flatMap_cons, List.length_append]
    rfl
  induction name with
  | nil => rfl
  | cons letter rest inductionHypothesis =>
      rw [directoryName, List.map_cons, cons, cons, ← inductionHypothesis, directoryName]
      congr 1
      split
      · next cuts =>
        rcases Bool.or_eq_true_iff.mp cuts with slash | backslash
        · rw [of_decide_eq_true slash]
          rfl
        · rw [of_decide_eq_true backslash]
          rfl
      · rfl

/-- A name without underscores is that of a directory for no other name. -/
theorem directoryName_eq_documentName_iff {name : Text} :
    directoryName name = documentName ↔ name = documentName := by
  constructor
  · intro same
    have kept : ∀ letter ∈ name,
        (if letter = '/' || letter = '\\' then '_' else letter) = letter := by
      intro letter inside
      have mapped := List.mem_map_of_mem (f := fun letter : Char =>
        if letter = '/' || letter = '\\' then '_' else letter) inside
      rw [← directoryName, same] at mapped
      split at mapped
      · exact absurd mapped (by decide)
      · next plain => rw [if_neg plain]
    rw [← same, directoryName, List.map_congr_left kept, List.map_id']
  · rintro rfl
    rfl

/-! ## Obstacles -/

/-- What stands in the way of an entry whose name begins as names do. -/
def obstacle? (home : Place × Entry) : Option FileError :=
  if '\x00' ∈ home.2.name then some .nulInName
  else if FileSystem.longestName < Utf8.size home.2.name then some .nameTooLong
  else if 1 < home.1.length ∧ home.2.name = documentName then some .alreadyExists
  else none

/-- The entries in front of the first one that something stands in the way of. -/
def unobstructed (homes : List (Place × Entry)) : List (Place × Entry) :=
  homes.takeWhile fun home => (obstacle? home).isNone

theorem obstacle?_eq_none_iff {home : Place × Entry} :
    obstacle? home = none ↔
      '\x00' ∉ home.2.name ∧ Utf8.size home.2.name ≤ FileSystem.longestName ∧
        ¬ (1 < home.1.length ∧ home.2.name = documentName) := by
  rw [obstacle?]
  split
  · next nul => simp [nul]
  split
  · next long => simp [Nat.not_le_of_lt long]
  split
  · next clash => simp [clash]
  · next legible short free =>
    exact ⟨fun _ => ⟨legible, Nat.le_of_not_lt short, free⟩, fun _ => rfl⟩

theorem unobstructed_eq_self {homes : List (Place × Entry)}
    (free : ∀ home ∈ homes, obstacle? home = none) : unobstructed homes = homes := by
  rw [unobstructed, List.takeWhile_eq_self_iff]
  intro home listed
  rw [free home listed]
  rfl

/-! ## In an empty output directory -/

/-- What the tasks of homes have made of an empty output directory, when nothing stood in
the way of any of them. -/
structure Stands (base files : FileSystem) (processor directory : Text) (place : Place)
    (done : List (Place × Entry)) : Prop
    extends Reflects base files processor directory place done where
  legible : ∀ known ∈ [] :: done.map Prod.fst, '\x00' ∉ pathOf directory known
  free : ∀ home ∈ done, obstacle? home = none
  named : ∀ home ∈ done, ∃ parent, home.1 = parent ++ [directoryName home.2.name]

section Empty

variable {base files : FileSystem} {processor directory : Text} {place : Place}
  {done : List (Place × Entry)} {home : Place × Entry}
  (unlimited : base.longestPath = none)
  (bare : ∀ below, below ≠ [] → base.node? (place ++ below) = none)
  (stands : Stands base files processor directory place done)
  (known : ∃ parent ∈ [] :: done.map Prod.fst, home.1 = parent ++ [directoryName home.2.name])

theorem Stands.refusal?_eq (stands : Stands base files processor directory place done)
    (unlimited : base.longestPath = none) (path : Text) :
    files.refusal? path = if '\x00' ∈ path then some .nulInName else none :=
  FileSystem.refusal?_of_unlimited (stands.grows.longestPath.trans unlimited)

include bare stands

theorem Stands.node?_eq_directory_iff {below : Place} (nonempty : below ≠ []) :
    files.node? (place ++ below) = some .directory ↔ below ∈ done.map Prod.fst := by
  rw [stands.grows.directory, bare below nonempty]
  simp

theorem Stands.exists_file_iff {below : Place} (nonempty : below ≠ []) :
    (∃ content, files.node? (place ++ below) = some (.file content)) ↔
      ∃ home ∈ done, home.1 ++ [documentName] = below := by
  have nothing : base.content? (place ++ below) = none :=
    (FileSystem.node?_eq_none_iff.mp (bare below nonempty)).2
  simp only [FileSystem.node?_eq_file_iff, stands.grows.content, nothing, Option.or_none,
    exists_lookup_iff, List.map_reverse, List.mem_reverse, List.map_map, List.mem_map]
  simp [documentAt]

include known

/-- A file stands in the way of a home only where a sub-parameter is named as documents
are. -/
theorem Stands.exists_file_home_iff :
    (∃ content, files.node? (place ++ home.1) = some (.file content)) ↔
      1 < home.1.length ∧ home.2.name = documentName := by
  obtain ⟨parent, inside, named⟩ := known
  rw [stands.exists_file_iff bare (by simp [named]), named]
  constructor
  · rintro ⟨other, listed, same⟩
    obtain ⟨above, otherNamed⟩ := stands.named other listed
    obtain ⟨rfl, name⟩ := List.append_inj' same rfl
    refine ⟨by simp [otherNamed], ?_⟩
    exact directoryName_eq_documentName_iff.mp (List.cons.inj name).1.symm
  · rintro ⟨deep, name⟩
    -- A parent other than the output directory is a home, which has its document.
    have nested : parent ≠ [] := by
      rintro rfl
      simp at deep
    rcases List.mem_cons.mp inside with rfl | listed
    · contradiction
    · obtain ⟨other, otherListed, rfl⟩ := List.mem_map.mp listed
      rw [directoryName_eq_documentName_iff.mpr name]
      exact ⟨other, otherListed, rfl⟩

variable (plain : Path.IsPlain (directoryName home.2.name))

omit bare in
/-- Nothing in the path to a home is a NUL. -/
theorem Stands.legible_home (free : obstacle? home = none) : '\x00' ∉ pathOf directory home.1 := by
  obtain ⟨parent, inside, named⟩ := known
  rw [named, pathOf_concat, FileSystem.nul_mem_join_iff, nul_mem_directoryName_iff, not_or]
  exact ⟨stands.legible parent inside, (obstacle?_eq_none_iff.mp free).1⟩

/-- No directory stands where a home that was made gets its document: it would be that of
a sub-parameter named as documents are. -/
theorem Stands.node?_document_ne_directory {after : FileSystem}
    (grows : files.Grows after [place ++ home.1] []) :
    after.node? (place ++ home.1 ++ [documentName]) ≠ some .directory := by
  rw [Ne, grows.directory, List.append_assoc, List.mem_singleton,
    stands.node?_eq_directory_iff bare (by simp)]
  rintro (listed | same)
  · obtain ⟨other, otherListed, same⟩ := List.mem_map.mp listed
    obtain ⟨above, otherNamed⟩ := stands.named other otherListed
    obtain ⟨parent, _, named⟩ := known
    have name : directoryName other.2.name = documentName :=
      (List.cons.inj (List.append_inj' (otherNamed.symm.trans same) rfl).2).1
    have deep : 1 < other.1.length := by simp [same, named]
    exact (obstacle?_eq_none_iff.mp (stands.free other otherListed)).2.2
      ⟨deep, directoryName_eq_documentName_iff.mp name⟩
  · simp at same

include unlimited plain

/-- The directory of a home can be created unless something stands in its way. -/
theorem Stands.failure_makeDirectory :
    (files.makeDirectories (pathOf directory home.1)).failure = obstacle? home := by
  have clash := stands.exists_file_home_iff bare known
  have refused := stands.refusal?_eq unlimited (pathOf directory home.1)
  obtain ⟨parent, inside, named⟩ := known
  rw [named, pathOf_concat] at refused ⊢
  simp only [FileSystem.nul_mem_join_iff, nul_mem_directoryName_iff,
    stands.legible parent inside, false_or] at refused
  rw [FileSystem.makeDirectories_join_eq plain (stands.leads parent inside), refused,
    size_directoryName, List.append_assoc, ← named, obstacle?]
  by_cases nul : '\x00' ∈ home.2.name
  · simp only [nul, if_true]
  by_cases long : FileSystem.longestName < Utf8.size home.2.name
  · simp only [nul, long, if_true, if_false]
  simp only [nul, long, if_false]
  cases standing : files.node? (place ++ home.1) with
  | none => rw [if_neg (mt clash.mpr (by simp [standing]))]
  | some node =>
      cases node with
      | directory => rw [if_neg (mt clash.mpr (by simp [standing]))]
      | file content => rw [if_pos (clash.mp ⟨content, standing⟩)]

/-- The document of a home that was made can be written. -/
theorem Stands.failure_writeDocument (free : obstacle? home = none) (content : Text) :
    (Task.perform (files.makeDirectories (pathOf directory home.1)).files
      (.writeDocument (Path.join (pathOf directory home.1) documentName) content)).failure =
        none := by
  have made := (stands.failure_makeDirectory unlimited bare known plain).trans free
  obtain ⟨grows, leads⟩ := grows_makeDirectory_home stands.toReflects known plain made
  have vacant := stands.node?_document_ne_directory bare known grows
  have accepted : (files.makeDirectories (pathOf directory home.1)).files.refusal?
      (Path.join (pathOf directory home.1) documentName) = none := by
    rw [FileSystem.refusal?_of_unlimited
      ((grows.longestPath.trans stands.grows.longestPath).trans unlimited), if_neg]
    rw [FileSystem.nul_mem_join_iff, not_or]
    exact ⟨stands.legible_home known free, by decide⟩
  rw [Task.perform, FileSystem.writeFile_join_eq isPlain_documentName leads, accepted]
  simp only [vacant, if_false]
  rw [if_neg (by decide)]

/-- If nothing stands in the way of a home, its tasks are done. -/
theorem Stands.performAll_of_free (free : obstacle? home = none) :
    let run := performAll files (tasksOfHome processor directory home)
    run.failure = none ∧ run.finished = tasksOfHome processor directory home ∧
      Stands base run.files processor directory place (done ++ [home]) := by
  intro run
  have made : (Task.perform files (.makeDirectory (pathOf directory home.1))).failure = none :=
    (stands.failure_makeDirectory unlimited bare known plain).trans free
  have written := stands.failure_writeDocument unlimited bare known plain free
    (ParameterDocument.ofEntry processor home.2).render
  have completes : Completes files (tasksOfHome processor directory home) run.files := by
    refine ⟨?_, rfl⟩
    rw [tasksOfHome, performAll_cons_of_done made]
    exact performAll_singleton_of_done written
  have legible := stands.legible_home known free
  refine ⟨completes.unfailing, completes.finished_eq, ?_⟩
  constructor
  · exact reflects_performAll_home stands.toReflects known plain completes.unfailing
  · rw [List.map_append, ← List.cons_append, List.forall_mem_append]
    exact ⟨stands.legible, List.forall_mem_singleton.mpr legible⟩
  · rw [List.forall_mem_append]
    exact ⟨stands.free, List.forall_mem_singleton.mpr free⟩
  · rw [List.forall_mem_append]
    obtain ⟨parent, _, named⟩ := known
    exact ⟨stands.named, List.forall_mem_singleton.mpr ⟨parent, named⟩⟩

/-- If something stands in the way of a home, nothing is made for it. -/
theorem Stands.performAll_of_obstacle {error : FileError}
    (obstructed : obstacle? home = some error) :
    performAll files (tasksOfHome processor directory home) =
      ⟨files, [], some ((Task.makeDirectory (pathOf directory home.1)).failureMessage error)⟩ := by
  let task : Task := .makeDirectory (pathOf directory home.1)
  have failed : (task.perform files).failure = some error :=
    (stands.failure_makeDirectory unlimited bare known plain).trans obstructed
  have unchanged : (task.perform files).files = files :=
    files_makeDirectory_home stands.toReflects known plain
      (Option.ne_none_iff_exists'.mpr ⟨error, failed⟩)
  rw [tasksOfHome, performAll_cons_of_failure failed, unchanged]

end Empty

/-- The message about what stands in the way of an entry. -/
def failure? (directory : Text) (home : Place × Entry) : Option Text :=
  (obstacle? home).map fun error =>
    "cannot create ".toList ++ pathOf directory home.1 ++ ": ".toList ++ error.message

section Run

variable {base files : FileSystem} {processor directory : Text} {place : Place}
  {done rest : List (Place × Entry)}

/-- The tasks of homes in an output directory that was empty are done up to the first
home that something stands in the way of. -/
theorem Stands.performAll_homes (unlimited : base.longestPath = none)
    (bare : ∀ below, below ≠ [] → base.node? (place ++ below) = none)
    (stands : Stands base files processor directory place done)
    (orderly : IsOrderly ([] :: done.map Prod.fst) rest)
    (plain : ∀ home ∈ rest, Path.IsPlain (directoryName home.2.name)) :
    let run := performAll files (rest.flatMap (tasksOfHome processor directory))
    run.failure = rest.findSome? (failure? directory) ∧
      run.finished = (unobstructed rest).flatMap (tasksOfHome processor directory) ∧
      Stands base run.files processor directory place (done ++ unobstructed rest) := by
  induction rest generalizing files done with
  | nil =>
      refine ⟨rfl, rfl, ?_⟩
      rw [unobstructed, List.takeWhile_nil, List.append_nil]
      exact stands
  | cons home rest inductionHypothesis =>
      rw [List.forall_mem_cons] at plain
      intro run
      cases obstructed : obstacle? home with
      | some error =>
          have stops : run = ⟨files, [], failure? directory home⟩ := by
            simp only [run, List.flatMap_cons, performAll_append, failure?, obstructed,
              stands.performAll_of_obstacle unlimited bare orderly.1 plain.1 obstructed]
            rfl
          have first : unobstructed (home :: rest) = [] := by
            rw [unobstructed, List.takeWhile_cons, obstructed]
            rfl
          rw [stops, first, List.append_nil, List.findSome?_cons, failure?, obstructed]
          exact ⟨rfl, rfl, stands⟩
      | none =>
          -- The run goes on from a state of the same kind, with one more home done.
          obtain ⟨unfailing, finished, after⟩ :=
            stands.performAll_of_free unlimited bare orderly.1 plain.1 obstructed
          have orderlyAfter : IsOrderly ([] :: (done ++ [home]).map Prod.fst) rest := by
            rw [List.map_append]
            exact orderly.2
          obtain ⟨failure, more, standsAfter⟩ := inductionHypothesis after orderlyAfter plain.2
          have goes : run =
              let before := performAll files (tasksOfHome processor directory home)
              let others :=
                performAll before.files (rest.flatMap (tasksOfHome processor directory))
              { others with
                finished := tasksOfHome processor directory home ++ others.finished } := by
            simp only [run, List.flatMap_cons, performAll_append, unfailing, finished]
          have first : unobstructed (home :: rest) = home :: unobstructed rest := by
            rw [unobstructed, List.takeWhile_cons, obstructed]
            rfl
          rw [goes, first, List.findSome?_cons, failure?, obstructed]
          refine ⟨failure, ?_, ?_⟩
          · rw [List.flatMap_cons, ← more]
          · rwa [List.append_cons]

end Run

/-! ## Databases of manuals -/

/-- A tree holds the directories of entries, each with a document in it, and nothing
else.  Where entries share a directory, the last one's document is there. -/
structure HoldsHomes (tree : FileTree) (processor : Text) (homes : List (Place × Entry)) :
    Prop where
  directories : ∀ below,
    tree.node? below = some .directory ↔ below = [] ∨ below ∈ homes.map Prod.fst
  documents : ∀ below content, tree.node? below = some (.file content) ↔
    (homes.map (documentAt processor [])).reverse.lookup below = some content

theorem lookup_documentAt (processor : Text) (place below : Place) (homes : List (Place × Entry)) :
    (homes.map (documentAt processor place)).lookup (place ++ below) =
      (homes.map (documentAt processor [])).lookup below := by
  induction homes with
  | nil => rfl
  | cons home rest inductionHypothesis =>
      have same : (place ++ below == place ++ (home.1 ++ [documentName])) =
          (below == home.1 ++ [documentName]) := by
        rw [Bool.eq_iff_iff, beq_iff_eq, beq_iff_eq, List.append_cancel_left_eq]
      rw [List.map_cons, List.map_cons, documentAt, documentAt, List.lookup_cons, List.lookup_cons,
        inductionHypothesis, same]
      rfl

theorem Stands.holdsHomes {base files : FileSystem} {processor directory : Text} {place : Place}
    {done : List (Place × Entry)} {tree : FileTree}
    (bare : ∀ below, below ≠ [] → base.node? (place ++ below) = none)
    (stands : Stands base files processor directory place done)
    (output : base.node? place = some .directory)
    (found : files.root.at? place = some tree) : HoldsHomes tree processor done := by
  have node (below : Place) : tree.node? below = files.node? (place ++ below) := by
    rw [FileSystem.node?, FileTree.at?_append, found]
    rfl
  constructor
  · intro below
    rw [node]
    by_cases top : below = []
    · subst top
      rw [List.append_nil]
      exact iff_of_true (stands.grows.kept place output) (.inl rfl)
    · rw [stands.node?_eq_directory_iff bare top, or_iff_right top]
  · intro below content
    have nothing : base.content? (place ++ below) = none := by
      by_cases top : below = []
      · simp [top, FileSystem.content?, output, FileNode.content?]
      · exact (FileSystem.node?_eq_none_iff.mp (bare below top)).2
    rw [node, FileSystem.node?_eq_file_iff, stands.grows.content, nothing, Option.or_none,
      ← List.map_reverse, ← List.map_reverse, lookup_documentAt]

section Entries

variable {entries : Catalogue Entry} (holds : entries.Holds Entry.IsParameter)

include holds

/-- Something stands in the way of an entry exactly if a name is too long, holds a NUL,
or is that of documents and belongs to a sub-parameter. -/
theorem exists_obstacle_iff :
    (∃ home ∈ homes entries, obstacle? home ≠ none) ↔
      (∃ entry ∈ Entry.walkAll entries.slots,
          FileSystem.longestName < Utf8.size entry.name ∨ '\x00' ∈ entry.name) ∨
        ∃ top ∈ entries.slots, ∃ child ∈ top.children.slots, child.name = documentName := by
  rw [← map_snd_homes holds]
  constructor
  · rintro ⟨home, listed, obstructed⟩
    have inWalk : home.2 ∈ (homes entries).map Prod.snd := List.mem_map_of_mem listed
    by_cases nul : '\x00' ∈ home.2.name
    · exact .inl ⟨home.2, inWalk, .inr nul⟩
    by_cases short : Utf8.size home.2.name ≤ FileSystem.longestName
    · have clash := Decidable.not_not.mp fun free =>
        obstructed (obstacle?_eq_none_iff.mpr ⟨nul, short, free⟩)
      obtain ⟨top, inSlots, rfl | ⟨child, inChildren, rfl⟩⟩ := mem_homes_iff.mp listed
      · exact absurd clash.1 (by simp)
      · exact .inr ⟨top, inSlots, child, inChildren, clash.2⟩
    · exact .inl ⟨home.2, inWalk, .inl (Nat.lt_of_not_le short)⟩
  · rintro (⟨entry, inWalk, bad⟩ | ⟨top, inSlots, child, inChildren, named⟩)
    · obtain ⟨home, listed, rfl⟩ := List.mem_map.mp inWalk
      refine ⟨home, listed, ?_⟩
      rw [Ne, obstacle?_eq_none_iff]
      rintro ⟨nul, short, _⟩
      exact bad.elim (Nat.not_lt_of_le short) nul
    · refine ⟨_, mem_homes_iff.mpr ⟨top, inSlots, .inr ⟨child, inChildren, rfl⟩⟩, ?_⟩
      rw [Ne, obstacle?_eq_none_iff]
      rintro ⟨_, _, free⟩
      exact free ⟨Nat.lt_succ_self 1, named⟩

/-- The tasks are done up to the first entry that something stands in the way of. -/
theorem stands_write {files : FileSystem} {directory : Text} {place : Place}
    (processor : Text) (unlimited : files.longestPath = none)
    (bare : ∀ below, below ≠ [] → files.node? (place ++ below) = none)
    (valid : '\x00' ∉ directory) (leads : files.LeadsTo directory place) :
    let written := write files processor directory entries
    written.failure = (homes entries).findSome? (failure? directory) ∧
      written.finished = .makeDirectory directory ::
        (unobstructed (homes entries)).flatMap (tasksOfHome processor directory) ∧
      Stands files written.files processor directory place (unobstructed (homes entries)) := by
  have begins : Stands files files processor directory place [] :=
    { grows := FileSystem.Grows.refl files
      leads := by simpa using leads
      legible := by simpa using valid
      free := by simp
      named := by simp }
  obtain ⟨failure, finished, stands⟩ := begins.performAll_homes unlimited bare
    (isOrderly_homes entries) (isPlain_of_mem_homes holds)
  have made : Task.perform files (.makeDirectory directory) = ⟨files, none⟩ := by
    apply FileSystem.makeDirectories_eq_of_leadsTo leads
    rw [FileSystem.refusal?_of_unlimited unlimited, if_neg valid]
  intro written
  have goes : written =
      let others := performAll files ((homes entries).flatMap (tasksOfHome processor directory))
      { others with finished := .makeDirectory directory :: others.finished } := by
    simp only [written, write, tasks_eq_flatMap_homes processor directory holds, performAll, made]
  rw [goes]
  exact ⟨failure, congrArg (Task.makeDirectory directory :: ·) finished, stands⟩

end Entries

theorem documentCount_flatMap_tasksOfHome (processor directory : Text)
    (homes : List (Place × Entry)) :
    documentCount (homes.flatMap (tasksOfHome processor directory)) = homes.length := by
  induction homes with
  | nil => rfl
  | cons home rest inductionHypothesis =>
      rw [List.flatMap_cons, documentCount_append, inductionHypothesis, List.length_cons,
        Nat.add_comm]
      rfl

/-- A database in an empty directory fails exactly if a name is too long or holds a NUL,
or if a sub-parameter is named as documents are.  The first such entry, a parameter in
front of its sub-parameters, is the one whose directory cannot be created; afterwards the
directory holds the entries in front of it, each with its document, and nothing else. -/
theorem write_up_to_obstacle (context : Context) (text : Text) {entries : Catalogue Entry}
    (read : (Manual.ofText context text).result = .ok entries) (files : FileSystem)
    (unlimited : files.longestPath = none) (processor directory : Text)
    (valid : '\x00' ∉ directory)
    (empty : files.find (files.route directory (Path.names directory)) = .ok (.directory [])) :
    let written := write files processor directory entries
    let able := unobstructed (homes entries)
    (homes entries).map Prod.snd = Entry.walkAll entries.slots ∧
      (written.failure ≠ none ↔
        (∃ entry ∈ Entry.walkAll entries.slots,
            FileSystem.longestName < Utf8.size entry.name ∨ '\x00' ∈ entry.name) ∨
          ∃ top ∈ entries.slots, ∃ child ∈ top.children.slots, child.name = documentName) ∧
      written.failure = (homes entries).findSome? (failure? directory) ∧
      written.finished =
        .makeDirectory directory :: able.flatMap (tasksOfHome processor directory) ∧
      (∃ tree,
        written.files.find (written.files.route directory (Path.names directory)) = .ok tree ∧
          HoldsHomes tree processor able) ∧
      (written.failure = none →
        documentCount written.finished = (Entry.walkAll entries.slots).length) := by
  intro written able
  have holds := Manual.holds_of_ofText read
  obtain ⟨place, leads, found⟩ := FileSystem.exists_leadsTo empty rfl
  have bare : ∀ below, below ≠ [] → files.node? (place ++ below) = none := by
    intro below nonempty
    obtain ⟨name, rest, rfl⟩ := List.exists_cons_of_ne_nil nonempty
    rw [FileSystem.node?, FileTree.at?_append, found]
    rfl
  have output : files.node? place = some .directory := by
    rw [FileSystem.node?, found]
    rfl
  obtain ⟨failure, finished, stands⟩ :=
    stands_write holds processor unlimited bare valid leads
  obtain ⟨tree, foundAfter, standsAfter⟩ := (leads.gains stands.grows.toGains).exists_tree
  have unfailing : written.failure = none ↔ ∀ home ∈ homes entries, obstacle? home = none := by
    rw [failure, List.findSome?_eq_none_iff]
    simp only [failure?, Option.map_eq_none_iff]
  refine ⟨map_snd_homes holds, ?_, failure, finished,
    ⟨tree, foundAfter, stands.holdsHomes bare output standsAfter⟩, ?_⟩
  · rw [← exists_obstacle_iff holds, Ne, unfailing]
    simp only [not_forall, exists_prop, Ne]
  · intro done
    rw [finished, documentCount_makeDirectory, documentCount_flatMap_tasksOfHome,
      unobstructed_eq_self (unfailing.mp done),
      ← map_snd_homes holds, List.length_map]

/-- Two names that give one directory, and a sub-parameter that cannot have one: the
second parameter has replaced the first one's document, and the sub-parameter in front
is there. -/
theorem write_up_to_obstacle_document :
    let child : Entry := ⟨"c".toList, none, .unset, [], Catalogue.empty⟩
    let clash : Entry := ⟨documentName, none, .unset, [], Catalogue.empty⟩
    let first : Entry := ⟨"a/b".toList, none, .flag, [], Catalogue.empty⟩
    let second : Entry := ⟨"a_b".toList, none, .complex, [], Catalogue.ofList [child, clash]⟩
    let last : Entry := ⟨"d".toList, none, .flag, [], Catalogue.empty⟩
    let entries := Catalogue.ofList [first, second, last]
    let files : FileSystem := ⟨.directory [("db".toList, .directory [])], [], none⟩
    let written := write files "kernel".toList "/db".toList entries
    (Manual.ofText ⟨none, .reject⟩
        "\ta/b\n\ta_b\n\t\tc\n\t\tparameter.toml\n\td\n".toList).result = .ok entries ∧
      written.failure =
        some "cannot create /db/a_b/parameter.toml: File exists (os error 17)".toList ∧
      ∃ tree, written.files.find ["db".toList] = .ok tree ∧
        HoldsHomes tree "kernel".toList [(["a_b".toList], first), (["a_b".toList], second),
          (["a_b".toList, "c".toList], child)] := by
  intro child clash first second last entries files written
  have read : (Manual.ofText ⟨none, .reject⟩
      "\ta/b\n\ta_b\n\t\tc\n\t\tparameter.toml\n\td\n".toList).result = .ok entries := rfl
  have listed : homes entries = [(["a_b".toList], first), (["a_b".toList], second),
      (["a_b".toList, "c".toList], child), (["a_b".toList, documentName], clash),
      (["d".toList], last)] := rfl
  have able : unobstructed (homes entries) = [(["a_b".toList], first), (["a_b".toList], second),
      (["a_b".toList, "c".toList], child)] := by
    have firstFree : obstacle? (["a_b".toList], first) = none := by decide +kernel +zetaReduce
    have secondFree : obstacle? (["a_b".toList], second) = none := by decide +kernel +zetaReduce
    have childFree : obstacle? (["a_b".toList, "c".toList], child) = none := by
      decide +kernel +zetaReduce
    have obstructed : obstacle? (["a_b".toList, documentName], clash) = some .alreadyExists := by
      decide +kernel +zetaReduce
    simp only [unobstructed, listed, List.takeWhile_cons, firstFree, secondFree, childFree,
      obstructed, Option.isNone_none, Option.isNone_some, if_true, Bool.false_eq_true, if_false]
  have empty : files.find ["db".toList] = .ok (.directory []) := rfl
  obtain ⟨_, _, failure, _, ⟨tree, found, holds⟩, _⟩ :=
    write_up_to_obstacle ⟨none, .reject⟩ _ read files rfl "kernel".toList "/db".toList
      (by decide) empty
  rw [able] at holds
  refine ⟨read, failure.trans ?_, tree, found, holds⟩
  decide +kernel +zetaReduce

end Database

end BootManual
