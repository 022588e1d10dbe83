import BootManual.Proofs.Homes

/-!
# Writing a database, home by home

The tasks of a database go through the homes of the entries in order and do the same
two things for each of them: they create its directory and write its document.  The
directory stands in the output directory or in the home of an entry that came before,
so it can be created as long as nothing has failed.  Whatever happens, then, what is
added are the homes of the first entries, and their documents.
-/

namespace BootManual.Database

/-! ## Tasks of homes -/

/-- The path to a place below a directory. -/
def pathOf (directory : Text) (place : Place) : Text :=
  place.foldl Path.join directory

@[simp]
theorem pathOf_nil (directory : Text) : pathOf directory [] = directory :=
  rfl

theorem pathOf_concat (directory : Text) (place : Place) (name : Text) :
    pathOf directory (place ++ [name]) = Path.join (pathOf directory place) name := by
  rw [pathOf, List.foldl_concat]
  rfl

/-- The tasks for one entry, without what is below it. -/
def tasksOfHome (processor directory : Text) (home : Place × Entry) : List Task :=
  [.makeDirectory (pathOf directory home.1),
    .writeDocument (Path.join (pathOf directory home.1) documentName)
      (ParameterDocument.ofEntry processor home.2).render]

theorem tasksOfEntry_eq_append (processor parent : Text) (entry : Entry) :
    tasksOfEntry processor parent entry =
      tasksOfHome processor parent ([directoryName entry.name], entry) ++
        tasksOfEntries processor (Path.join parent (directoryName entry.name))
          entry.children.slots := by
  obtain ⟨name, flags, format, description, ⟨slots, index⟩⟩ := entry
  rw [tasksOfEntry]
  rfl

theorem tasksOfEntries_eq_flatMap (processor parent : Text) (entries : List Entry) :
    tasksOfEntries processor parent entries = entries.flatMap (tasksOfEntry processor parent) := by
  induction entries with
  | nil => rfl
  | cons entry rest inductionHypothesis =>
      rw [tasksOfEntries, inductionHypothesis, List.flatMap_cons]

theorem mem_homes_iff {entries : Catalogue Entry} {home : Place × Entry} :
    home ∈ homes entries ↔
      ∃ top ∈ entries.slots, home = ([directoryName top.name], top) ∨
        ∃ child ∈ top.children.slots,
          home = ([directoryName top.name, directoryName child.name], child) := by
  simp only [homes, homesOf, List.mem_flatMap, List.mem_cons, List.mem_map, @eq_comm _ home]

/-- Sub-parameters that were read have no entries below them. -/
theorem childless_of_holds {entries : Catalogue Entry} (holds : entries.Holds Entry.IsParameter) :
    ∀ top ∈ entries.slots, ∀ child ∈ top.children.slots, child.children.slots = [] := by
  intro top listed child listedBelow
  rw [((holds.each top listed).children.each child listedBelow).children]
  rfl

/-- The homes are those of all entries, a parameter in front of its sub-parameters. -/
theorem map_snd_homes {entries : Catalogue Entry} (holds : entries.Holds Entry.IsParameter) :
    (homes entries).map Prod.snd = Entry.walkAll entries.slots := by
  have flat (slots : List Entry) : Entry.walkAll slots = slots.flatMap Entry.walk := by
    induction slots with
    | nil => rfl
    | cons top rest inductionHypothesis =>
        rw [Entry.walkAll, inductionHypothesis, List.flatMap_cons]
  rw [homes, List.map_flatMap, flat]
  apply List.flatMap_congr
  intro top listed
  have below : ∀ child ∈ top.children.slots, Entry.walk child = [child] := by
    intro child listedBelow
    rw [Entry.walk_eq_cons, childless_of_holds holds top listed child listedBelow]
    rfl
  rw [Entry.walk_eq_cons, flat, List.flatMap_congr below, List.flatMap_singleton', homesOf,
    List.map_cons, List.map_map]
  exact congrArg (top :: ·) (List.map_id _)

/-- The directories of entries that were read have plain names. -/
theorem isPlain_of_mem_homes {entries : Catalogue Entry} (holds : entries.Holds Entry.IsParameter) :
    ∀ home ∈ homes entries, Path.IsPlain (directoryName home.2.name) := by
  intro home listed
  have walked : home.2 ∈ Entry.walkAll entries.slots :=
    map_snd_homes holds ▸ List.mem_map_of_mem listed
  exact isPlain_directoryName (Entry.startsName_of_mem_walkAll holds walked)

/-- The tasks for entries that were read are those of their homes. -/
theorem tasks_eq_flatMap_homes (processor directory : Text) {entries : Catalogue Entry}
    (holds : entries.Holds Entry.IsParameter) :
    tasks processor directory entries =
      .makeDirectory directory :: (homes entries).flatMap (tasksOfHome processor directory) := by
  rw [tasks, tasksOfEntries_eq_flatMap, homes, List.flatMap_assoc]
  congr 1
  apply List.flatMap_congr
  intro top listed
  have below : ∀ child ∈ top.children.slots,
      tasksOfEntry processor (Path.join directory (directoryName top.name)) child =
        tasksOfHome processor directory
          ([directoryName top.name, directoryName child.name], child) := by
    intro child listedBelow
    rw [tasksOfEntry_eq_append, childless_of_holds holds top listed child listedBelow,
      tasksOfEntries, List.append_nil]
    rfl
  rw [tasksOfEntry_eq_append, tasksOfEntries_eq_flatMap, List.flatMap_congr below, homesOf,
    List.flatMap_cons, List.flatMap_map]

/-! ## The order of homes -/

/-- Every home is named after its entry and stands in a known place or in the home of an
entry in front of it. -/
def IsOrderly (known : List Place) : List (Place × Entry) → Prop
  | [] => True
  | home :: rest =>
    (∃ parent ∈ known, home.1 = parent ++ [directoryName home.2.name]) ∧
      IsOrderly (known ++ [home.1]) rest

theorem isOrderly_append {known : List Place} {front rest : List (Place × Entry)} :
    IsOrderly known (front ++ rest) ↔
      IsOrderly known front ∧ IsOrderly (known ++ front.map Prod.fst) rest := by
  induction front generalizing known with
  | nil => simp [IsOrderly]
  | cons home front inductionHypothesis =>
      rw [List.cons_append, IsOrderly, inductionHypothesis, IsOrderly, List.map_cons,
        List.append_assoc, List.singleton_append, and_assoc]

theorem isOrderly_of_forall {known : List Place} {homes : List (Place × Entry)}
    (each : ∀ home ∈ homes, ∃ parent ∈ known, home.1 = parent ++ [directoryName home.2.name]) :
    IsOrderly known homes := by
  induction homes generalizing known with
  | nil => trivial
  | cons home rest inductionHypothesis =>
      rw [List.forall_mem_cons] at each
      refine ⟨each.1, inductionHypothesis ?_⟩
      intro home listed
      obtain ⟨parent, inside, named⟩ := each.2 home listed
      exact ⟨parent, List.mem_append_left _ inside, named⟩

theorem isOrderly_homesOf {known : List Place} (top : Entry) (begins : [] ∈ known) :
    IsOrderly known (homesOf top) := by
  refine ⟨⟨[], begins, rfl⟩, isOrderly_of_forall ?_⟩
  intro home listed
  obtain ⟨child, _, rfl⟩ := List.mem_map.mp listed
  exact ⟨[directoryName top.name], by simp, rfl⟩

theorem isOrderly_homes (entries : Catalogue Entry) : IsOrderly [[]] (homes entries) := by
  have general (slots : List Entry) {known : List Place} (begins : [] ∈ known) :
      IsOrderly known (slots.flatMap homesOf) := by
    induction slots generalizing known with
    | nil => trivial
    | cons top rest inductionHypothesis =>
        rw [List.flatMap_cons, isOrderly_append]
        exact ⟨isOrderly_homesOf top begins, inductionHypothesis (List.mem_append_left _ begins)⟩
  exact general entries.slots List.mem_cons_self

/-! ## Runs -/

variable {base files : FileSystem} {processor directory : Text} {place : Place}

section

variable {task : Task} {rest : List Task} {error : FileError}

theorem performAll_cons_of_failure (failed : (task.perform files).failure = some error) :
    performAll files (task :: rest) =
      ⟨(task.perform files).files, [], some (task.failureMessage error)⟩ := by
  rw [performAll]
  simp only [failed]

theorem performAll_cons_of_done (done : (task.perform files).failure = none) :
    performAll files (task :: rest) =
      let others := performAll (task.perform files).files rest
      { others with finished := task :: others.finished } := by
  rw [performAll]
  simp only [done]

theorem performAll_singleton_of_done (done : (task.perform files).failure = none) :
    (performAll files [task]).failure = none := by
  rw [performAll_cons_of_done done]
  rfl

end

/-- Tasks in front of others: the others are performed if none of these fails. -/
theorem performAll_append (files : FileSystem) (front rest : List Task) :
    performAll files (front ++ rest) =
      let run := performAll files front
      match run.failure with
      | some _ => run
      | none =>
        let others := performAll run.files rest
        { others with finished := run.finished ++ others.finished } := by
  induction front generalizing files with
  | nil => rfl
  | cons task front inductionHypothesis =>
      rw [List.cons_append, performAll, performAll]
      cases (task.perform files).failure with
      | some error => rfl
      | none =>
          simp only [inductionHypothesis]
          cases failed : (performAll (task.perform files).files front).failure <;> simp [failed]

/-- What the tasks of some homes have made of a file system: the homes are there, with
the documents in them, and paths lead to them. -/
structure Reflects (base files : FileSystem) (processor directory : Text) (place : Place)
    (done : List (Place × Entry)) : Prop where
  grows : base.Grows files (done.map fun home => place ++ home.1)
    (done.map (documentAt processor place))
  leads : ∀ known ∈ [] :: done.map Prod.fst,
    files.LeadsTo (pathOf directory known) (place ++ known)

/-- Writing a document that fails changes nothing. -/
theorem files_perform_writeDocument {path content : Text}
    (failed : (Task.perform files (.writeDocument path content)).failure ≠ none) :
    (Task.perform files (.writeDocument path content)).files = files := by
  rw [Task.perform] at failed ⊢
  cases written : files.writeFile path (Utf8.encode content) with
  | error error => rfl
  | ok after => simp [written] at failed

section Home

variable {done : List (Place × Entry)} {home : Place × Entry}
  (reflects : Reflects base files processor directory place done)
  (known : ∃ parent ∈ [] :: done.map Prod.fst, home.1 = parent ++ [directoryName home.2.name])
  (plain : Path.IsPlain (directoryName home.2.name))

include reflects known plain

/-- Creating the directory of a home that does not fail makes sure that it is there. -/
theorem grows_makeDirectory_home
    (made : (files.makeDirectories (pathOf directory home.1)).failure = none) :
    files.Grows (files.makeDirectories (pathOf directory home.1)).files [place ++ home.1] [] ∧
      (files.makeDirectories (pathOf directory home.1)).files.LeadsTo (pathOf directory home.1)
        (place ++ home.1) := by
  obtain ⟨parent, inside, named⟩ := known
  have leads := reflects.leads parent inside
  rw [named, pathOf_concat] at made ⊢
  rw [← List.append_assoc]
  exact ⟨FileSystem.grows_makeDirectories_join leads plain made,
    FileSystem.leadsTo_makeDirectories_join leads plain made⟩

/-- Creating the directory of a home that fails changes nothing. -/
theorem files_makeDirectory_home
    (failed : (files.makeDirectories (pathOf directory home.1)).failure ≠ none) :
    (files.makeDirectories (pathOf directory home.1)).files = files := by
  obtain ⟨parent, inside, named⟩ := known
  rw [named, pathOf_concat] at failed ⊢
  exact FileSystem.files_makeDirectories_join (reflects.leads parent inside) plain failed

/-- If the tasks of a home are all done, it is there with its document. -/
theorem reflects_performAll_home
    (unfailing : (performAll files (tasksOfHome processor directory home)).failure = none) :
    Reflects base (performAll files (tasksOfHome processor directory home)).files processor
      directory place (done ++ [home]) := by
  have completes : Completes files (tasksOfHome processor directory home)
      (performAll files (tasksOfHome processor directory home)).files := ⟨unfailing, rfl⟩
  generalize (performAll files (tasksOfHome processor directory home)).files = after at completes ⊢
  rw [tasksOfHome, completes_cons_iff, completes_cons_iff] at completes
  obtain ⟨made, written, ended⟩ := completes
  obtain rfl := ended.files
  obtain ⟨madeGrows, leadsHome⟩ := grows_makeDirectory_home reflects known plain made
  have writtenGrows := grows_perform_writeDocument isPlain_documentName leadsHome written
  have homeGrows := madeGrows.trans writtenGrows
  constructor
  · have grows := reflects.grows.trans homeGrows
    rw [List.map_append, List.map_append]
    rwa [List.append_assoc] at grows
  · intro place listed
    rw [List.map_append, ← List.cons_append, List.mem_append] at listed
    rcases listed with before | last
    · exact (reflects.leads place before).gains homeGrows.toGains
    · obtain rfl := List.mem_singleton.mp last
      exact leadsHome.gains writtenGrows.toGains

/-- If a task of a home fails, at most its directory has been made. -/
theorem grows_performAll_home
    (failed : (performAll files (tasksOfHome processor directory home)).failure ≠ none) :
    ∃ made, made <+: [home] ∧
      base.Grows (performAll files (tasksOfHome processor directory home)).files
        ((done ++ made).map fun home => place ++ home.1)
        (done.map (documentAt processor place)) := by
  rw [tasksOfHome] at failed ⊢
  cases made : (Task.perform files (.makeDirectory (pathOf directory home.1))).failure with
  | some error =>
      have same := files_makeDirectory_home reflects known plain
        (Option.ne_none_iff_exists'.mpr ⟨error, made⟩)
      refine ⟨[], List.nil_prefix, ?_⟩
      rw [List.append_nil, performAll_cons_of_failure made, Task.perform, same]
      exact reflects.grows
  | none =>
      obtain ⟨madeGrows, _⟩ := grows_makeDirectory_home reflects known plain made
      rw [performAll_cons_of_done made] at failed ⊢
      have unwritten := mt performAll_singleton_of_done failed
      obtain ⟨error, failure⟩ := Option.ne_none_iff_exists'.mp unwritten
      refine ⟨[home], List.prefix_rfl, ?_⟩
      have grows := reflects.grows.trans madeGrows
      rw [List.append_nil] at grows
      rw [List.map_append, performAll_cons_of_failure failure,
        files_perform_writeDocument unwritten]
      exact grows

end Home

/-- Whatever the tasks of homes come to, they make the first homes and put documents
into the first of these, and nothing else. -/
theorem grows_performAll_homes {done rest : List (Place × Entry)}
    (reflects : Reflects base files processor directory place done)
    (orderly : IsOrderly ([] :: done.map Prod.fst) rest)
    (plain : ∀ home ∈ rest, Path.IsPlain (directoryName home.2.name)) :
    ∃ made filed, made <+: rest ∧ filed <+: made ∧
      base.Grows (performAll files (rest.flatMap (tasksOfHome processor directory))).files
        ((done ++ made).map fun home => place ++ home.1)
        ((done ++ filed).map (documentAt processor place)) := by
  induction rest generalizing files done with
  | nil =>
      refine ⟨[], [], List.nil_prefix, List.nil_prefix, ?_⟩
      rw [List.append_nil]
      exact reflects.grows
  | cons home rest inductionHypothesis =>
      rw [List.forall_mem_cons] at plain
      rw [List.flatMap_cons, performAll_append]
      cases failure : (performAll files (tasksOfHome processor directory home)).failure with
      | some error =>
          obtain ⟨made, first, grows⟩ :=
            grows_performAll_home reflects orderly.1 plain.1 (by simp [failure])
          refine ⟨made, [], first.trans (List.prefix_append [home] rest), List.nil_prefix, ?_⟩
          simp only [failure, List.append_nil]
          exact grows
      | none =>
          -- Its home may be the parent of later ones, so it counts as known from here on.
          have after := reflects_performAll_home reflects orderly.1 plain.1 failure
          have others : IsOrderly ([] :: (done ++ [home]).map Prod.fst) rest := by
            rw [List.map_append]
            exact orderly.2
          obtain ⟨made, filed, first, within, grows⟩ := inductionHypothesis after others plain.2
          refine ⟨home :: made, home :: filed, List.prefix_cons_inj home |>.mpr first,
            List.prefix_cons_inj home |>.mpr within, ?_⟩
          simp only [failure]
          rwa [List.append_cons, List.append_cons done home filed]

end BootManual.Database
