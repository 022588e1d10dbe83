import BootManual.Proofs.DatabaseRuns
import BootManual.Proofs.OutputDirectories

/-!
# Nothing is written outside

The name of an entry begins with a letter or a digit and has no character left in its
directory that cuts paths.  So whatever a manual says, its database makes the output
directory and those that lead to it, and all else stands below: one directory, or two,
and the document in it.
-/

namespace BootManual

namespace FileSystem

variable {files after : FileSystem} {place : Place}

/-- Where a directory stands afterwards, there was one or nothing. -/
theorem Gains.node?_of_directory {documents : List (Place × List UInt8)}
    (gains : Gains files after documents) (stands : after.node? place = some .directory) :
    files.node? place = none ∨ files.node? place = some .directory := by
  have nothing : after.content? place = none := by simp [content?, stands, FileNode.content?]
  rw [gains.content, Option.or_eq_none_iff] at nothing
  by_cases directory : files.node? place = some .directory
  · exact .inr directory
  · exact .inl (node?_eq_none_iff.mpr ⟨directory, nothing.2⟩)

/-- A place where something else stands afterwards is that of a directory that was made
or of a document that was written. -/
theorem Grows.mem_of_ne {directories : List Place} {documents : List (Place × List UInt8)}
    (grows : Grows files after directories documents)
    (changed : after.node? place ≠ files.node? place) :
    (place ∈ directories ∧ files.node? place = none ∧ after.node? place = some .directory) ∨
      ∃ content, (place, content) ∈ documents ∧ after.node? place = some (.file content) := by
  cases stands : after.node? place with
  | none => exact absurd (stands.trans (grows.node?_eq_none stands).symm) changed
  | some node =>
      cases node with
      | directory =>
          have before : files.node? place ≠ some .directory := fun same =>
            changed (stands.trans same.symm)
          have listed := ((grows.directory place).mp stands).resolve_left before
          exact .inl ⟨listed, (grows.node?_of_directory stands).resolve_right before, rfl⟩
      | file content =>
          have held := node?_eq_file_iff.mp stands
          rw [grows.content, Option.or_eq_some_iff] at held
          rcases held with found | ⟨_, before⟩
          · obtain ⟨front, rest, cut, _⟩ := List.lookup_eq_some_iff.mp found
            refine .inr ⟨content, List.mem_reverse.mp ?_, rfl⟩
            rw [cut]
            simp
          · exact absurd (stands.trans (node?_eq_file_iff.mpr before).symm) changed

end FileSystem

namespace Database

/-! ## Names of homes -/

/-- One or two names below an output directory, each of which leads down. -/
structure IsHome (place : Place) : Prop where
  depth : place.length = 1 ∨ place.length = 2
  plain : ∀ name ∈ place, Path.IsPlain name ∧ '\\' ∉ name

theorem backslash_notMem_directoryName (name : Text) : '\\' ∉ directoryName name := by
  rw [directoryName, List.mem_map]
  rintro ⟨letter, _, same⟩
  split at same
  · exact absurd same (by decide)
  · next kept => simp [same] at kept

variable {entries : Catalogue Entry}

theorem isPlain_of_mem_walkAll (holds : entries.Holds Entry.IsParameter) {entry : Entry}
    (listed : entry ∈ Entry.walkAll entries.slots) :
    Path.IsPlain (directoryName entry.name) ∧ '\\' ∉ directoryName entry.name :=
  ⟨isPlain_directoryName (Entry.startsName_of_mem_walkAll holds listed),
    backslash_notMem_directoryName entry.name⟩

theorem isHome_of_mem_homes (holds : entries.Holds Entry.IsParameter) {home : Place × Entry}
    (listed : home ∈ homes entries) : IsHome home.1 := by
  have plain : ∀ other ∈ homes entries,
      Path.IsPlain (directoryName other.2.name) ∧ '\\' ∉ directoryName other.2.name :=
    fun other inside => ⟨isPlain_of_mem_homes holds other inside,
      backslash_notMem_directoryName other.2.name⟩
  obtain ⟨top, inSlots, same⟩ := mem_homes_iff.mp listed
  have topPlain := plain ([directoryName top.name], top)
    (mem_homes_iff.mpr ⟨top, inSlots, .inl rfl⟩)
  rcases same with rfl | ⟨child, _, rfl⟩
  · exact ⟨.inl rfl, List.forall_mem_singleton.mpr topPlain⟩
  · exact ⟨.inr rfl, List.forall_mem_cons.mpr
      ⟨topPlain, List.forall_mem_singleton.mpr (plain _ listed)⟩⟩

/-! ## Tasks -/

/-- A task makes the output directory, or the home of an entry, or the document in it. -/
inductive Task.IsWithin (directory : Text) : Task → Prop
  | output : IsWithin directory (.makeDirectory directory)
  | home {place : Place} (below : IsHome place) :
      IsWithin directory (.makeDirectory (pathOf directory place))
  | document {place : Place} (content : Text) (below : IsHome place) :
      IsWithin directory (.writeDocument (Path.join (pathOf directory place) documentName) content)

theorem isWithin_of_mem_tasks (holds : entries.Holds Entry.IsParameter)
    {processor directory : Text} {task : Task} (listed : task ∈ tasks processor directory entries) :
    task.IsWithin directory := by
  rw [tasks_eq_flatMap_homes processor directory holds, List.mem_cons, List.mem_flatMap] at listed
  rcases listed with rfl | ⟨home, inHomes, listed⟩
  · exact .output
  · have below := isHome_of_mem_homes holds inHomes
    rw [tasksOfHome, List.mem_pair] at listed
    rcases listed with rfl | rfl
    · exact .home below
    · exact .document _ below

/-! ## Places -/

/-- A place at which a database may have changed something: the output directory or one
that leads to it, which was missing, or a home or a document strictly below. -/
inductive IsConfined (files after : FileSystem) (directory : Text) : Place → Prop
  | leading {place : Place} (missing : files.node? place = none)
      (made : after.node? place = some .directory) (leads : after.LeadsThrough directory place) :
      IsConfined files after directory place
  | home {place below : Place} (leads : after.LeadsTo directory place) (home : IsHome below)
      (missing : files.node? (place ++ below) = none)
      (made : after.node? (place ++ below) = some .directory) :
      IsConfined files after directory (place ++ below)
  | document {place below : Place} {content : List UInt8} (leads : after.LeadsTo directory place)
      (home : IsHome below)
      (written : after.node? (place ++ (below ++ [documentName])) = some (.file content)) :
      IsConfined files after directory (place ++ (below ++ [documentName]))

section Changes

variable {base files after : FileSystem} {processor directory : Text}

/-- What is made on the way stays as long as no directory is lost. -/
theorem isConfined_of_makesWay (way : base.MakesWay files directory)
    {documents : List (Place × List UInt8)} (gains : files.Gains after documents) {place : Place}
    (changed : files.node? place ≠ base.node? place) : IsConfined base after directory place := by
  obtain ⟨made, grows, leads⟩ := way
  rcases grows.mem_of_ne changed with ⟨listed, missing, stands⟩ | ⟨content, listed, _⟩
  · exact .leading missing (gains.kept place stands) ((leads place listed).gains gains)
  · contradiction

/-- The homes that were made, and the documents that were written, stand below. -/
theorem isConfined_of_grows {place : Place} {made filed : List (Place × Entry)}
    (leads : files.LeadsTo directory place)
    (grows : files.Grows after (made.map fun home => place ++ home.1)
      (filed.map (documentAt processor place)))
    (homeMade : ∀ home ∈ made, IsHome home.1) (homeFiled : ∀ home ∈ filed, IsHome home.1)
    {other : Place} (changed : after.node? other ≠ files.node? other)
    (missing : files.node? other = none → base.node? other = none) :
    IsConfined base after directory other := by
  have leadsAfter := leads.gains grows.toGains
  rcases grows.mem_of_ne changed with ⟨listed, nothing, stands⟩ | ⟨content, listed, written⟩
  · obtain ⟨home, inside, rfl⟩ := List.mem_map.mp listed
    exact .home leadsAfter (homeMade home inside) (missing nothing) stands
  · obtain ⟨home, inside, same⟩ := List.mem_map.mp listed
    obtain ⟨rfl, rfl⟩ := Prod.mk.inj same
    exact .document leadsAfter (homeFiled home inside) written

/-- Where the empty path leads nowhere, no entry is written. -/
theorem performAll_homes_of_nowhere (holds : entries.Holds Entry.IsParameter)
    (nowhere : ¬ ∃ place, files.LeadsTo [] place) :
    (performAll files ((homes entries).flatMap (tasksOfHome processor []))).files = files := by
  have orderly := isOrderly_homes entries
  have plain := isPlain_of_mem_homes holds
  cases listed : homes entries with
  | nil => rfl
  | cons home rest =>
      rw [listed] at orderly plain
      obtain ⟨⟨parent, top, named⟩, _⟩ := orderly
      obtain rfl := List.mem_singleton.mp top
      obtain ⟨error, failed⟩ :=
        FileSystem.makeDirectories_of_nowhere nowhere (plain home List.mem_cons_self)
      let task : Task := .makeDirectory (pathOf [] home.1)
      have first : task.perform files = ⟨files, some error⟩ := by
        rw [Task.perform, named]
        exact failed
      have failure : (task.perform files).failure = some error := by rw [first]
      rw [List.flatMap_cons, tasksOfHome, List.cons_append, performAll_cons_of_failure failure,
        first]

/-- What a database adds to the output directory: nothing, or the first homes and the
documents in the first of these, below the place to which the path leads. -/
theorem grows_write (holds : entries.Holds Entry.IsParameter) (files : FileSystem)
    (processor directory : Text) :
    let made := (files.makeDirectories directory).files
    let after := (write files processor directory entries).files
    after = made ∨
      ∃ place homesMade homesFiled, made.LeadsTo directory place ∧
        homesMade <+: homes entries ∧ homesFiled <+: homesMade ∧
        made.Grows after (homesMade.map fun home => place ++ home.1)
          (homesFiled.map (documentAt processor place)) := by
  intro made after
  obtain ⟨_, arrives⟩ := FileSystem.makesSure_makeDirectories files directory
  have split := tasks_eq_flatMap_homes processor directory holds
  cases failure : (Task.perform files (.makeDirectory directory)).failure with
  | some error =>
      left
      simp only [after, write, split, performAll_cons_of_failure failure]
      rfl
  | none =>
      have same : after =
          (performAll made ((homes entries).flatMap (tasksOfHome processor directory))).files := by
        simp only [after, write, split, performAll_cons_of_done failure]
        rfl
      by_cases somewhere : ∃ place, made.LeadsTo directory place
      · right
        obtain ⟨place, leads⟩ := somewhere
        have begins : Reflects made made processor directory place [] :=
          ⟨FileSystem.Grows.refl made, by simpa using leads⟩
        obtain ⟨homesMade, homesFiled, first, within, grows⟩ :=
          grows_performAll_homes begins (isOrderly_homes entries) (isPlain_of_mem_homes holds)
        rw [List.nil_append, List.nil_append, ← same] at grows
        exact ⟨place, homesMade, homesFiled, leads, first, within, grows⟩
      · -- Only the empty path can be made without leading anywhere.
        left
        have empty : directory = [] := by
          by_contra named
          exact somewhere (arrives failure named)
        subst empty
        rw [same]
        exact performAll_homes_of_nowhere holds somewhere

end Changes

/-- Whatever a manual says, its entries give plain names for their directories, each
task makes the output directory or writes below it, and what has changed afterwards, also
after a failure, is the output directory, one that leads to it, or stands below. -/
theorem write_confined (context : Context) (text : Text) {entries : Catalogue Entry}
    (read : (Manual.ofText context text).result = .ok entries) (files : FileSystem)
    (processor directory : Text) :
    let written := write files processor directory entries
    (∀ entry ∈ Entry.walkAll entries.slots,
        Path.IsPlain (directoryName entry.name) ∧ '\\' ∉ directoryName entry.name) ∧
      (∀ task ∈ tasks processor directory entries, task.IsWithin directory) ∧
      ∀ place, written.files.node? place ≠ files.node? place →
        IsConfined files written.files directory place := by
  intro written
  have holds := Manual.holds_of_ofText read
  refine ⟨fun entry => isPlain_of_mem_walkAll holds, fun task => isWithin_of_mem_tasks holds, ?_⟩
  intro place changed
  obtain ⟨way, _⟩ := FileSystem.makesSure_makeDirectories files directory
  rcases grows_write holds files processor directory with
    same | ⟨output, made, filed, leads, first, within, grows⟩
  · rw [show written.files = _ from same] at changed ⊢
    exact isConfined_of_makesWay way (FileSystem.Gains.refl _) changed
  · -- A place that the first task left alone was changed by the tasks of the entries.
    by_cases earlier : (files.makeDirectories directory).files.node? place = files.node? place
    · rw [← earlier] at changed
      refine isConfined_of_grows leads grows ?_ ?_ changed (fun missing => earlier ▸ missing)
      · exact fun home inside => isHome_of_mem_homes holds (first.subset inside)
      · exact fun home inside => isHome_of_mem_homes holds (first.subset (within.subset inside))
    · exact isConfined_of_makesWay way grows.toGains earlier

/-- A name with a slash, and a sub-parameter whose directory cannot be made: both levels
of the output directory have been made by then, and a document below. -/
theorem write_confined_slash :
    let child : Entry := ⟨documentName, none, .unset, [], Catalogue.empty⟩
    let entries := Catalogue.ofList
      [⟨"a/b".toList, none, .complex, [], Catalogue.ofList [child]⟩]
    let files := FileSystem.empty none
    let written := write files "kernel".toList "new/db".toList entries
    let place := ["new".toList, "db".toList, "a_b".toList, documentName]
    (Manual.ofText ⟨none, .reject⟩ "\ta/b\n\t\tparameter.toml\n".toList).result = .ok entries ∧
      written.failure ≠ none ∧
      written.files.node? place ≠ files.node? place ∧
      IsConfined files written.files "new/db".toList place := by
  intro child entries files written place
  have read : (Manual.ofText ⟨none, .reject⟩ "\ta/b\n\t\tparameter.toml\n".toList).result =
      .ok entries := rfl
  have changed : written.files.node? place ≠ files.node? place := by decide +kernel +zetaReduce
  have confined := write_confined ⟨none, .reject⟩ _ read files "kernel".toList "new/db".toList
  exact ⟨read, by decide +kernel +zetaReduce, changed, confined.2.2 place changed⟩

end Database

end BootManual
