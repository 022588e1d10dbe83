import BootManual.Database
import BootManual.Proofs.Growth

/-!
# Writing databases

The tasks of a database, if all of them are done, write one document for every entry,
in the directory of that entry, and change no other file.  The name of an entry begins
with a letter or a digit, so the name of its directory always leads down.
-/

namespace BootManual

namespace Database

/-! ## Plain names -/

theorem isPlain_directoryName {name : Text} (starts : Line.startsName name) :
    Path.IsPlain (directoryName name) := by
  rcases name with _ | ⟨first, rest⟩
  · contradiction
  have first_isAlphanum : first.isAlphanum := starts
  have kept : directoryName (first :: rest) = first :: directoryName rest := by
    have notSlash : first ≠ '/' := by
      rintro rfl
      exact absurd first_isAlphanum (by decide)
    have notBackslash : first ≠ '\\' := by
      rintro rfl
      exact absurd first_isAlphanum (by decide)
    simp [directoryName, notSlash, notBackslash]
  have notDot : first ≠ '.' := by
    rintro rfl
    exact absurd first_isAlphanum (by decide)
  rw [kept]
  exact
    { nonempty := List.cons_ne_nil _ _
      single := by
        rw [← kept, directoryName, List.mem_map]
        rintro ⟨letter, _, slash⟩
        split at slash
        · exact absurd slash (by decide)
        · next plain => simp [slash] at plain
      ne_stay := fun same => notDot (List.cons.inj same).1
      ne_up := fun same => notDot (List.cons.inj same).1 }

theorem isPlain_documentName : Path.IsPlain documentName :=
  ⟨by decide, by decide, by decide, by decide⟩

/-! ## Tasks that are all done -/

/-- All tasks are done, which leads to these files. -/
structure Completes (files : FileSystem) (tasks : List Task) (after : FileSystem) : Prop where
  unfailing : (performAll files tasks).failure = none
  files : (performAll files tasks).files = after

variable {files after : FileSystem} {task : Task} {tasks others : List Task}

theorem completes_cons_iff :
    Completes files (task :: tasks) after ↔
      (task.perform files).failure = none ∧ Completes (task.perform files).files tasks after := by
  cases failed : (task.perform files).failure with
  | some error =>
      constructor
      · rintro ⟨unfailing, _⟩
        simp [performAll, failed] at unfailing
      · rintro ⟨unfailing, _⟩
        contradiction
  | none =>
      constructor
      · rintro ⟨unfailing, same⟩
        simp only [performAll, failed] at unfailing same
        exact ⟨rfl, unfailing, same⟩
      · rintro ⟨_, unfailing, same⟩
        constructor
        · simp only [performAll, failed, unfailing]
        · simp only [performAll, failed, same]

theorem completes_append_iff :
    Completes files (tasks ++ others) after ↔
      ∃ between, Completes files tasks between ∧ Completes between others after := by
  induction tasks generalizing files with
  | nil =>
      constructor
      · intro completes
        exact ⟨files, ⟨rfl, rfl⟩, completes⟩
      · rintro ⟨between, ⟨_, rfl⟩, completes⟩
        exact completes
  | cons task tasks inductionHypothesis =>
      simp only [List.cons_append, completes_cons_iff, inductionHypothesis, and_assoc,
        exists_and_left]

/-- If no task fails, all of them are done. -/
theorem Completes.finished_eq (completes : Completes files tasks after) :
    (performAll files tasks).finished = tasks := by
  induction tasks generalizing files with
  | nil => rfl
  | cons task tasks inductionHypothesis =>
      obtain ⟨done, rest⟩ := completes_cons_iff.mp completes
      simp only [performAll, done, inductionHypothesis rest]

/-! ## The documents of entries -/

/-- The content of the document of an entry. -/
def contentOf (processor : Text) (entry : Entry) : List UInt8 :=
  Utf8.encode (ParameterDocument.ofEntry processor entry).render

mutual

/-- The documents of an entry and everything below it, in the order in which they are
written, for a place where the directory of the entry stands. -/
def documentsOfEntry (processor : Text) (place : Place) :
    Entry → List (Place × List UInt8)
  | ⟨name, flags, format, description, ⟨slots, index⟩⟩ =>
    let home := place ++ [directoryName name]
    (home ++ [documentName],
        contentOf processor ⟨name, flags, format, description, ⟨slots, index⟩⟩) ::
      documentsOfEntries processor home slots

/-- The documents of entries side by side and of everything below them. -/
def documentsOfEntries (processor : Text) (place : Place) :
    List Entry → List (Place × List UInt8)
  | [] => []
  | entry :: rest =>
    documentsOfEntry processor place entry ++ documentsOfEntries processor place rest

end

@[simp]
theorem documentCount_makeDirectory (path : Text) (tasks : List Task) :
    documentCount (.makeDirectory path :: tasks) = documentCount tasks :=
  rfl

@[simp]
theorem documentCount_writeDocument (path content : Text) (tasks : List Task) :
    documentCount (.writeDocument path content :: tasks) = documentCount tasks + 1 :=
  rfl

@[simp]
theorem documentCount_append (tasks others : List Task) :
    documentCount (tasks ++ others) = documentCount tasks + documentCount others := by
  simp [documentCount]

mutual

theorem documentCount_tasksOfEntry (processor parent : Text) (place : Place) :
    ∀ entry, documentCount (tasksOfEntry processor parent entry) =
      (documentsOfEntry processor place entry).length
  | ⟨name, _, _, _, ⟨slots, _⟩⟩ => by
    have below := documentCount_tasksOfEntries processor
      (Path.join parent (directoryName name)) (place ++ [directoryName name]) slots
    simp [tasksOfEntry, documentsOfEntry, below]

theorem documentCount_tasksOfEntries (processor parent : Text) (place : Place) :
    ∀ entries, documentCount (tasksOfEntries processor parent entries) =
      (documentsOfEntries processor place entries).length
  | [] => rfl
  | entry :: rest => by
    simp [tasksOfEntries, documentsOfEntries,
      documentCount_tasksOfEntry processor parent place entry,
      documentCount_tasksOfEntries processor parent place rest]

end

/-! ## Writing entries -/

/-- Writing a document, unless it fails, writes its text at that place. -/
theorem grows_perform_writeDocument {directory name content : Text} {place : Place}
    (plain : Path.IsPlain name) (leads : files.LeadsTo directory place)
    (done : (Task.perform files (.writeDocument (Path.join directory name) content)).failure =
      none) :
    files.Grows (Task.perform files (.writeDocument (Path.join directory name) content)).files []
      [(place ++ [name], Utf8.encode content)] := by
  rw [Task.perform] at done ⊢
  cases written : files.writeFile (Path.join directory name) (Utf8.encode content) with
  | error error => simp [written] at done
  | ok after => exact FileSystem.grows_writeFile_join leads plain written

mutual

/-- If all tasks for an entry are done, the documents of the entry and of everything
below it have been written, and nothing else. -/
theorem gains_tasksOfEntry (processor : Text) {parent : Text} {place : Place} :
    ∀ (entry : Entry) {files after : FileSystem},
      (∀ below ∈ entry.walk, Line.startsName below.name) → files.LeadsTo parent place →
      Completes files (tasksOfEntry processor parent entry) after →
      files.Gains after (documentsOfEntry processor place entry)
  | ⟨name, _, _, _, ⟨slots, _⟩⟩, files, after, named, leads, completes => by
    -- The directory of the entry is the parent of its document and of all that is below.
    rw [Entry.walk, List.forall_mem_cons] at named
    have plain := isPlain_directoryName named.1
    rw [tasksOfEntry, completes_cons_iff] at completes
    obtain ⟨made, completes⟩ := completes
    rw [completes_cons_iff] at completes
    obtain ⟨written, completes⟩ := completes
    have madeGains := (FileSystem.grows_makeDirectories_join leads plain made).toGains
    have leadsHome := FileSystem.leadsTo_makeDirectories_join leads plain made
    have writtenGains :=
      (grows_perform_writeDocument isPlain_documentName leadsHome written).toGains
    have belowGains := gains_tasksOfEntries processor slots named.2
      (leadsHome.gains writtenGains) completes
    exact (madeGains.trans writtenGains).trans belowGains

/-- The same for entries side by side. -/
theorem gains_tasksOfEntries (processor : Text) {parent : Text} {place : Place} :
    ∀ (entries : List Entry) {files after : FileSystem},
      (∀ below ∈ Entry.walkAll entries, Line.startsName below.name) →
      files.LeadsTo parent place →
      Completes files (tasksOfEntries processor parent entries) after →
      files.Gains after (documentsOfEntries processor place entries)
  | [], files, after, _, _, completes => by
    obtain rfl := completes.files
    exact FileSystem.Gains.refl files
  | entry :: rest, files, after, named, leads, completes => by
    rw [Entry.walkAll, List.forall_mem_append] at named
    obtain ⟨between, first, others⟩ := completes_append_iff.mp completes
    have firstGains := gains_tasksOfEntry processor entry named.1 leads first
    have othersGains := gains_tasksOfEntries processor rest named.2 (leads.gains firstGains) others
    exact firstGains.trans othersGains

end

/-- A database in a directory that is there writes the documents of its entries, in
order, and nothing else. -/
theorem gains_write {processor directory : Text} {place : Place} {entries : Catalogue Entry}
    (named : ∀ entry ∈ Entry.walkAll entries.slots, Line.startsName entry.name)
    (leads : files.LeadsTo directory place)
    (done : (write files processor directory entries).failure = none) :
    files.Gains (write files processor directory entries).files
      (documentsOfEntries processor place entries.slots) := by
  have completes : Completes files (tasks processor directory entries)
      (write files processor directory entries).files := ⟨done, rfl⟩
  rw [tasks, completes_cons_iff, Task.perform, FileSystem.makeDirectories_of_leadsTo leads]
    at completes
  exact gains_tasksOfEntries processor entries.slots named leads completes.2

/-- All documents that were written are counted. -/
theorem documentCount_finished_write {processor directory : Text} {entries : Catalogue Entry}
    (place : Place) (done : (write files processor directory entries).failure = none) :
    documentCount (write files processor directory entries).finished =
      (documentsOfEntries processor place entries.slots).length := by
  have completes : Completes files (tasks processor directory entries)
      (write files processor directory entries).files := ⟨done, rfl⟩
  rw [write, completes.finished_eq, tasks, documentCount_makeDirectory,
    documentCount_tasksOfEntries processor directory place]

end Database

end BootManual
