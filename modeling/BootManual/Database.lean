import BootManual.FileSystem
import BootManual.ParameterDocument

/-!
# The database of a manual

Every entry gets a directory of its own with one document in it.  The directories
of sub-parameters stand inside the directory of their parameter.  Writing a
database is a list of tasks that is known before the first of them begins; the
first task that fails ends the work.
-/

namespace BootManual.Database

/-- The name of the document in the directory of an entry. -/
def documentName : Text :=
  "parameter.toml".toList

/-- The name of the directory of an entry: its own name, with an underscore for
every character that separates names in a path. -/
def directoryName (name : Text) : Text :=
  name.map fun letter => if letter = '/' || letter = '\\' then '_' else letter

/-- One step of writing a database. -/
inductive Task where
  /-- Create a directory and all that lead to it. -/
  | makeDirectory (path : Text)
  /-- Write a document into a directory. -/
  | writeDocument (path content : Text)
  deriving DecidableEq, Repr

mutual

/-- The tasks for an entry inside the directory of its parent. -/
def tasksOfEntry (processor parent : Text) : Entry → List Task
  | ⟨name, flags, format, description, ⟨slots, index⟩⟩ =>
    let directory := Path.join parent (directoryName name)
    let document :=
      ParameterDocument.ofEntry processor ⟨name, flags, format, description, ⟨slots, index⟩⟩
    .makeDirectory directory ::
      .writeDocument (Path.join directory documentName) document.render ::
      tasksOfEntries processor directory slots

/-- The tasks for entries inside one directory. -/
def tasksOfEntries (processor parent : Text) : List Entry → List Task
  | [] => []
  | entry :: rest => tasksOfEntry processor parent entry ++ tasksOfEntries processor parent rest

end

/-- The tasks for a whole database. -/
def tasks (processor directory : Text) (entries : Catalogue Entry) : List Task :=
  .makeDirectory directory :: tasksOfEntries processor directory entries.slots

namespace Task

/-- Whether a task writes a document. -/
def isDocument : Task → Bool
  | makeDirectory _ => false
  | writeDocument _ _ => true

/-- The file system after a task. -/
def perform (files : FileSystem) : Task → Change
  | makeDirectory path => files.makeDirectories path
  | writeDocument path content =>
    match files.writeFile path (Utf8.encode content) with
    | .ok written => ⟨written, none⟩
    | .error error => ⟨files, some error⟩

/-- The message about a task that failed. -/
def failureMessage (error : FileError) : Task → Text
  | makeDirectory path => "cannot create ".toList ++ path ++ ": ".toList ++ error.message
  | writeDocument path _ => "cannot write ".toList ++ path ++ ": ".toList ++ error.message

end Task

/-- How many of some tasks write a document. -/
def documentCount (tasks : List Task) : Nat :=
  (tasks.filter Task.isDocument).length

/-- What performing tasks came to: the files afterwards, the tasks done, and the
message about the one that failed, if any. -/
structure Completion where
  files : FileSystem
  finished : List Task
  failure : Option Text
  deriving Repr

/-- Perform tasks until one of them fails. -/
def performAll (files : FileSystem) : List Task → Completion
  | [] => ⟨files, [], none⟩
  | task :: rest =>
    let change := task.perform files
    match change.failure with
    | some error => ⟨change.files, [], some (task.failureMessage error)⟩
    | none =>
      let others := performAll change.files rest
      { others with finished := task :: others.finished }

/-- Write the database of a catalogue into a directory. -/
def write (files : FileSystem) (processor directory : Text) (entries : Catalogue Entry) :
    Completion :=
  performAll files (tasks processor directory entries)

end BootManual.Database
