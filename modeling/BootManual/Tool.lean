import BootManual.CatalogueTree
import BootManual.CommandLine
import BootManual.Database
import BootManual.Listing
import BootManual.Manual
import BootManual.Text.ControlSequence

/-!
# The command line tool

The tool reads a manual, shows it if asked to, and writes the database.  Once the
manual has been read, all that is left to do is known: it is a script, a list of
actions and the message with which the tool fails after them, if it does.  A
script is carried out in order until an action fails.
-/

namespace BootManual

/-- A line for the error output, in the name of a part of the tool. -/
structure LogLine where
  level : LogLevel
  target : Text
  message : Text
  deriving DecidableEq, Repr

namespace LogLine

/-- The name of a level in capitals, filled up to five columns. -/
def levelColumn (level : LogLevel) : Text :=
  let name := level.name.map Char.toUpper
  name ++ List.replicate (5 - name.length) ' '

/-- A log line as it is laid out.  Further lines of a message are indented. -/
def layOut (line : LogLine) : Text :=
  '[' :: levelColumn line.level ++ ' ' :: line.target ++ "] ".toList ++
    Text.join "\n    ".toList (Text.pieces '\n' line.message) ++ ['\n']

/-- The text of a log line.  What a terminal would not show is left out, the end of
the line included if a message leaves a sequence open. -/
def render (line : LogLine) : Text :=
  ControlSequence.remove line.layOut

end LogLine

/-- One thing that the tool does. -/
inductive Action where
  /-- Write to the error output. -/
  | log (line : LogLine)
  /-- Write to the standard output. -/
  | print (text : Text)
  /-- Change files. -/
  | work (task : Database.Task)
  deriving DecidableEq, Repr

/-- Actions, and the message with which the tool fails after them. -/
structure Script where
  actions : List Action
  failure : Option Text
  deriving DecidableEq, Repr

namespace Tool

/-- The name of the tool and its version. -/
def versionText : Text :=
  "kparams 1.0.0\n".toList

/-- The usage of the tool. -/
def helpText : Text :=
  "Usage: kparams [OPTIONS] <PARAMETERS> [OUTDIR]\n".toList

/-- The part that reads manuals. -/
def readerTarget : Text :=
  "libkparams::parser".toList

/-- The part that writes the database. -/
def databaseTarget : Text :=
  "kparams::database".toList

/-- The tool itself. -/
def toolTarget : Text :=
  "kparams".toList

/-- A log line as an action, if a listener at this level hears it. -/
def say (listener level : LogLevel) (target message : Text) : List Action :=
  if listener.hears level then [.log ⟨level, target, message⟩] else []

/-- The records of a reading as actions. -/
def sayRecords (listener : LogLevel) (records : List Record) : List Action :=
  records.flatMap fun record =>
    say listener record.notice.level readerTarget record.notice.message

/-- The text that shows a catalogue. -/
def present (entries : Catalogue Entry) : ListingFormat → Text
  | .text => Listing.render entries
  | .yaml => (CatalogueTree.ofCatalogue entries).render

/-- A task, and a line about it once a document is written. -/
def workOn (listener : LogLevel) : Database.Task → List Action
  | .makeDirectory path => [.work (.makeDirectory path)]
  | .writeDocument path content =>
    .work (.writeDocument path content) ::
      say listener .debug databaseTarget ("wrote ".toList ++ path)

/-- The actions that write the database of a catalogue. -/
def writeActions (options : Options) (entries : Catalogue Entry) : List Action :=
  let tasks := Database.tasks options.processor options.directory entries
  let count := Text.ofNat (Database.documentCount tasks)
  tasks.flatMap (workOn options.level) ++
    say options.level .info toolTarget
      ("wrote ".toList ++ count ++ " documents under ".toList ++ options.directory)

/-- The actions for a manual that has been read. -/
def entryActions (options : Options) (entries : Catalogue Entry) : List Action :=
  say options.level .info toolTarget
      ("parsed ".toList ++ Text.ofNat entries.size ++ " parameters from ".toList ++
        options.parameters) ++
    (match options.listing with
      | none => []
      | some format => [.print (present entries format)]) ++
    (if options.write then writeActions options entries else [])

/-- The message of an error and of what caused it.  The cause of an unreadable
manual is the reason itself. -/
def errorChain (error : ParseError) : Text :=
  match error with
  | .unreadable reason => error.message ++ ": ".toList ++ reason
  | _ => error.message

/-- The context in which the tool reads a manual. -/
def contextOf (options : Options) : Context :=
  ⟨some options.parameters, options.duplicates⟩

/-- The script for a manual that could be opened. -/
def scriptOfStream (options : Options) (stream : ByteStream) : Script :=
  let attempt := Manual.ofStream (contextOf options) stream
  let records := sayRecords options.level attempt.log
  match attempt.result with
  | .error error =>
    ⟨records, some ("cannot parse ".toList ++ options.parameters ++ ": ".toList ++
      errorChain error)⟩
  | .ok entries => ⟨records ++ entryActions options entries, none⟩

/-- The bytes that what stands at a path delivers when it is read.  A directory can
be opened but not read. -/
def streamOfNode : FileNode → ByteStream
  | .file content => ⟨content, none⟩
  | .directory => ⟨[], some FileError.isDirectory.message⟩

/-- The script for a manual, or for the failure to open it. -/
def script (options : Options) (input : Except FileError ByteStream) : Script :=
  match input with
  | .error error =>
    ⟨[], some ("cannot read ".toList ++ options.parameters ++ ": ".toList ++ error.message)⟩
  | .ok stream => scriptOfStream options stream

/-- What is seen of the tool from outside. -/
structure Report where
  exitCode : Nat
  output : Text
  errors : Text
  files : FileSystem
  deriving Repr

/-- The line with which the tool fails. -/
def failureLine (message : Text) : Text :=
  "Error: ".toList ++ message ++ ['\n']

/-- Carry out actions, then fail with the message if there is one. -/
def carryOut (files : FileSystem) (failure : Option Text) : List Action → Report
  | [] =>
    match failure with
    | none => ⟨0, [], [], files⟩
    | some message => ⟨1, [], failureLine message, files⟩
  | .log line :: rest =>
    let others := carryOut files failure rest
    { others with errors := line.render ++ others.errors }
  | .print text :: rest =>
    let others := carryOut files failure rest
    { others with output := text ++ others.output }
  | .work task :: rest =>
    let change := task.perform files
    match change.failure with
    | some error => ⟨1, [], failureLine (task.failureMessage error), change.files⟩
    | none => carryOut change.files failure rest

/-- Open the manual of a request. -/
def openManual (files : FileSystem) (path : Text) : Except FileError ByteStream :=
  match files.openFile path with
  | .error error => .error error
  | .ok tree => .ok (streamOfNode tree.top)

/-- Run the tool on a file system.  The arguments do not include its own name. -/
def run (files : FileSystem) (arguments : List Text) : Report :=
  match CommandLine.parse arguments with
  | .misuse => ⟨2, [], [], files⟩
  | .help => ⟨0, helpText, [], files⟩
  | .version => ⟨0, versionText, [], files⟩
  | .run options =>
    let plan := script options (openManual files options.parameters)
    carryOut files plan.failure plan.actions

end Tool

end BootManual
