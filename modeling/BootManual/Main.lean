import BootManual.Tool

/-!
# The program

The program carries out the script of the tool on real files.  It opens the manual,
performs each action in turn, and stops with the message of the first one that
fails.
-/

namespace BootManual.Program

/-- The number and the words that the operating system gives for an error. -/
def codeOf : IO.Error → UInt32 × String
  | .alreadyExists _ code details => (code, details)
  | .otherError code details => (code, details)
  | .resourceBusy code details => (code, details)
  | .noFileOrDirectory _ code details => (code, details)
  | .invalidArgument _ code details => (code, details)
  | .permissionDenied _ code details => (code, details)
  | .resourceExhausted _ code details => (code, details)
  | .inappropriateType _ code details => (code, details)
  | .noSuchThing _ code details => (code, details)
  | error => (0, toString error)

/-- The reason for an error.  Its number may come with a minus sign. -/
def reasonOf (error : IO.Error) : FileError :=
  let (code, details) := codeOf error
  match min code.toNat (Nat.pow 2 32 - code.toNat) with
  | 2 => .notFound
  | 17 => .alreadyExists
  | 20 => .notDirectory
  | 21 => .isDirectory
  | 36 => .nameTooLong
  | 0 => .other details.toList
  | number => .other (details.toList ++ " (os error ".toList ++ Text.ofNat number ++ ")".toList)

/-- The reason for which an action fails, if it does. -/
def attempt (path : Text) (action : String → IO Unit) : IO (Option FileError) := do
  if path.contains '\x00' then
    return some .nulInName
  try
    action (String.ofList path)
    return none
  catch error =>
    return some (reasonOf error)

/-- Whether a directory stands at a path. -/
def isDirectory (path : Text) : IO Bool := do
  let failure ← attempt (Path.join path Path.stay) fun inside =>
    discard (IO.FS.Handle.mk inside .read)
  return failure.isNone

/-- Create a directory, after the directories that lead to it if one of them is
missing.  It is no failure if the directory is there already. -/
def ensureDirectory (path : Text) (leading : IO (Option FileError)) :
    IO (Option FileError) := do
  let settle (failure : Option FileError) : IO (Option FileError) := do
    if failure.isSome && (← isDirectory path) then return none else return failure
  match ← attempt path fun name => IO.FS.createDir name with
  | some .notFound =>
    match ← leading with
    | some error => return some error
    | none => settle (← attempt path fun name => IO.FS.createDir name)
  | failure => settle failure

/-- The path through some names, given from the last to the first. -/
def pathThrough (absolute : Bool) (names : List Text) : Text :=
  (if absolute then ['/'] else []) ++ Text.join ['/'] names.reverse

/-- Create the directories that some names lead through, given from the last to the
first. -/
def makeLeading (absolute : Bool) : List Text → IO (Option FileError)
  | [] => return none
  | name :: before =>
    ensureDirectory (pathThrough absolute (name :: before)) (makeLeading absolute before)

/-- Perform a task on real files.  The reason is returned if it fails. -/
def perform : Database.Task → IO (Option FileError)
  | .makeDirectory path =>
    ensureDirectory path (makeLeading (Path.isAbsolute path) (Path.steps path).reverse.tail)
  | .writeDocument path content =>
    attempt path fun name => IO.FS.writeFile name (String.ofList content)

/-- The bytes of a manual, or why it cannot be opened. -/
def openManual (path : Text) : IO (Except FileError ByteStream) := do
  let bytes ← IO.mkRef ByteArray.empty
  match ← attempt path fun name => do bytes.set (← IO.FS.readBinFile name) with
  | none => return .ok ⟨(← bytes.get).toList, none⟩
  | some .isDirectory => return .ok (Tool.streamOfNode .directory)
  | some error => return .error error

/-- Carry out actions until one fails.  The message of the failure is returned. -/
def carryOut : List Action → IO (Option Text)
  | [] => return none
  | .log line :: rest => do
    IO.eprint (String.ofList line.render)
    carryOut rest
  | .print text :: rest => do
    IO.print (String.ofList text)
    carryOut rest
  | .work task :: rest => do
    match ← perform task with
    | some error => return some (task.failureMessage error)
    | none => carryOut rest

/-- Carry out a script.  The exit code is one if it fails. -/
def runScript (script : Script) : IO UInt32 := do
  match (← carryOut script.actions).or script.failure with
  | none => return 0
  | some message =>
    IO.eprint (String.ofList (Tool.failureLine message))
    return 1

/-- Answer a request. -/
def answer : Request → IO UInt32
  | .misuse => do
    IO.eprint (String.ofList Tool.helpText)
    return 2
  | .help => do
    IO.print (String.ofList Tool.helpText)
    return 0
  | .version => do
    IO.print (String.ofList Tool.versionText)
    return 0
  | .run options => do
    let input ← openManual options.parameters
    runScript (Tool.script options input)

end BootManual.Program

/-- Run the program on its arguments. -/
def main (arguments : List String) : IO UInt32 :=
  BootManual.Program.answer (BootManual.CommandLine.parse (arguments.map String.toList))
