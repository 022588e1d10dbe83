import BootManual.FileTree
import BootManual.Path
import BootManual.Text.Utf8

/-!
# File systems

A file system is a tree of files and a working directory in it.  Operations follow
a path name by name and fail for the reasons an operating system gives: the path or
a name in it is too long or holds a NUL, something is missing or already there, a
file stands where a directory is needed or the other way round.  Nothing else can
fail.  The length of a whole path is limited on some systems only.
-/

namespace BootManual

/-- Why an operation on files fails. -/
inductive FileError where
  | notFound
  | alreadyExists
  | notDirectory
  | isDirectory
  | nameTooLong
  | nulInName
  /-- A reason that only a real operating system gives, in its words. -/
  | other (reason : Text)
  deriving DecidableEq, Repr

/-- The message of an error, with its number where the operating system has one. -/
def FileError.message : FileError → Text
  | notFound => "No such file or directory (os error 2)".toList
  | alreadyExists => "File exists (os error 17)".toList
  | notDirectory => "Not a directory (os error 20)".toList
  | isDirectory => "Is a directory (os error 21)".toList
  | nameTooLong => "File name too long (os error 36)".toList
  | nulInName => "file name contained an unexpected NUL byte".toList
  | other reason => reason

/-- A tree of files with a working directory. -/
structure FileSystem where
  root : FileTree
  workingDirectory : Place
  /-- The longest path, in bytes, that an operation takes, if there is a limit. -/
  longestPath : Option Nat
  deriving Repr

/-- A file system after an operation that may have failed part of the way. -/
structure Change where
  files : FileSystem
  failure : Option FileError
  deriving Repr

namespace FileSystem

/-- The longest name, in bytes. -/
def longestName : Nat :=
  255

/-- A file system without files, whose working directory is its top. -/
def empty (longestPath : Option Nat) : FileSystem :=
  ⟨.directory [], [], longestPath⟩

/-- What stands at a place. -/
def node? (files : FileSystem) (place : Place) : Option FileNode :=
  (files.root.at? place).map FileTree.top

/-- The file system with a tree at a place, in place of what stood there. -/
def put (files : FileSystem) (place : Place) (tree : FileTree) : FileSystem :=
  { files with root := files.root.put place tree }

/-- Why no operation takes a path, whatever stands there. -/
def refusal? (files : FileSystem) (path : Text) : Option FileError :=
  if path.contains '\x00' then some .nulInName
  else if files.longestPath.any fun limit => limit < Utf8.size path then some .nameTooLong
  else none

/-! ## Following paths -/

/-- The names from the top of the tree for names that a path has or begins with. -/
def route (files : FileSystem) (path : Text) (names : List Text) : List Text :=
  if Path.isAbsolute path then names else files.workingDirectory ++ names

/-- The spot that names lead to.  Every name is looked up in a directory. -/
def walk (spot : Spot) : List Text → Except FileError Spot
  | [] => .ok spot
  | name :: rest =>
    if !spot.tree.isDirectory then .error .notDirectory
    else if name = Path.stay then walk spot rest
    else if name = Path.up then walk spot.leave rest
    else if longestName < Utf8.size name then .error .nameTooLong
    else
      match spot.enter? name with
      | none => .error .notFound
      | some next => walk next rest

/-- What stands where a route leads. -/
def find (files : FileSystem) (route : List Text) : Except FileError FileTree :=
  match walk (Spot.top files.root) route with
  | .error error => .error error
  | .ok spot => .ok spot.tree

/-- Whether a route leads to a directory. -/
def leadsToDirectory (files : FileSystem) (route : List Text) : Bool :=
  match files.find route with
  | .ok tree => tree.isDirectory
  | .error _ => false

/-- The directory in which the last name of a route is looked up. -/
def parent (files : FileSystem) (route : List Text) : Except FileError Spot :=
  match walk (Spot.top files.root) route.dropLast with
  | .error error => .error error
  | .ok spot => if spot.tree.isDirectory then .ok spot else .error .notDirectory

/-! ## Directories -/

/-- Create one directory in an existing one. -/
def makeDirectory (files : FileSystem) (route : List Text) : Except FileError FileSystem :=
  match route.getLast? with
  | none => .error .alreadyExists
  | some name =>
    match files.parent route with
    | .error error => .error error
    | .ok spot =>
      if name = Path.stay ∨ name = Path.up then .error .alreadyExists
      else if longestName < Utf8.size name then .error .nameTooLong
      else if (spot.tree.member? name).isSome then .error .alreadyExists
      else .ok (files.put (spot.place ++ [name]) (.directory []))

/-- Create a directory, after the directories that lead to it if one of them is
missing.  It is no failure if the directory is there already. -/
def ensureDirectory (files : FileSystem) (route : List Text) (leading : Unit → Change) :
    Change :=
  match files.makeDirectory route with
  | .ok made => ⟨made, none⟩
  | .error .notFound =>
    let led := leading ()
    match led.failure with
    | some error => ⟨led.files, some error⟩
    | none =>
      match led.files.makeDirectory route with
      | .ok made => ⟨made, none⟩
      | .error error =>
        if led.files.leadsToDirectory route then ⟨led.files, none⟩
        else ⟨led.files, some error⟩
  | .error error =>
    if files.leadsToDirectory route then ⟨files, none⟩ else ⟨files, some error⟩

/-- Create the directories that some names of a path lead through, given from the
last to the first. -/
def makeLeading (files : FileSystem) (path : Text) : List Text → Change
  | [] => ⟨files, none⟩
  | name :: before =>
    files.ensureDirectory (files.route path (name :: before).reverse)
      fun _ => makeLeading files path before

/-- Create the directory at a path and all directories that lead to it.  The empty
path is that of the working directory, which is there. -/
def makeDirectories (files : FileSystem) (path : Text) : Change :=
  if path.isEmpty then
    ⟨files, none⟩
  else
    match files.refusal? path with
    | some error => ⟨files, some error⟩
    | none =>
      files.ensureDirectory (files.route path (Path.names path))
        fun _ => makeLeading files path (Path.steps path).reverse.tail

/-! ## Files -/

/-- Write a file in an existing directory, in place of what it held. -/
def writeFile (files : FileSystem) (path : Text) (content : List UInt8) :
    Except FileError FileSystem :=
  match files.refusal? path with
  | some error => .error error
  | none =>
    let route := files.route path (Path.names path)
    match (Path.names path).getLast? with
    | none => .error (if path.isEmpty then .notFound else .isDirectory)
    | some name =>
      match files.parent route with
      | .error error => .error error
      | .ok spot =>
        if name = Path.stay ∨ name = Path.up then .error .isDirectory
        else if longestName < Utf8.size name then .error .nameTooLong
        else if (spot.tree.member? name).any FileTree.isDirectory then .error .isDirectory
        else .ok (files.put (spot.place ++ [name]) (.file content))

/-- What stands at a path, to be read. -/
def openFile (files : FileSystem) (path : Text) : Except FileError FileTree :=
  match files.refusal? path with
  | some error => .error error
  | none =>
    if path.isEmpty then .error .notFound
    else files.find (files.route path (Path.namesToOpen path))

end FileSystem

end BootManual
