import BootManual.Context
import BootManual.Journal
import BootManual.Text.Split

/-!
# The command line

The arguments are read from left to right.  The first one that cannot be accepted,
or that asks for help or for the version, decides at once; only what concerns all
of them together, a missing file or a pair of options that exclude each other, is
looked at in the end.
-/

namespace BootManual

/-- How the entries are shown. -/
inductive ListingFormat where
  | text
  | yaml
  deriving DecidableEq, Repr

/-- What the tool is asked to do with a manual. -/
structure Options where
  /-- The path of the manual. -/
  parameters : Text
  /-- The directory of the database. -/
  directory : Text
  /-- How to show the entries, if they are to be shown. -/
  listing : Option ListingFormat
  /-- The processor that the documents name. -/
  processor : Text
  /-- Whether to write the database. -/
  write : Bool
  duplicates : DuplicatePolicy
  /-- How much of the journal is shown. -/
  level : LogLevel
  deriving DecidableEq, Repr

/-- What a command line asks for. -/
inductive Request where
  | run (options : Options)
  | help
  | version
  /-- The arguments cannot be accepted. -/
  | misuse
  deriving DecidableEq, Repr

namespace CommandLine

/-- The options by meaning. -/
inductive Switch where
  | dump
  | dumpFormat
  | processor
  | noWrite
  | rejectDuplicates
  | verbose
  | quiet
  | help
  | version
  deriving DecidableEq, Repr

/-- The options by their long names.  Names cannot be shortened. -/
def longNames : List (Text × Switch) :=
  [("dump".toList, .dump), ("dump-parameters".toList, .dump), ("dumpparameters".toList, .dump),
    ("dump-format".toList, .dumpFormat), ("processor".toList, .processor),
    ("no-write".toList, .noWrite), ("reject-duplicates".toList, .rejectDuplicates),
    ("verbose".toList, .verbose), ("quiet".toList, .quiet), ("help".toList, .help),
    ("version".toList, .version)]

/-- The options by their letters. -/
def shortNames : List (Char × Switch) :=
  [('v', .verbose), ('q', .quiet), ('h', .help), ('V', .version)]

/-- What the arguments read so far have settled. -/
structure Settings where
  positionals : List Text
  dump : Bool
  dumpFormat : Option ListingFormat
  processor : Option Text
  noWrite : Bool
  rejectDuplicates : Bool
  verbosity : Nat
  quiet : Bool
  deriving DecidableEq, Repr

/-- The settings in front of the first argument. -/
def Settings.initial : Settings :=
  ⟨[], false, none, none, false, false, 0, false⟩

/-- Whether an option takes a value. -/
def Switch.takesValue : Switch → Bool
  | dumpFormat => true
  | processor => true
  | _ => false

/-- Settle a switch that has not been settled, or refuse it. -/
def once (given : Bool) (settings : Settings) : Except Request Settings :=
  if given then .error .misuse else .ok settings

/-- The settings after an option without a value.  Only the count of verbosity may
be raised again. -/
def Settings.turnOn (settings : Settings) : Switch → Except Request Settings
  | .help => .error .help
  | .version => .error .version
  | .verbose => .ok { settings with verbosity := settings.verbosity + 1 }
  | .quiet => once settings.quiet { settings with quiet := true }
  | .dump => once settings.dump { settings with dump := true }
  | .noWrite => once settings.noWrite { settings with noWrite := true }
  | .rejectDuplicates =>
    once settings.rejectDuplicates { settings with rejectDuplicates := true }
  | .dumpFormat => .error .misuse
  | .processor => .error .misuse

/-- The listing format of a name. -/
def readFormat? (name : Text) : Option ListingFormat :=
  if name = "text".toList then some .text
  else if name = "yaml".toList then some .yaml
  else none

/-- The settings after an option with its value. -/
def Settings.assign (settings : Settings) (value : Text) : Switch → Except Request Settings
  | .dumpFormat =>
    match readFormat? value with
    | none => .error .misuse
    | some format =>
      once settings.dumpFormat.isSome { settings with dumpFormat := some format }
  | .processor => once settings.processor.isSome { settings with processor := some value }
  | _ => .error .misuse

/-- The settings after a path.  There are at most two paths, and none is empty. -/
def Settings.addPath (settings : Settings) (path : Text) : Except Request Settings :=
  if path.isEmpty || 2 ≤ settings.positionals.length then .error .misuse
  else .ok { settings with positionals := settings.positionals ++ [path] }

/-- The settings after a row of option letters. -/
def Settings.turnOnLetters (settings : Settings) : Text → Except Request Settings
  | [] => .ok settings
  | letter :: rest =>
    match shortNames.lookup letter with
    | none => .error .misuse
    | some switch =>
      match settings.turnOn switch with
      | .error request => .error request
      | .ok next => next.turnOnLetters rest

/-- The settings after paths that nothing else can be mixed with. -/
def Settings.addPaths (settings : Settings) : List Text → Except Request Settings
  | [] => .ok settings
  | path :: rest =>
    match settings.addPath path with
    | .error request => .error request
    | .ok next => next.addPaths rest

/-- Whether an argument is an option and so cannot be the value of the one in front
of it.  A lone dash is not. -/
def isOption : Text → Bool
  | '-' :: _ :: _ => true
  | _ => false

/-- A long option and the value that is joined to it by an equals sign. -/
def splitLong (body : Text) : Text × Option Text :=
  match Text.cutAt? (· == '=') body with
  | some (name, value) => (name, some value)
  | none => (body, none)

/-- The settings after all arguments. -/
def Settings.read (settings : Settings) : List Text → Except Request Settings
  | [] => .ok settings
  | ['-', '-'] :: rest => settings.addPaths rest
  | ('-' :: '-' :: body) :: rest =>
    let (name, value) := splitLong body
    match longNames.lookup name, value, rest with
    | none, _, _ => .error .misuse
    | some switch, some value, rest =>
      match settings.assign value switch with
      | .error request => .error request
      | .ok next => next.read rest
    | some switch, none, [] =>
      if switch.takesValue then .error .misuse else settings.turnOn switch
    | some switch, none, argument :: rest =>
      if switch.takesValue then
        if isOption argument then .error .misuse
        else
          match settings.assign argument switch with
          | .error request => .error request
          | .ok next => next.read rest
      else
        match settings.turnOn switch with
        | .error request => .error request
        | .ok next => next.read (argument :: rest)
  | ('-' :: letter :: letters) :: rest =>
    match settings.turnOnLetters (letter :: letters) with
    | .error request => .error request
    | .ok next => next.read rest
  | path :: rest =>
    match settings.addPath path with
    | .error request => .error request
    | .ok next => next.read rest

/-- How much of the journal is shown: errors if quiet, warnings without further
settings, and one step finer each time that more is asked for. -/
def Settings.level (settings : Settings) : LogLevel :=
  if settings.quiet then .error
  else
    match settings.verbosity with
    | 0 => .warn
    | 1 => .info
    | 2 => .debug
    | _ => .trace

/-- The request that the settings come to. -/
def Settings.conclude (settings : Settings) : Request :=
  match settings.positionals with
  | [] => .misuse
  | parameters :: others =>
    if settings.quiet && 0 < settings.verbosity then .misuse
    else
      .run
        { parameters
          directory := others.headD "database/".toList
          listing := if settings.dump then some (settings.dumpFormat.getD .text) else none
          processor := settings.processor.getD "kernel".toList
          write := !settings.noWrite
          duplicates := if settings.rejectDuplicates then .reject else .replace
          level := settings.level }

/-- The request of a command line. -/
def parse (arguments : List Text) : Request :=
  match Settings.initial.read arguments with
  | .error request => request
  | .ok settings => settings.conclude

end CommandLine

end BootManual
