import BootManual.Attempt
import BootManual.Catalogue
import BootManual.Draft

/-!
# Open entries and their commitment

At most one parameter is open, and inside it at most one sub-parameter.  An open
entry remembers the line of its header, because a duplicate name is reported
there and not where it is noticed.  Committing an entry finishes its description
and format, checks its name and then inserts it one level up.
-/

namespace BootManual

/-- A parameter that is being read, and the line of its header. -/
structure OpenParameter where
  draft : Draft
  line : Nat
  deriving DecidableEq, Repr

/-- A sub-parameter that is being read, and the line of its header. -/
structure OpenSubparameter where
  entry : Entry
  line : Nat
  deriving DecidableEq, Repr

/-- Which entries are open.  A sub-parameter is never open without its parameter. -/
inductive State where
  | idle
  | parameter (top : OpenParameter)
  | subparameter (top : OpenParameter) (sub : OpenSubparameter)
  deriving DecidableEq, Repr

/-- The name of an open parameter. -/
def OpenParameter.name (top : OpenParameter) : Text :=
  top.draft.entry.name

/-- The sub-parameters that an open parameter has so far. -/
def OpenParameter.children (top : OpenParameter) : Catalogue Entry :=
  top.draft.entry.children

/-- The open parameter with a sub-parameter inserted. -/
def OpenParameter.insertChild (top : OpenParameter) (child : Entry) : OpenParameter :=
  let entry := { top.draft.entry with children := top.children.insert child }
  { top with draft := { top.draft with entry } }

namespace Commit

/-- The name of a sub-parameter behind the name of its parameter. -/
def qualify (parameter name : Text) : Text :=
  parameter ++ '.' :: name

/-- The entry without the empty lines in front of its description. -/
def dropLeadingBreaks (entry : Entry) : Entry :=
  { entry with description := entry.description.dropWhile (· == '\n') }

/-- The format of an entry that was given none: a flag, or complex if it has
sub-parameters. -/
def settleFormat (entry : Entry) : Entry :=
  if entry.format.isUnset then
    { entry with format := if entry.children.isEmpty then .flag else .complex }
  else
    entry

/-- What happens when the name of an entry with a header at this line is already
taken. -/
def duplicate (context : Context) (name : Text) (line : Nat) : Attempt Unit :=
  match context.duplicates with
  | .replace => Attempt.note line (.duplicateName name)
  | .reject => Attempt.fail ((ParseError.duplicateName name []).locate context line)

/-- Insert a finished sub-parameter into its parameter.  The line is the one at
which this happens. -/
def subparameter (context : Context) (line : Nat) (top : OpenParameter)
    (sub : OpenSubparameter) : Attempt OpenParameter := do
  let entry := dropLeadingBreaks sub.entry
  let name := qualify top.name entry.name
  Attempt.note line (.commitSubparameter name)
  if top.children.contains entry.name then
    duplicate context name sub.line
  pure (top.insertChild entry)

/-- The entry that an open parameter has come to. -/
def finished (top : OpenParameter) : Entry :=
  dropLeadingBreaks (settleFormat top.draft.flush.entry)

/-- The entry to be inserted for a finished parameter, once its name has been checked
against the catalogue. -/
def parameter (context : Context) (line : Nat) (entries : Catalogue Entry)
    (top : OpenParameter) : Attempt Entry := do
  if top.draft.block.isSome then
    Attempt.note line (.unterminatedBlock top.name)
  let entry := finished top
  Attempt.note line (.commitParameter entry.name entry.format.marker)
  if entries.contains entry.name then
    duplicate context entry.name top.line
  pure entry

end Commit

end BootManual
