import BootManual.Text.Diagnostics

/-!
# Contexts and errors

A context holds what is settled before a manual is read: the name of the file, if
it has one, and what happens when a name occurs twice.  Errors about a line name
its place, counting lines from one, and the file.
-/

namespace BootManual

/-- What to do with the second of two entries of one name at one level. -/
inductive DuplicatePolicy where
  /-- The later entry takes the place of the earlier one. -/
  | replace
  /-- The manual is refused. -/
  | reject
  deriving DecidableEq, Repr

/-- The settings under which a manual is read. -/
structure Context where
  file : Option Text
  duplicates : DuplicatePolicy
  deriving DecidableEq, Repr

/-- Why a manual cannot be read. -/
inductive ParseError where
  /-- A header line names nothing. -/
  | malformedHeader (text place : Text)
  /-- A name occurs twice at one level, and the policy is to reject that. -/
  | duplicateName (name place : Text)
  /-- The lines could not be obtained. -/
  | unreadable (reason : Text)
  deriving DecidableEq, Repr

namespace Context

/-- The context of a manual without a file name, where later entries replace
earlier ones. -/
def plain : Context :=
  ⟨none, .replace⟩

/-- The ending of an error message about a line.  Lines are numbered from zero
here and from one in the message. -/
def place (context : Context) (line : Nat) : Text :=
  let position := " at line ".toList ++ Text.ofNat (line + 1)
  match context.file with
  | none => position
  | some file => position ++ " of <".toList ++ file ++ ">".toList

/-- The file as the description of a context shows it. -/
def describeFile : Option Text → Text
  | none => "None".toList
  | some file => "Some(".toList ++ Text.showQuoted file ++ ")".toList

/-- The policy as the description of a context writes it. -/
def describeDuplicates : DuplicatePolicy → Text
  | .replace => "Replace".toList
  | .reject => "Reject".toList

/-- The description of a context for diagnostics. -/
def describe (context : Context) : Text :=
  "ParseContext \x7b filename: ".toList ++ describeFile context.file ++
    ", duplicates: ".toList ++ describeDuplicates context.duplicates ++ ", .. \x7d".toList

end Context

namespace ParseError

/-- The error with its place set to a line, numbered from zero.  An unreadable
manual has no place. -/
def locate (error : ParseError) (context : Context) (line : Nat) : ParseError :=
  match error with
  | malformedHeader text _ => malformedHeader text (context.place line)
  | duplicateName name _ => duplicateName name (context.place line)
  | unreadable reason => unreadable reason

/-- The message of an error. -/
def message : ParseError → Text
  | malformedHeader text place => "Malformed header \"".toList ++ text ++ "\"".toList ++ place
  | duplicateName name place => "Duplicate parameter \"".toList ++ name ++ "\"".toList ++ place
  | unreadable reason => "I/O error: ".toList ++ reason

end ParseError

end BootManual
