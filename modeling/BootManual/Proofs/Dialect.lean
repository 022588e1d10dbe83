import BootManual.Proofs.Cuts
import BootManual.Proofs.Roles
import BootManual.Proofs.Shape

/-!
# Writing manuals

A list of parameters can be written as a manual if its texts keep clear of what the
dialect takes for marks.  A header gives the name, the flags in brackets and, for a
sub-parameter, its format.  The format of a parameter and the description of either
follow on lines of their own, and sub-parameters come last.
-/

namespace BootManual

/-! ## What can be written -/

/-- Flags that can stand between brackets.  Brackets at either end of the list would
be taken for the brackets around it. -/
structure AreWritableFlags (flags : List Text) : Prop where
  each : ∀ flag ∈ flags, IsFlag flag
  first : ∀ flag ∈ flags.head?, flag.head? ≠ some '['
  last : ∀ flag ∈ flags.getLast?, flag.getLast? ≠ some ']'

/-- A phrase that a format directive can give: it fits on a line and has no braces,
which would announce a list of values. -/
structure IsWritablePhrase (text : Text) : Prop extends IsPhrase text where
  oneLine : '\n' ∉ text
  unbraced : '\x7b' ∉ text ∧ '\x7d' ∉ text

theorem IsWritablePhrase.isClear {text : Text} (writable : IsWritablePhrase text) :
    Text.IsClear Text.isBrace text :=
  Text.isClear_isBrace_iff.mpr writable.unbraced

/-- Values that can stand in braces.  A brace in front of the first would be taken
for the opening brace written twice. -/
structure AreWritableValues (values : List Text) : Prop where
  nonempty : values ≠ []
  each : ∀ value ∈ values, IsValue value
  oneLine : ∀ value ∈ values, '\n' ∉ value
  first : ∀ value ∈ values.head?, value.head? ≠ some '\x7b'

/-- A description that can be written behind tabs: it has something on its first line,
unless it is empty, and no white space at either end of any line. -/
structure IsWritableDescription (text : Text) : Prop where
  head : text.head? ≠ some '\n'
  trimmed : ∀ line ∈ Text.pieces '\n' text, Text.IsStripped Text.isBlank line

/-- A line of description that is not taken for a format or for values. -/
structure IsPlainLine (line : Text) : Prop where
  unbraced : line.head? ≠ some '\x7b'
  undirected : ¬"Format: ".toList <+: line

/-- A format of a parameter that can be written: it must have been settled. -/
def Format.IsWritable : Format → Prop
  | unset => False
  | literal text => IsWritablePhrase text
  | choice values => AreWritableValues values
  | flag => True
  | complex => True

namespace Entry

/-- A sub-parameter that can be written. -/
structure IsWritableSubparameter (entry : Entry) : Prop where
  name : IsName entry.name
  flags : ∀ flags ∈ entry.flags, AreWritableFlags flags
  format : entry.format = .unset ∨ ∃ text, entry.format = .literal text ∧ IsWritablePhrase text
  description : IsWritableDescription entry.description
  children : entry.children = Catalogue.empty

/-- A parameter that can be written. -/
structure IsWritable (entry : Entry) : Prop where
  name : IsName entry.name
  flags : ∀ flags ∈ entry.flags, AreWritableFlags flags
  format : entry.format.IsWritable
  flag : entry.format = .flag → entry.children.slots = []
  complex : entry.format = .complex → entry.children.slots ≠ []
  description : IsWritableDescription entry.description
  plain : ∀ line ∈ Text.pieces '\n' entry.description, IsPlainLine line
  children : entry.children.Holds IsWritableSubparameter

end Entry

/-! ## How it is written -/

/-- A token, and behind a space the rest of a line if there is any. -/
def Text.spaced (token rest : Text) : Text :=
  if rest.isEmpty then token else token ++ ' ' :: rest

namespace Header

/-- Flags in brackets. -/
def writeFlags (flags : List Text) : Text :=
  '[' :: Text.join [','] flags ++ [']']

/-- A format directive, or nothing. -/
def writeHint : Option Text → Text
  | none => []
  | some hint => "Format: ".toList ++ hint

theorem writeHint_some (hint : Text) : writeHint (some hint) = formatDirective ++ hint :=
  rfl

/-- What stands behind the name. -/
def writeRest (flags : Option (List Text)) (hint : Option Text) : Text :=
  match flags with
  | none => writeHint hint
  | some flags => Text.spaced (writeFlags flags) (writeHint hint)

/-- A header without description. -/
def write (name : Text) (flags : Option (List Text)) (hint : Option Text) : Text :=
  Text.spaced name (writeRest flags hint)

end Header

/-- Values in braces, with a bar behind each of them, so that a single value is a list
as well. -/
def ValueList.write (values : List Text) : Text :=
  "\x7b ".toList ++ values.flatMap (· ++ " | ".toList) ++ ['\x7d']

/-- The phrase of a literal format. -/
def Format.phrase? : Format → Option Text
  | literal text => some text
  | _ => none

/-- The line that gives a format, if it takes one. -/
def Format.write : Format → List Text
  | literal text => [Header.writeHint (some text)]
  | choice values => [ValueList.write values]
  | _ => []

namespace Entry

/-- The lines of the description. -/
def describedLines (entry : Entry) : List Text :=
  if entry.description.isEmpty then [] else Text.pieces '\n' entry.description

/-- The header and the lines of a sub-parameter. -/
def writeSection (entry : Entry) : Text × List Text :=
  (Line.indented 2 (Header.write entry.name entry.flags entry.format.phrase?),
    entry.describedLines.map (Line.indented 4))

/-- The header and the lines of a parameter and its sub-parameters. -/
def writeChapter (entry : Entry) : Text × List Text :=
  (Line.indented 1 (Header.write entry.name entry.flags none),
    (entry.format.write ++ entry.describedLines).map (Line.indented 3) ++
      joinParts (entry.children.slots.map writeSection))

end Entry

/-- The manual of some parameters, with a newline behind every line. -/
def Manual.write (entries : List Entry) : Text :=
  (joinParts (entries.map Entry.writeChapter)).flatMap (· ++ ['\n'])

end BootManual
