import BootManual.Entry
import BootManual.Toml.Document

/-!
# The document of a parameter

Every entry has a document of its own in the database.  It names the entry and
the boot component that consumes it, repeats flags and description, and derives
from the format which values the component accepts.
-/

namespace BootManual

/-- The kinds of values that a boot component tells apart. -/
inductive ValueKind where
  | flag
  | complex
  | enumeration
  | integer
  | string
  deriving DecidableEq, Repr

namespace ValueKind

/-- The name of a kind in a document. -/
def name : ValueKind → Text
  | flag => "flag".toList
  | complex => "complex".toList
  | enumeration => "enum".toList
  | integer => "integer".toList
  | string => "string".toList

end ValueKind

/-- Which values a parameter accepts. -/
structure ValueRule where
  kind : ValueKind
  format : Text
  choices : List Text
  allowEmpty : Bool
  deriving DecidableEq, Repr

namespace ValueRule

/-- The type tokens that stand for an integer, in small letters. -/
def integerTokens : List Text :=
  ["<int>".toList, "<integer>".toList, "<n>".toList, "<uint>".toList, "<nr>".toList]

/-- Whether a literal format stands for an integer.  ASCII capitals make no
difference. -/
def isIntegerToken (token : Text) : Bool :=
  integerTokens.contains (token.map Char.toLower)

/-- The kind of the values of a format. -/
def kindOf : Format → ValueKind
  | .flag => .flag
  | .complex => .complex
  | .choice _ => .enumeration
  | .literal token => if isIntegerToken token then .integer else .string
  | .unset => .string

/-- Whether a parameter of a format may stand without a value. -/
def allowsEmpty : Format → Bool
  | .flag => true
  | .unset => true
  | _ => false

/-- The values that a format accepts. -/
def ofFormat (format : Format) : ValueRule :=
  ⟨kindOf format, format.marker, format.values, allowsEmpty format⟩

/-- The fields that describe the accepted values. -/
def fields (rule : ValueRule) : List Toml.Field :=
  [⟨"type".toList, .string rule.kind.name⟩, ⟨"format".toList, .string rule.format⟩,
    ⟨"choices".toList, .strings rule.choices⟩, ⟨"allow_empty".toList, .boolean rule.allowEmpty⟩]

end ValueRule

namespace ParameterDocument

/-- The title of an entry: its summary, or its name if it has none. -/
def title (entry : Entry) : Text :=
  entry.summary.getD entry.name

/-- The field with the flags.  Without flags there is no such field. -/
def selectors (flags : Option (List Text)) : List Toml.Field :=
  flags.toList.map fun flags => ⟨"selectors".toList, .strings flags⟩

/-- The document of an entry.  Its sub-parameters have documents of their own. -/
def ofEntry (processor : Text) (entry : Entry) : Toml.Document where
  fields :=
    [⟨"title".toList, .string (title entry)⟩, ⟨"name".toList, .string entry.name⟩,
      ⟨"processor".toList, .string processor⟩] ++
    selectors entry.flags ++
    [⟨"description".toList, .string entry.description⟩]
  tableName := "syntax".toList
  table := (ValueRule.ofFormat entry.format).fields

/-- The documents of all entries of a catalogue, each parent before its children. -/
def ofCatalogue (processor : Text) (catalogue : Catalogue Entry) : List Toml.Document :=
  (Entry.walkAll catalogue.slots).map (ofEntry processor)

end ParameterDocument

end BootManual
