import BootManual.ParameterDocument
import BootManual.Proofs.TomlDocuments

/-!
# What a document tells about a parameter

The document of an entry keeps the name, the flags, the description and the format of
the entry, and the boot component that it was written for.  The word for the format
does not tell formats apart, since a literal may spell any word, but together with the
kind of the values it does.  So the text of a document determines all of these.
-/

namespace BootManual

/-- What a document tells about an entry. -/
structure Particulars where
  processor : Text
  name : Text
  flags : Option (List Text)
  description : Text
  format : Format
  deriving DecidableEq, Repr

namespace ParameterDocument

/-! ## Looking fields up -/

/-- The value under a key. -/
def value? (fields : List Toml.Field) (key : Text) : Option Toml.Value :=
  (fields.find? fun field => field.key = key).map Toml.Field.value

/-- The string under a key. -/
def string? (fields : List Toml.Field) (key : Text) : Option Text :=
  match value? fields key with
  | some (.string text) => some text
  | _ => none

/-- The list of strings under a key. -/
def strings? (fields : List Toml.Field) (key : Text) : Option (List Text) :=
  match value? fields key with
  | some (.strings texts) => some texts
  | _ => none

/-- The boolean under a key. -/
def boolean? (fields : List Toml.Field) (key : Text) : Option Bool :=
  match value? fields key with
  | some (.boolean value) => some value
  | _ => none

/-! ## Recovery -/

/-- The format that a rule for values was derived from, given the name of the kind, the
word for the format, the choices, and whether a value may be missing. -/
def formatOf? (kind word : Text) (choices : List Text) (allowEmpty : Bool) : Option Format :=
  if kind = ValueKind.flag.name then some .flag
  else if kind = ValueKind.complex.name then some .complex
  else if kind = ValueKind.enumeration.name then some (.choice choices)
  else if kind = ValueKind.integer.name then some (.literal word)
  else if kind = ValueKind.string.name then some (if allowEmpty then .unset else .literal word)
  else none

/-- The format of the entry that a document is about. -/
def format? (table : List Toml.Field) : Option Format := do
  let kind ← string? table "type".toList
  let word ← string? table "format".toList
  let choices ← strings? table "choices".toList
  let allowEmpty ← boolean? table "allow_empty".toList
  formatOf? kind word choices allowEmpty

/-- What a document tells about the entry that it is about. -/
def particulars? (document : Toml.Document) : Option Particulars := do
  let processor ← string? document.fields "processor".toList
  let name ← string? document.fields "name".toList
  let description ← string? document.fields "description".toList
  let format ← format? document.table
  some ⟨processor, name, strings? document.fields "selectors".toList, description, format⟩

/-- What there is to tell about an entry. -/
def particularsOf (processor : Text) (entry : Entry) : Particulars :=
  ⟨processor, entry.name, entry.flags, entry.description, entry.format⟩

theorem format?_fields (format : Format) :
    format? (ValueRule.ofFormat format).fields = some format := by
  cases format with
  | unset => rfl
  | literal word =>
      have kind : ValueRule.kindOf (.literal word) =
          if ValueRule.isIntegerToken word then .integer else .string := rfl
      rw [ValueRule.ofFormat, kind]
      split <;> rfl
  | choice values => rfl
  | flag => rfl
  | complex => rfl

theorem particulars?_ofEntry (processor : Text) (entry : Entry) :
    particulars? (ofEntry processor entry) = some (particularsOf processor entry) := by
  obtain ⟨name, flags, format, description, children⟩ := entry
  have found := format?_fields format
  cases flags with
  | none =>
      change (format? (ValueRule.ofFormat format).fields).bind _ = _
      rw [found]
      rfl
  | some flags =>
      change (format? (ValueRule.ofFormat format).fields).bind _ = _
      rw [found]
      rfl

theorem isProper_ofEntry (processor : Text) (entry : Entry) :
    (ofEntry processor entry).IsProper := by
  have fields : Toml.keys (ofEntry processor entry).fields =
      ["title".toList, "name".toList, "processor".toList] ++
        (if entry.flags.isSome then ["selectors".toList] else []) ++ ["description".toList] := by
    rw [Toml.keys, ofEntry]
    cases entry.flags <;> rfl
  have table : Toml.keys (ofEntry processor entry).table =
      ["type".toList, "format".toList, "choices".toList, "allow_empty".toList] := rfl
  have name : (ofEntry processor entry).tableName = "syntax".toList := rfl
  constructor
  case name =>
    rw [name]
    decide
  case fields =>
    rw [fields]
    cases entry.flags.isSome <;> decide
  case table =>
    rw [table]
    decide
  case distinct =>
    rw [fields, name]
    cases entry.flags.isSome <;> decide
  case distinctTable =>
    rw [table]
    decide

/-- The title of an entry depends on nothing but its name and its description. -/
theorem title_eq_of_particularsOf_eq {processor processor' : Text} {entry other : Entry}
    (same : particularsOf processor entry = particularsOf processor' other) :
    title entry = title other := by
  injection same with _ name _ description _
  rw [title, title, Entry.summary, Entry.summary, name, description]

/-- The text of the document of an entry is read as that document, from which the boot
component, the name, the flags, the description and the format are recovered.  So two
entries have the same text, for whatever components, exactly if they agree in all of
these. -/
theorem read_render_ofEntry (processor : Text) (entry : Entry) :
    Toml.read (ofEntry processor entry).render = some (ofEntry processor entry) ∧
    particulars? (ofEntry processor entry) = some (particularsOf processor entry) ∧
    ∀ processor' other, (ofEntry processor entry).render = (ofEntry processor' other).render ↔
      particularsOf processor entry = particularsOf processor' other := by
  refine ⟨Toml.read_render (isProper_ofEntry processor entry),
    particulars?_ofEntry processor entry, ?_⟩
  intro processor' other
  constructor
  · intro sameText
    have sameDocument : ofEntry processor entry = ofEntry processor' other := by
      apply Option.some.inj
      rw [← Toml.read_render (isProper_ofEntry processor entry), sameText,
        Toml.read_render (isProper_ofEntry processor' other)]
    apply Option.some.inj
    rw [← particulars?_ofEntry, sameDocument, particulars?_ofEntry]
  · intro same
    have title := title_eq_of_particularsOf_eq same
    injection same with processor_eq name flags description format
    rw [ofEntry, ofEntry, title, processor_eq, name, flags, description, format]

end ParameterDocument

end BootManual
