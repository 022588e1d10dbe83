import BootManual.Toml.Quotation

/-!
# TOML documents

The documents of the database have fields of three kinds, strings, lists of
strings and booleans, and then one table of such fields.  Every key is a bare
word.
-/

namespace BootManual.Toml

/-- The value of a field. -/
inductive Value where
  | string (text : Text)
  | strings (texts : List Text)
  | boolean (value : Bool)
  deriving DecidableEq, Repr

/-- A key and its value. -/
structure Field where
  key : Text
  value : Value
  deriving DecidableEq, Repr

/-- Fields, and a named table of further fields behind them. -/
structure Document where
  fields : List Field
  tableName : Text
  table : List Field
  deriving DecidableEq, Repr

/-- A value on the right of an equals sign. -/
def Value.render : Value → Text
  | string text => quote text
  | strings texts => '[' :: Text.join ", ".toList (texts.map quote) ++ [']']
  | boolean true => "true".toList
  | boolean false => "false".toList

/-- A field on a line of its own. -/
def Field.render (field : Field) : Text :=
  field.key ++ " = ".toList ++ field.value.render ++ ['\n']

/-- The text of a document. -/
def Document.render (document : Document) : Text :=
  document.fields.flatMap Field.render ++ '\n' :: '[' :: document.tableName ++ "]\n".toList ++
    document.table.flatMap Field.render

end BootManual.Toml
