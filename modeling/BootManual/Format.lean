import BootManual.Text.Blank

/-!
# Formats

The format of a parameter says what may follow its name on the boot command line:
nothing at all, a token or phrase taken from the manual, one of a list of values,
or further parameters.  Before anything is known about it the format is unset.
-/

namespace BootManual

/-- What values a parameter takes. -/
inductive Format where
  /-- Nothing has been said about the values. -/
  | unset
  /-- A type token such as `<int>`, or a phrase that describes the values. -/
  | literal (text : Text)
  /-- One of the listed values. -/
  | choice (values : List Text)
  /-- The parameter stands alone. -/
  | flag
  /-- The parameter is made of sub-parameters. -/
  | complex
  deriving DecidableEq, Repr

namespace Format

/-- The word that stands for the format in listings and documents.  A literal
stands for itself. -/
def marker : Format → Text
  | unset => []
  | literal text => text
  | choice _ => "enum".toList
  | flag => "flag".toList
  | complex => "complex".toList

/-- The listed values.  Only a choice has any. -/
def values : Format → List Text
  | choice values => values
  | _ => []

/-- Whether nothing has been said about the values. -/
def isUnset : Format → Bool
  | unset => true
  | _ => false

@[simp]
theorem isUnset_iff (format : Format) : format.isUnset ↔ format = unset := by
  cases format <;> simp [isUnset]

end Format

end BootManual
