import BootManual.Header

/-!
# Value lists

A list of values stands in braces, on one line or over several.  Bars separate
the values if there is a bar anywhere in the list, and commas do otherwise.  A
line break separates values too, because every line is cut apart on its own.
-/

namespace BootManual.ValueList

/-- Whether a character can separate values. -/
def isSeparator (letter : Char) : Bool :=
  letter == '|' || letter == ','

/-- Whether a character at either end of a value does not belong to it: white
space, a quotation mark or a separator. -/
def isMargin (letter : Char) : Bool :=
  Text.isBlank letter || letter == '"' || letter == '\'' || isSeparator letter

/-- Whether a line has a separator in it. -/
def hasSeparator (line : Text) : Bool :=
  line.any isSeparator

theorem hasSeparator_iff {line : Text} : hasSeparator line ↔ '|' ∈ line ∨ ',' ∈ line := by
  simp [hasSeparator, isSeparator, and_or_left, exists_or]

/-- Whether a line opens a list. -/
def opens (line : Text) : Bool :=
  Text.startsWith ['\x7b'] line

/-- Whether a line closes a list. -/
def closes (line : Text) : Bool :=
  Text.endsWith '\x7d' line

/-- An opening brace that is written twice with a space between is one brace. -/
def collapseDoubledBrace (line : Text) : Text :=
  match Text.after? "\x7b \x7b".toList line with
  | some rest => '\x7b' :: rest
  | none => line

/-- The separator of a list given by its lines. -/
def separator (lines : List Text) : Char :=
  if lines.any (fun line => line.contains '|') then '|' else ','

/-- The text between the braces at the ends of a line. -/
def inside (line : Text) : Text :=
  Text.strip Text.isBrace line

/-- The values on the lines of a list. -/
def read (lines : List Text) : List Text :=
  let mark := separator lines
  let parts := lines.flatMap fun line => Text.pieces mark (inside (Text.trim line))
  (parts.map (Text.strip isMargin)).filter (fun value => !value.isEmpty)

end BootManual.ValueList
