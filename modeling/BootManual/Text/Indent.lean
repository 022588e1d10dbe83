import BootManual.Text.Split

/-!
# Indentation

Indenting a text puts a margin in front of every line that is not empty.  Empty
lines stay empty, and line ends stay where they are.
-/

namespace BootManual.Text

/-- A margin of spaces. -/
def margin (columns : Nat) : Text :=
  List.replicate columns ' '

/-- A line behind a margin, unless the line is empty. -/
def indentLine (columns : Nat) (line : Text) : Text :=
  if line.isEmpty then [] else margin columns ++ line

/-- The text with a margin in front of every line that is not empty. -/
def indent (columns : Nat) (text : Text) : Text :=
  join ['\n'] ((pieces '\n' text).map (indentLine columns))

@[simp]
theorem indentLine_zero (line : Text) : indentLine 0 line = line := by
  cases line <;> rfl

@[simp]
theorem indent_zero (text : Text) : indent 0 text = text := by
  simp [indent, join_pieces, show indentLine 0 = id from funext indentLine_zero]

/-- Margins add up. -/
theorem indentLine_indentLine (outer inner : Nat) (line : Text) :
    indentLine outer (indentLine inner line) = indentLine (outer + inner) line := by
  cases line with
  | nil => rfl
  | cons letter rest =>
    simp [indentLine, margin, ← List.append_assoc]

end BootManual.Text
