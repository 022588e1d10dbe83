import BootManual.Text.Trim

/-!
# Lines of a manual

The role of a line follows from the tabs in front of it and the first character
behind them.  One tab and a letter or digit open a parameter, two open a
sub-parameter, three or more continue what is open, and any other line that is
not empty has no role.  Only tabs count as indentation.
-/

namespace BootManual

/-- How far a continuation line is indented. -/
inductive Depth where
  /-- Three tabs: a format, values or description of a parameter. -/
  | three
  /-- Four tabs or more: description of a sub-parameter. -/
  | four
  deriving DecidableEq, Repr

/-- The role of a line, with the text that matters to it. -/
inductive Line where
  | blank
  | topHeader (text : Text)
  | nestedHeader (text : Text)
  | continuation (depth : Depth) (text : Text)
  | ignored
  deriving DecidableEq, Repr

namespace Line

/-- The number of tabs in front of a line. -/
def indent (line : Text) : Nat :=
  (line.takeWhile (· == '\t')).length

/-- The line without the tabs in front of it. -/
def body (line : Text) : Text :=
  line.dropWhile (· == '\t')

/-- Whether a header can begin with this text: its first character is an ASCII
letter or digit. -/
def startsName : Text → Bool
  | [] => false
  | letter :: _ => letter.isAlphanum

/-- The role of a line whose line end has been removed. -/
def classify (line : Text) : Line :=
  if line.isEmpty then
    blank
  else if indent line = 1 && startsName (body line) then
    topHeader (body line).trimEnd
  else if indent line = 2 && startsName (body line) then
    nestedHeader (body line).trimEnd
  else if indent line = 3 then
    continuation .three (body line).trim
  else if 4 ≤ indent line then
    continuation .four (body line).trim
  else
    ignored

end Line

end BootManual
