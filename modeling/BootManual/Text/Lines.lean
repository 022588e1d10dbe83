import BootManual.Text.Split

/-!
# Lines

A line is closed by a newline, and one carriage return in front of that newline
belongs to the line end as well.  What follows the last newline is a line only if
it is not empty, and it keeps a carriage return at its end.  The same rule cuts
characters and bytes, so it is stated for symbols of any type.
-/

namespace BootManual.Lines

variable {Symbol : Type} [BEq Symbol]

/-- The line without the carriage return that ends it, if one does. -/
def dropReturn (carriageReturn : Symbol) (line : List Symbol) : List Symbol :=
  if line.getLast? == some carriageReturn then line.dropLast else line

/-- The lines that a newline closes. -/
def closed (newline carriageReturn : Symbol) (symbols : List Symbol) : List (List Symbol) :=
  (symbols.splitOn newline).dropLast.map (dropReturn carriageReturn)

/-- What stands behind the last newline. -/
def unclosed (newline : Symbol) (symbols : List Symbol) : List Symbol :=
  (symbols.splitOn newline).getLastD []

/-- All lines: the closed ones, and what stands behind them unless that is empty. -/
def cut (newline carriageReturn : Symbol) (symbols : List Symbol) : List (List Symbol) :=
  let last := unclosed newline symbols
  closed newline carriageReturn symbols ++ (if last.isEmpty then [] else [last])

/-- The lines of a text. -/
def ofText (text : Text) : List Text :=
  cut '\n' '\r' text

/-- The lines of a sequence of bytes, before any of them is decoded. -/
def ofBytes (bytes : List UInt8) : List (List UInt8) :=
  cut 0x0A 0x0D bytes

/-- The lines of a sequence of bytes that a newline closes. -/
def closedOfBytes (bytes : List UInt8) : List (List UInt8) :=
  closed 0x0A 0x0D bytes

end BootManual.Lines
