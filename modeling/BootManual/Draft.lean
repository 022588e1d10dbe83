import BootManual.Entry
import BootManual.ValueList

/-!
# Drafts of parameters

A draft is a parameter whose continuation lines are still coming in, together
with the value block that one of them may have opened.  A line gives the format,
gives values, extends the block, or is description.  Nothing is ever rejected: a
block that turns out to hold no values, or that is never closed, is moved to the
end of the description line by line.
-/

namespace BootManual

/-- What became of a continuation line. -/
inductive Outcome where
  /-- It gave a format, or was an empty pair of braces. -/
  | format
  /-- It completed a list of values. -/
  | values
  /-- It opened a value block. -/
  | blockOpened
  /-- It went into the open block. -/
  | blockContinued
  /-- It, or the block that it closed, went into the description. -/
  | description
  deriving DecidableEq, Repr

/-- A parameter in the making. -/
structure Draft where
  entry : Entry
  /-- The lines of the open value block, if one is open. -/
  block : Option (List Text)
  deriving DecidableEq, Repr

namespace Draft

/-- A draft without an open block. -/
def start (entry : Entry) : Draft :=
  ⟨entry, none⟩

/-- The text followed by each of the lines on a line of its own. -/
def appendLines (text : Text) (lines : List Text) : Text :=
  text ++ lines.flatMap ('\n' :: ·)

/-- The entry with lines added to its description. -/
def describe (entry : Entry) (lines : List Text) : Entry :=
  { entry with description := appendLines entry.description lines }

/-- The draft with its open block, if any, given up to the description. -/
def flush (draft : Draft) : Draft :=
  ⟨describe draft.entry (draft.block.getD []), none⟩

/-- The draft, free of any block, after a list given by its lines has been read:
a choice of the values, or description if there are none. -/
def readValues (entry : Entry) (lines : List Text) : Outcome × Draft :=
  match ValueList.read lines with
  | [] => (.description, start (describe entry lines))
  | values => (.values, start { entry with format := .choice values })

/-- The entry with the format that a pair of braces without a separator holds.
Empty braces leave the format as it was. -/
def readBraces (entry : Entry) (line : Text) : Entry :=
  match Text.trim (ValueList.inside line) with
  | [] => entry
  | inner => { entry with format := .literal inner }

/-- The draft after a line that neither opens a block nor is a list of its own. -/
def absorbInner (draft : Draft) (line : Text) : Outcome × Draft :=
  match draft.block with
  | some lines =>
    if ValueList.closes line then
      readValues draft.entry (lines ++ [line])
    else if ValueList.hasSeparator line then
      (.blockContinued, { draft with block := some (lines ++ [line]) })
    else
      (.description, { draft with entry := describe draft.entry [line] })
  | none =>
    if ValueList.opens line && ValueList.closes line then
      (.format, start (readBraces draft.entry line))
    else
      (.description, start (describe draft.entry [line]))

/-- The draft after a line without a format directive in front and with its
opening brace written once. -/
def absorbContent (draft : Draft) (line : Text) : Outcome × Draft :=
  let separated := ValueList.hasSeparator line
  if ValueList.opens line && ValueList.closes line && separated then
    readValues draft.flush.entry [line]
  else if ValueList.opens line && !ValueList.closes line &&
      (separated || decide (line = ['\x7b'])) then
    (.blockOpened, ⟨draft.flush.entry, some [line]⟩)
  else
    absorbInner draft line

/-- The draft after a trimmed continuation line.  A format directive without
braces gives the format, unless a block is open; otherwise the words of the
directive are dropped and the rest counts as the line. -/
def absorb (draft : Draft) (line : Text) : Outcome × Draft :=
  match Text.after? Header.formatDirective line with
  | none => absorbContent draft (ValueList.collapseDoubledBrace line)
  | some rest =>
    if draft.block.isNone && !rest.any Text.isBrace then
      (.format, start { draft.entry with format := .literal (Text.trim rest) })
    else
      absorbContent draft (ValueList.collapseDoubledBrace (Text.trimStart rest))

@[simp]
theorem appendLines_nil (text : Text) : appendLines text [] = text := by
  simp [appendLines]

@[simp]
theorem describe_nil (entry : Entry) : describe entry [] = entry := by
  cases entry
  simp [describe]

@[simp]
theorem flush_start (entry : Entry) : (start entry).flush = start entry := by
  simp [start, flush]

@[simp]
theorem flush_flush (draft : Draft) : draft.flush.flush = draft.flush := by
  simp [flush]

end Draft

end BootManual
