import BootManual.Text.Digits
import BootManual.Text.Split

/-!
# Strings in TOML

TOML has four ways to write a string: one or three quotation marks, double or
single.  Single marks take their content as it is; double marks allow escapes.  A
string is written in the first way that needs no escape, apart from tabs, and
with escapes only if there is none.
-/

namespace BootManual.Toml

/-- The four ways to write a string. -/
inductive Quotation where
  /-- One double mark, with escapes. -/
  | basic
  /-- One single mark, without escapes. -/
  | literal
  /-- Three double marks, with escapes and line breaks. -/
  | basicBlock
  /-- Three single marks, with line breaks and without escapes. -/
  | literalBlock
  deriving DecidableEq, Repr

/-- The control characters that no string may contain as they are.  Tabs and
newlines are not among them. -/
def isControl (letter : Char) : Bool :=
  (letter.toNat < 0x20 && letter != '\t' && letter != '\n') || letter.toNat == 0x7F

/-- The length of the longest run of a character, given the length of the run
that ends in front of the text. -/
def longestRun (mark : Char) (current : Nat) : Text → Nat
  | [] => current
  | letter :: rest =>
    if letter = mark then
      longestRun mark (current + 1) rest
    else
      max current (longestRun mark 0 rest)

namespace Quotation

/-- Whether a text can be written this way without an escape, tabs apart. -/
def fits (text : Text) : Quotation → Bool
  | basic => !text.any isControl && !text.contains '\\' && !text.contains '"' &&
      !text.contains '\n'
  | literal => !text.any isControl && !text.contains '\'' && !text.contains '\n'
  | basicBlock => !text.any isControl && !text.contains '\\' &&
      decide (longestRun '"' 0 text ≤ 2)
  | literalBlock => !text.any isControl && decide (longestRun '\'' 0 text ≤ 2)

/-- The way in which a text is written: the first that fits, and double marks with
escapes if none does. -/
def choose (text : Text) : Quotation :=
  if basic.fits text then basic
  else if literal.fits text then literal
  else if basicBlock.fits text then basicBlock
  else if literalBlock.fits text then literalBlock
  else if text.contains '\n' then basicBlock
  else basic

/-- The marks at either end. -/
def marks : Quotation → Text
  | basic => ['"']
  | literal => ['\'']
  | basicBlock => ['"', '"', '"']
  | literalBlock => ['\'', '\'', '\'']

/-- Whether the content may run over several lines. -/
def isBlock : Quotation → Bool
  | basic => false
  | literal => false
  | basicBlock => true
  | literalBlock => true

end Quotation

/-- A character other than a quotation mark and a newline, escaped if it has to
be. -/
def escapeLetter (letter : Char) : Text :=
  if letter = '\x08' then ['\\', 'b']
  else if letter = '\t' then ['\\', 't']
  else if letter = '\x0c' then ['\\', 'f']
  else if letter = '\r' then ['\\', 'r']
  else if letter = '\\' then ['\\', '\\']
  else if isControl letter then '\\' :: 'u' :: Text.hexDigits 4 letter.toNat
  else [letter]

/-- The content between two double marks. -/
def escapeLine : Text → Text
  | [] => []
  | letter :: rest =>
    if letter = '"' then '\\' :: '"' :: escapeLine rest
    else if letter = '\n' then '\\' :: 'n' :: escapeLine rest
    else escapeLetter letter ++ escapeLine rest

/-- The content between three double marks.  Two marks in a row may stand as they
are and a third is escaped; the count is of those in front of the text. -/
def escapeBlock (count : Nat) : Text → Text
  | [] => []
  | letter :: rest =>
    if letter = '"' then
      if count < 2 then '"' :: escapeBlock (count + 1) rest else '\\' :: '"' :: escapeBlock 0 rest
    else if letter = '\n' then '\n' :: escapeBlock 0 rest
    else escapeLetter letter ++ escapeBlock 0 rest

namespace Quotation

/-- The content of a string written this way. -/
def content (text : Text) : Quotation → Text
  | basic => escapeLine text
  | literal => text
  | basicBlock => escapeBlock 0 text
  | literalBlock => text

/-- A string written this way.  Three marks and a line break inside them put a
newline in front of the content, which readers drop. -/
def write (text : Text) (quotation : Quotation) : Text :=
  let opening := if quotation.isBlock && text.contains '\n' then ['\n'] else []
  quotation.marks ++ opening ++ quotation.content text ++ quotation.marks

end Quotation

/-- A string as a document contains it. -/
def quote (text : Text) : Text :=
  (Quotation.choose text).write text

end BootManual.Toml
