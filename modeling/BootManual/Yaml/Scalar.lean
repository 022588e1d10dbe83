import BootManual.Text.Digits
import BootManual.Text.Indent
import BootManual.Yaml.Number

/-!
# Scalars in YAML

A text is written plain where that is allowed and where it cannot be read as
something else.  Otherwise it is quoted: as a literal block if it has newlines,
in single quotation marks if these can hold it, and in double ones, with escapes,
where nothing else is left.  YAML knows more line ends than the newline; a text
that has one of them and no newline can still stand in single quotation marks.
-/

namespace BootManual.Yaml

/-- The four ways to write a text. -/
inductive ScalarStyle where
  | plain
  | singleQuoted
  | doubleQuoted
  | literalBlock
  deriving DecidableEq, Repr

namespace Scalar

/-! ## Classes of characters -/

/-- The characters that end a line in YAML. -/
def isBreak (letter : Char) : Bool :=
  let code := letter.toNat
  code == 0x0A || code == 0x0D || code == 0x85 || code == 0x2028 || code == 0x2029

/-- The characters that are written as they are. -/
def isPrintable (letter : Char) : Bool :=
  let code := letter.toNat
  code == 0x0A || (0x20 ≤ code && code ≤ 0x7E) || (0xA0 ≤ code && code ≤ 0xD7FF) ||
    (0xE000 ≤ code && code ≤ 0xFFFD && code != 0xFEFF) || 0x10000 ≤ code

/-- The characters that only double quotation marks can hold.  The newline and the
two wide line ends, U+2028 and U+2029, are not among them. -/
def isSpecial (letter : Char) : Bool :=
  !isPrintable letter

/-- The characters that cannot begin a plain scalar. -/
def isIndicator (letter : Char) : Bool :=
  "#,[]\x7b\x7d&*!|>'\"%@\x60".toList.contains letter

/-- The characters that set words apart: spaces, tabs and line ends. -/
def isGap (letter : Char) : Bool :=
  letter == ' ' || letter == '\t' || isBreak letter

/-- Whether the text behind a colon, a dash or a question mark lets that character
act as an indicator: there is none, or it begins with a gap. -/
def separates : Text → Bool
  | [] => true
  | letter :: _ => isGap letter

/-! ## Texts that read as something else -/

/-- The words that read as null or as a boolean. -/
def words : List Text :=
  ["null".toList, "Null".toList, "NULL".toList, "~".toList, "true".toList, "True".toList,
    "TRUE".toList, "false".toList, "False".toList, "FALSE".toList]

/-- Whether the text, written plain, is not read as that text, or looks so much like
a number that it is quoted all the same. -/
def isAmbiguous (text : Text) : Bool :=
  text.isEmpty || words.contains text || Number.reads text || Number.isZeroPadded text

/-! ## Which styles are allowed -/

/-- Whether the first character lets a plain scalar begin. -/
def startsPlain : Text → Bool
  | [] => false
  | letter :: rest =>
    if letter == '?' || letter == ':' || letter == '-' then
      !separates rest
    else
      letter != ' ' && !isIndicator letter

/-- Whether the text behind the first character of a plain scalar is free of
characters that would end it: a colon in front of a gap, and a number sign behind
one. -/
def continuesPlain (previous : Char) : Text → Bool
  | [] => true
  | letter :: rest =>
    !(letter == ':' && separates rest) && !(letter == '#' && isGap previous) &&
      continuesPlain letter rest

/-- Whether a text may be written plain. -/
def allowsPlain (text : Text) : Bool :=
  match text with
  | [] => false
  | first :: rest =>
    startsPlain text && continuesPlain first rest && !Text.endsWith ' ' text &&
      !text.any isSpecial && !text.any isBreak && !Text.startsWith "---".toList text &&
      !Text.startsWith "...".toList text

/-- Whether two neighbours in a text pass a test each, in this order. -/
def hasNeighbours (first second : Char → Bool) : Text → Bool
  | [] => false
  | letter :: rest =>
    (first letter && rest.head?.any second) || hasNeighbours first second rest

/-- Whether a text has a space in front of a line end. -/
def hasSpaceBeforeBreak (text : Text) : Bool :=
  hasNeighbours (· == ' ') isBreak text

/-- Whether a text has a space behind a line end. -/
def hasSpaceAfterBreak (text : Text) : Bool :=
  hasNeighbours isBreak (· == ' ') text

/-- Whether a text may be written in single quotation marks. -/
def allowsSingleQuotes (text : Text) : Bool :=
  !text.any isSpecial && !hasSpaceBeforeBreak text && !hasSpaceAfterBreak text

/-- Whether a text may be written as a literal block. -/
def allowsBlock (text : Text) : Bool :=
  !text.any isSpecial && !hasSpaceBeforeBreak text && !Text.endsWith ' ' text

/-- The style in which a text is written. -/
def style (text : Text) : ScalarStyle :=
  if text.contains '\n' then
    if allowsBlock text then .literalBlock else .doubleQuoted
  else if isAmbiguous text then .singleQuoted
  else if allowsPlain text then .plain
  else if allowsSingleQuotes text then .singleQuoted
  else .doubleQuoted

/-! ## Writing -/

/-- The content between single quotation marks: a mark inside is doubled. -/
def doubleMarks (text : Text) : Text :=
  text.flatMap fun letter => if letter = '\'' then ['\'', '\''] else [letter]

/-- The escape of a character by its code, as short as it can be. -/
def escapeCode (code : Nat) : Text :=
  if code ≤ 0xFF then '\\' :: 'x' :: Text.hexDigits 2 code
  else if code ≤ 0xFFFF then '\\' :: 'u' :: Text.hexDigits 4 code
  else '\\' :: 'U' :: Text.hexDigits 8 code

/-- The characters whose escape is a letter, with that letter. -/
def shortEscapes : List (Nat × Char) :=
  [(0x00, '0'), (0x07, 'a'), (0x08, 'b'), (0x09, 't'), (0x0A, 'n'), (0x0B, 'v'), (0x0C, 'f'),
    (0x0D, 'r'), (0x1B, 'e'), (0x22, '"'), (0x5C, '\\'), (0x85, 'N'), (0x2028, 'L'), (0x2029, 'P')]

/-- A character between double quotation marks. -/
def escapeLetter (letter : Char) : Text :=
  match shortEscapes.lookup letter.toNat with
  | some short => ['\\', short]
  | none => if isSpecial letter then escapeCode letter.toNat else [letter]

/-- What the header of a literal block says about its content: the indentation, if
the content starts with a space or a newline and so does not show it, and the line
ends to keep, if they are not exactly one. -/
def blockHints (text : Text) : Text :=
  let indentation :=
    if text.head?.any fun letter => letter == ' ' || isBreak letter then ['2'] else []
  let ending :=
    match text.reverse with
    | [] => ['-']
    | last :: before =>
      if !isBreak last then ['-'] else if before.head?.all isBreak then ['+'] else []
  indentation ++ ending

/-- Whether a text ends in a line end. -/
def endsLine (text : Text) : Bool :=
  text.getLast?.any isBreak

/-- The text with a line end at its end: the one it has, or else a newline. -/
def close (text : Text) : Text :=
  if endsLine text then text else text ++ ['\n']

/-- The text with a margin in front of every line that is not empty, whichever line
ends it has.  The first line counts if the text begins one. -/
def indentLines (column : Nat) (begins : Bool) : Text → Text
  | [] => []
  | letter :: rest =>
    if isBreak letter then
      letter :: indentLines column true rest
    else
      (if begins then Text.margin column else []) ++ letter :: indentLines column false rest

/-- The content between single quotation marks.  Its lines are indented, and so is
the closing mark if it stands on a line of its own. -/
def quotedLines (column : Nat) (text : Text) : Text :=
  indentLines column false (doubleMarks text) ++
    (if endsLine text then Text.margin column else [])

/-- A text as a scalar, up to and including the end of its last line.  Lines that
the text begins are indented to the column. -/
def write (column : Nat) (text : Text) : Text :=
  match style text with
  | .plain => text ++ ['\n']
  | .singleQuoted => '\'' :: quotedLines column text ++ ['\'', '\n']
  | .doubleQuoted => '"' :: text.flatMap escapeLetter ++ ['"', '\n']
  | .literalBlock => '|' :: blockHints text ++ '\n' :: close (indentLines column true text)

end Scalar

end BootManual.Yaml
