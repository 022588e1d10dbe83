import BootManual.Text.Split

/-!
# Headers

A header line reads `name[=hint] [FLAG,FLAG] description`.  The first token holds
the name and, behind an equals sign, a hint of the format.  A second token in
brackets lists flags.  A description that is a plain format directive is a hint
as well and wins over the one at the name; a directive with braces stays in the
description.
-/

namespace BootManual

/-- The parts of a header line. -/
structure Header where
  name : Text
  flags : Option (List Text)
  hint : Option Text
  description : Text
  deriving DecidableEq, Repr

namespace Header

/-- The words that introduce a format. -/
def formatDirective : Text :=
  "Format: ".toList

/-- The one parameter whose flags are written where a hint belongs. -/
def gluedName : Text :=
  "sdw_mclk_divider".toList

/-- The flags of that parameter, as they stand behind its equals sign. -/
def gluedFlags : Text :=
  "[SDW]".toList

/-- The format of that parameter. -/
def gluedFormat : Text :=
  "<int>".toList

/-- Whether a token is a list of flags: a bracket at either end.  The two differ,
so the token has at least two characters. -/
def isFlagList (token : Text) : Bool :=
  Text.startsWith ['['] token && Text.endsWith ']' token

/-- The flags in a token: what stands between its commas once the brackets at its
ends are gone, without empty pieces. -/
def readFlags (token : Text) : List Text :=
  let inner := Text.dropEndWhile (· == ']') (token.dropWhile (· == '['))
  (Text.pieces ',' inner).filter (fun flag => !flag.isEmpty)

/-- The name and the hint in the first token. -/
def readName (token : Text) : Text × Option Text :=
  match Text.cutAt? (· == '=') token with
  | some (name, hint) => (name, if hint.isEmpty then none else some hint)
  | none => (token, none)

/-- The format that a description consists of, if it is a directive without
braces. -/
def inlineFormat (description : Text) : Option Text :=
  match Text.after? formatDirective description with
  | none => none
  | some rest =>
    let format := Text.trim rest
    if format.isEmpty || format.any Text.isBrace then none else some format

/-- The flags at the start of a text, and the text behind them. -/
def splitFlags (text : Text) : Option (List Text) × Text :=
  let (token, rest) := Text.cutToken text
  if isFlagList token then (some (readFlags token), rest) else (none, text)

/-- The parts of a header line, unless it names nothing. -/
def read? (line : Text) : Option Header :=
  let (first, rest) := Text.cutToken (Text.trim line)
  let (name, hint) := readName first
  if name.isEmpty then
    none
  else if name = gluedName ∧ hint = some gluedFlags then
    some ⟨name, some (readFlags gluedFlags), some gluedFormat, rest⟩
  else
    let (flags, description) := splitFlags rest
    match inlineFormat description with
    | some format => some ⟨name, flags, some format, []⟩
    | none => some ⟨name, flags, hint, description⟩

end Header

end BootManual
