import BootManual.Text.Split

/-!
# Texts that read as numbers

A plain scalar that looks like a number is read as one.  Integers may be written
in base sixteen, eight or two, behind `0x`, `0o` or `0b`, if they fit 128 bits;
decimal numbers may have a fraction and an exponent, if the number they denote
does not round to infinity in double precision; and infinity and NaN have words
of their own.
-/

namespace BootManual.Yaml

namespace Number

/-- The value of a digit in a base, letters following the figures. -/
def digit? (base : Nat) (letter : Char) : Option Nat :=
  let code := letter.toLower.toNat
  let value :=
    if letter.isDigit then code - '0'.toNat
    else if 'a'.toNat ≤ code && code ≤ 'z'.toNat then code - 'a'.toNat + 10
    else base
  if value < base then some value else none

/-- The number that digits in a base denote, the leading ones being worth
`value`. -/
def continueDigits? (base : Nat) (value : Nat) : Text → Option Nat
  | [] => some value
  | letter :: rest =>
    match digit? base letter with
    | some next => continueDigits? base (value * base + next) rest
    | none => none

/-- The number that a non-empty row of digits denotes. -/
def natural? (base : Nat) (text : Text) : Option Nat :=
  if text.isEmpty then none else continueDigits? base 0 text

/-- The text without a sign in front, and whether there was a minus. -/
def splitSign : Text → Bool × Text
  | '+' :: rest => (false, rest)
  | '-' :: rest => (true, rest)
  | text => (false, text)

/-- The base that a text announces, and the digits behind. -/
def splitBase? : Text → Option (Nat × Text)
  | '0' :: 'x' :: digits => some (16, digits)
  | '0' :: 'o' :: digits => some (8, digits)
  | '0' :: 'b' :: digits => some (2, digits)
  | _ => none

/-- Whether a text is an integer in an announced base that fits 128 bits. -/
def isBasedInteger (text : Text) : Bool :=
  let (negative, magnitude) := splitSign text
  match splitBase? magnitude with
  | none => false
  | some (base, digits) =>
    match natural? base digits with
    | none => false
    | some value => if negative then value ≤ Nat.pow 2 127 else value < Nat.pow 2 128

/-- Two or more figures of which the first is a zero, behind at most one sign.
They are text, and are quoted so that nobody takes them for a number. -/
def isZeroPadded (text : Text) : Bool :=
  match (splitSign text).2 with
  | '0' :: figure :: rest => (figure :: rest).all Char.isDigit
  | _ => false

/-! ## Decimal numbers -/

/-- The number `digits * 10 ^ exponent`. -/
structure Decimal where
  digits : Nat
  exponent : Int
  deriving DecidableEq, Repr

/-- The exponent at the end of a number: nothing, or the letter E and an integer. -/
def exponent? : Text → Option Int
  | [] => some 0
  | mark :: rest =>
    if mark = 'e' || mark = 'E' then
      let (negative, magnitude) := splitSign rest
      (natural? 10 magnitude).map fun value => if negative then -(value : Int) else value
    else
      none

/-- The figures behind a decimal point, if there is one, and what follows them. -/
def splitFraction : Text → Text × Text
  | '.' :: rest => (rest.takeWhile Char.isDigit, rest.dropWhile Char.isDigit)
  | text => ([], text)

/-- The number that figures, a point and an exponent denote.  Figures have to stand
on at least one side of the point. -/
def decimal? (text : Text) : Option Decimal :=
  let whole := text.takeWhile Char.isDigit
  let (fraction, rest) := splitFraction (text.dropWhile Char.isDigit)
  match natural? 10 (whole ++ fraction), exponent? rest with
  | some digits, some exponent => some ⟨digits, exponent - fraction.length⟩
  | _, _ => none

namespace Decimal

/-- The smallest number that double precision rounds to infinity: halfway between
the largest finite number and the power of two above it. -/
def overflow : Nat :=
  (Nat.pow 2 54 - 1) * Nat.pow 2 970

/-- The number of figures of a positive number without leading zeros. -/
def width (number : Decimal) : Nat :=
  (Nat.toDigits 10 number.digits).length

/-- Whether the number is below `overflow`.  The count of figures in front of the
decimal point decides, unless it is that of `overflow` itself, 309. -/
def isFinite (number : Decimal) : Bool :=
  let figures : Int := number.width + number.exponent
  if number.digits = 0 || figures < 309 then true
  else if 309 < figures then false
  else number.digits * Nat.pow 10 number.exponent.toNat <
    overflow * Nat.pow 10 (-number.exponent).toNat

end Decimal

/-- Whether a text is a decimal number that is finite in double precision. -/
def isDecimal (text : Text) : Bool :=
  match decimal? (splitSign text).2 with
  | some number => number.isFinite
  | none => false

/-- The words for infinity, which may have a sign in front. -/
def infinityWords : List Text :=
  [".inf".toList, ".Inf".toList, ".INF".toList]

/-- The words for NaN, which may not. -/
def nanWords : List Text :=
  [".nan".toList, ".NaN".toList, ".NAN".toList]

/-- Whether a plain scalar with this text is read as a number. -/
def reads (text : Text) : Bool :=
  isBasedInteger text || isDecimal text || infinityWords.contains (splitSign text).2 ||
    nanWords.contains text

end Number

end BootManual.Yaml
