import BootManual.Text.Blank

/-!
# Digits

Numbers are written in decimal digits as long as they need to be, and codes of
characters in a fixed count of hexadecimal digits, with capitals.
-/

namespace BootManual.Text

/-- A number in decimal digits. -/
def ofNat (number : Nat) : Text :=
  Nat.toDigits 10 number

/-- A hexadecimal digit. -/
def hexDigit (value : Nat) : Char :=
  (Nat.digitChar value).toUpper

/-- The lowest hexadecimal digits of a number, in a fixed count. -/
def hexDigits : Nat → Nat → Text
  | 0, _ => []
  | count + 1, number => hexDigits count (number / 16) ++ [hexDigit (number % 16)]

end BootManual.Text
