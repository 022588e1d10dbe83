import BootManual.Text.Blank

/-!
# Trimming

Trimming drops the characters of a class from one or both ends of a text and
never touches its inside.  The class is white space unless a caller names
another one.
-/

namespace BootManual.Text

/-- The text without the longest ending made of characters that pass the test. -/
def dropEndWhile (test : Char → Bool) (text : Text) : Text :=
  (text.reverse.dropWhile test).reverse

/-- The text without the characters at either end that pass the test. -/
def strip (test : Char → Bool) (text : Text) : Text :=
  dropEndWhile test (text.dropWhile test)

/-- The text without leading white space. -/
def trimStart (text : Text) : Text :=
  text.dropWhile isBlank

/-- The text without trailing white space. -/
def trimEnd (text : Text) : Text :=
  dropEndWhile isBlank text

/-- The text without white space at either end. -/
def trim (text : Text) : Text :=
  strip isBlank text

@[simp]
theorem dropEndWhile_nil (test : Char → Bool) : dropEndWhile test [] = [] :=
  rfl

@[simp]
theorem strip_nil (test : Char → Bool) : strip test [] = [] :=
  rfl

end BootManual.Text
