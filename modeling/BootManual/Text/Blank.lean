/-!
# Characters and white space

A text is the list of its characters, so every function on texts is a recursion
on that list.  White space is the Unicode property `White_Space`.  It covers the
white space of ASCII and a dozen wider spaces, and leaves out the zero-width
space, the byte order mark and the four ASCII information separators.  Braces are
the other class of characters that more than one part of a manual is cut by.
-/

namespace BootManual

/-- A text is the list of its characters. -/
abbrev Text := List Char

namespace Text

/-- The characters with the Unicode property `White_Space`. -/
def isBlank (letter : Char) : Bool :=
  let code := letter.toNat
  (0x09 ≤ code && code ≤ 0x0D) || code == 0x20 || code == 0x85 || code == 0xA0 ||
    code == 0x1680 || (0x2000 ≤ code && code ≤ 0x200A) || code == 0x2028 ||
    code == 0x2029 || code == 0x202F || code == 0x205F || code == 0x3000

/-- Whether a character is a brace. -/
def isBrace (letter : Char) : Bool :=
  letter == '\x7b' || letter == '\x7d'

/-- A letter or a digit is not blank. -/
theorem isBlank_eq_false_of_isAlphanum {letter : Char} (named : letter.isAlphanum) :
    isBlank letter = false := by
  have code : letter.toNat = letter.val.toNat := rfl
  have ranges : letter.isAlphanum =
      ((decide (letter.val ≥ 'A'.val ∧ letter.val ≤ 'Z'.val) ||
        (letter.val ≥ 'a'.val && letter.val ≤ 'z'.val)) ||
        (letter.val ≥ '0'.val && letter.val ≤ '9'.val)) := rfl
  rw [ranges] at named
  simp only [Bool.or_eq_true, Bool.and_eq_true, decide_eq_true_eq, ge_iff_le,
    UInt32.le_iff_toNat_le, ← code] at named
  simp at named
  simp only [isBlank, Bool.or_eq_false_iff, Bool.and_eq_false_iff,
    decide_eq_false_iff_not, beq_eq_false_iff_ne]
  omega

end Text

end BootManual
