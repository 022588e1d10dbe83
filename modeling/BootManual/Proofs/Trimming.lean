import BootManual.Text.Trim
import Mathlib.Data.List.DropRight

/-!
# What trimming leaves

A text is stripped of a class of characters if neither of its ends is in that
class.  Stripping makes a text so and leaves a text that is so alone.  Hence what
stood around a stripped text can be put there and taken off again.
-/

namespace BootManual.Text

variable {test : Char → Bool} {text : Text}

/-- Neither the first nor the last character passes the test. -/
structure IsStripped (test : Char → Bool) (text : Text) : Prop where
  head : ∀ letter ∈ text.head?, test letter = false
  last : ∀ letter ∈ text.getLast?, test letter = false

theorem isStripped_nil (test : Char → Bool) : IsStripped test [] :=
  ⟨by simp, by simp⟩

theorem isStripped_iff :
    IsStripped test text ↔
      (text.head?.all fun letter => !test letter) = true ∧
        (text.getLast?.all fun letter => !test letter) = true := by
  simp only [Option.all_eq_true, Bool.not_eq_true']
  constructor
  · intro stripped
    exact ⟨stripped.head, stripped.last⟩
  · rintro ⟨head, last⟩
    exact ⟨head, last⟩

instance (test : Char → Bool) (text : Text) : Decidable (IsStripped test text) :=
  decidable_of_iff _ isStripped_iff.symm

theorem isStripped_append {first last : Text} (someFirst : first ≠ [])
    (someLast : last ≠ []) (head : ∀ letter ∈ first.head?, test letter = false)
    (tail : ∀ letter ∈ last.getLast?, test letter = false) : IsStripped test (first ++ last) where
  head letter inside := by
    rw [List.head?_append_of_ne_nil first someFirst] at inside
    exact head letter inside
  last letter inside := by
    rw [List.getLast?_append_of_ne_nil first someLast] at inside
    exact tail letter inside

/-! ## The ends of a text -/

theorem dropWhile_eq_self (head : ∀ letter ∈ text.head?, test letter = false) :
    text.dropWhile test = text := by
  cases text with
  | nil => rfl
  | cons letter rest =>
      exact List.dropWhile_cons_of_neg (by simp [head letter rfl])

theorem dropEndWhile_eq_self (last : ∀ letter ∈ text.getLast?, test letter = false) :
    dropEndWhile test text = text := by
  have reversed : text.reverse.dropWhile test = text.reverse :=
    dropWhile_eq_self (by simpa using last)
  rw [dropEndWhile, reversed, List.reverse_reverse]

/-- What passes the test at the end is dropped first. -/
theorem dropEndWhile_append_margin (text : Text) {behind : Text}
    (back : ∀ letter ∈ behind, test letter) :
    dropEndWhile test (text ++ behind) = dropEndWhile test text := by
  rw [dropEndWhile, List.reverse_append, List.dropWhile_append_of_pos (by simpa using back),
    ← dropEndWhile]

theorem dropEndWhile_append {behind : Text}
    (last : ∀ letter ∈ text.getLast?, test letter = false)
    (back : ∀ letter ∈ behind, test letter) : dropEndWhile test (text ++ behind) = text := by
  rw [dropEndWhile_append_margin text back, dropEndWhile_eq_self last]

theorem head?_dropWhile {letter : Char} (first : letter ∈ (text.dropWhile test).head?) :
    test letter = false := by
  have stop := List.head?_dropWhile_not test text
  rw [Option.mem_def.mp first] at stop
  exact stop

theorem getLast?_dropEndWhile {letter : Char}
    (last : letter ∈ (dropEndWhile test text).getLast?) : test letter = false := by
  rw [dropEndWhile, List.getLast?_reverse] at last
  exact head?_dropWhile last

theorem dropEndWhile_begins (test : Char → Bool) (text : Text) :
    dropEndWhile test text <+: text :=
  List.rdropWhile_prefix test text

/-- Dropping at the end leaves a first character that does not pass the test. -/
theorem dropEndWhile_cons {letter : Char} (fails : test letter = false) (rest : Text) :
    dropEndWhile test (letter :: rest) = letter :: dropEndWhile test rest := by
  rw [dropEndWhile, List.reverse_cons, List.dropWhile_append]
  split
  · next empty =>
    simp [dropEndWhile, List.isEmpty_iff.mp empty, fails]
  · simp [dropEndWhile]

/-- The first character of what is left was the first before. -/
theorem mem_head?_of_begins {part : Text} (begins : part <+: text) {letter : Char}
    (first : letter ∈ part.head?) : letter ∈ text.head? := by
  obtain ⟨rest, rfl⟩ := begins
  simp [List.head?_append, Option.mem_def.mp first]

/-! ## Stripping -/

/-- Stripping makes a text stripped. -/
theorem isStripped_strip (test : Char → Bool) (text : Text) :
    IsStripped test (strip test text) where
  head _ first :=
    head?_dropWhile (mem_head?_of_begins (dropEndWhile_begins test (text.dropWhile test)) first)
  last _ last := getLast?_dropEndWhile last

/-- A stripped text is left alone. -/
theorem strip_eq_self (stripped : IsStripped test text) : strip test text = text := by
  rw [strip, dropWhile_eq_self stripped.head, dropEndWhile_eq_self stripped.last]

theorem strip_margin_append {before : Text} (front : ∀ letter ∈ before, test letter)
    (text : Text) : strip test (before ++ text) = strip test text := by
  rw [strip, List.dropWhile_append_of_pos front, ← strip]

theorem strip_append_margin (text : Text) {behind : Text}
    (back : ∀ letter ∈ behind, test letter) : strip test (text ++ behind) = strip test text := by
  rw [strip, strip, List.dropWhile_append]
  split
  · next gone =>
    have nothing : behind.dropWhile test = [] := List.dropWhile_eq_nil_iff.mpr back
    rw [nothing, List.isEmpty_iff.mp gone]
  · exact dropEndWhile_append_margin _ back

/-- Whatever of the class stands around a stripped text is taken off. -/
theorem strip_append {before behind : Text} (front : ∀ letter ∈ before, test letter)
    (stripped : IsStripped test text) (back : ∀ letter ∈ behind, test letter) :
    strip test (before ++ text ++ behind) = text := by
  rw [strip_append_margin _ back, strip_margin_append front, strip_eq_self stripped]

/-- Nothing is left exactly if every character is in the class. -/
theorem strip_eq_nil_iff : strip test text = [] ↔ ∀ letter ∈ text, test letter := by
  constructor
  · intro empty
    have passes : ∀ letter ∈ text.dropWhile test, test letter :=
      List.rdropWhile_eq_nil_iff.mp empty
    apply List.dropWhile_eq_nil_iff.mp
    cases rest : text.dropWhile test with
    | nil => rfl
    | cons letter behind =>
        have first : letter ∈ (text.dropWhile test).head? := by simp [rest]
        have fails : test letter = false := head?_dropWhile first
        have holds : test letter := passes letter (by simp [rest])
        rw [fails] at holds
        contradiction
  · intro passes
    rw [strip, List.dropWhile_eq_nil_iff.mpr passes, dropEndWhile_nil]

theorem strip_cons {letter : Char} (fails : test letter = false) (rest : Text) :
    strip test (letter :: rest) = letter :: dropEndWhile test rest := by
  rw [strip, List.dropWhile_cons_of_neg (by simp [fails]), dropEndWhile_cons fails]

theorem mem_of_mem_strip {letter : Char} (inside : letter ∈ strip test text) : letter ∈ text :=
  List.dropWhile_subset test ((dropEndWhile_begins test _).subset inside)

/-! ## White space -/

theorem isStripped_trim (text : Text) : IsStripped isBlank (trim text) :=
  isStripped_strip isBlank text

theorem trim_eq_self (trimmed : IsStripped isBlank text) : trim text = text :=
  strip_eq_self trimmed

/-- A text that has something visible in it is not trimmed away. -/
theorem trim_ne_nil {letter : Char} (inside : letter ∈ text)
    (visible : isBlank letter = false) : trim text ≠ [] := by
  intro empty
  have blank : isBlank letter := strip_eq_nil_iff.mp empty letter inside
  rw [visible] at blank
  contradiction

end BootManual.Text
