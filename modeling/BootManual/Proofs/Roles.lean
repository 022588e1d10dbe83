import BootManual.Line
import BootManual.Proofs.Trimming

/-!
# What the role of a line promises

The text of a header begins with a letter or a digit, and the text of a
continuation is trimmed.  In the other direction, a text behind the right number of
tabs makes a line of the role that one wants.
-/

namespace BootManual.Line

open Text

theorem startsName_iff {text : Text} :
    startsName text ↔ ∃ letter rest, text = letter :: rest ∧ letter.isAlphanum := by
  cases text <;> simp [startsName]

theorem startsName_iff_head {text : Text} :
    startsName text ↔ ∃ letter ∈ text.head?, letter.isAlphanum := by
  cases text <;> simp [startsName]

/-- Trimming the end of a text does not touch a letter or a digit at its start. -/
theorem startsName_trimEnd {text : Text} (starts : startsName text) :
    startsName text.trimEnd := by
  obtain ⟨letter, rest, rfl, alphanumeric⟩ := startsName_iff.mp starts
  rw [trimEnd, dropEndWhile_cons (isBlank_eq_false_of_isAlphanum alphanumeric)]
  exact alphanumeric

/-! ## Promises -/

/-- The text of a header begins a name, and that of a continuation is trimmed. -/
def IsSound : Line → Prop
  | blank => True
  | topHeader text => startsName text
  | nestedHeader text => startsName text
  | continuation _ text => IsStripped isBlank text
  | ignored => True

theorem isSound_classify (line : Text) : (classify line).IsSound := by
  unfold classify
  split
  · trivial
  split
  · next header => exact startsName_trimEnd (Bool.and_eq_true_iff.mp header).2
  split
  · next header => exact startsName_trimEnd (Bool.and_eq_true_iff.mp header).2
  split
  · exact isStripped_trim (body line)
  split
  · exact isStripped_trim (body line)
  · trivial

theorem startsName_of_topHeader {line text : Text} (role : classify line = topHeader text) :
    startsName text := by
  have sound := isSound_classify line
  rwa [role] at sound

theorem startsName_of_nestedHeader {line text : Text}
    (role : classify line = nestedHeader text) : startsName text := by
  have sound := isSound_classify line
  rwa [role] at sound

theorem isStripped_of_continuation {line text : Text} {depth : Depth}
    (role : classify line = continuation depth text) : IsStripped isBlank text := by
  have sound := isSound_classify line
  rwa [role] at sound

/-! ## Headers -/

/-- Whether a line opens a parameter. -/
def isTopHeader : Line → Bool
  | topHeader _ => true
  | _ => false

/-- Whether a line opens a sub-parameter. -/
def isNestedHeader : Line → Bool
  | nestedHeader _ => true
  | _ => false

/-- Whether a line opens anything. -/
def isHeader (line : Line) : Bool :=
  line.isTopHeader || line.isNestedHeader

/-- The text of a header. -/
def headerText : Line → Text
  | topHeader text => text
  | nestedHeader text => text
  | _ => []

theorem isTopHeader_iff {line : Line} : line.isTopHeader ↔ line = topHeader line.headerText := by
  cases line <;> simp [isTopHeader, headerText]

theorem isNestedHeader_iff {line : Line} :
    line.isNestedHeader ↔ line = nestedHeader line.headerText := by
  cases line <;> simp [isNestedHeader, headerText]

section

variable {line : Line}

/-- A header of a parameter is no header of a sub-parameter, and the other way round. -/
theorem isNestedHeader_eq_false_of_top (top : line.isTopHeader) : line.isNestedHeader = false := by
  cases line with
  | topHeader text => rfl
  | _ => contradiction

theorem isTopHeader_eq_false_of_nested (nested : line.isNestedHeader) :
    line.isTopHeader = false := by
  cases line with
  | nestedHeader text => rfl
  | _ => contradiction

theorem isTopHeader_eq_false_of_plain (plain : line.isHeader = false) :
    line.isTopHeader = false :=
  (Bool.or_eq_false_iff.mp plain).1

theorem isNestedHeader_eq_false_of_plain (plain : line.isHeader = false) :
    line.isNestedHeader = false :=
  (Bool.or_eq_false_iff.mp plain).2

end

/-- A line opens a parameter, or a sub-parameter, or nothing. -/
theorem role_cases (line : Line) :
    line = topHeader line.headerText ∨ line = nestedHeader line.headerText ∨
      line.isHeader = false := by
  cases line <;> simp [headerText, isHeader, isTopHeader, isNestedHeader]

/-! ## Making lines -/

/-- A text behind some tabs. -/
def indented (tabs : Nat) (text : Text) : Text :=
  List.replicate tabs '\t' ++ text

theorem indent_indented (tabs : Nat) {text : Text} (head : text.head? ≠ some '\t') :
    indent (indented tabs text) = tabs := by
  have noTabs : text.takeWhile (· == '\t') = [] := by
    cases text with
    | nil => rfl
    | cons letter rest =>
        exact List.takeWhile_cons_of_neg (by simpa using head)
  rw [indent, indented, List.takeWhile_append_of_pos (by simp), noTabs]
  simp

theorem body_indented (tabs : Nat) {text : Text} (head : text.head? ≠ some '\t') :
    body (indented tabs text) = text := by
  rw [body, indented, List.dropWhile_append_of_pos (by simp)]
  apply dropWhile_eq_self
  intro letter first
  simpa using fun same : letter = '\t' => head (same ▸ first)

theorem head?_ne_tab_of_startsName {text : Text} (starts : startsName text) :
    text.head? ≠ some '\t' := by
  obtain ⟨letter, rest, rfl, alphanumeric⟩ := startsName_iff.mp starts
  rintro first
  obtain rfl := Option.some.inj first
  contradiction

theorem classify_indented_one {text : Text} (starts : startsName text) :
    classify (indented 1 text) = topHeader text.trimEnd := by
  have head := head?_ne_tab_of_startsName starts
  rw [classify, indent_indented 1 head, body_indented 1 head, starts]
  simp [indented]

theorem classify_indented_two {text : Text} (starts : startsName text) :
    classify (indented 2 text) = nestedHeader text.trimEnd := by
  have head := head?_ne_tab_of_startsName starts
  rw [classify, indent_indented 2 head, body_indented 2 head, starts]
  simp [indented]

theorem head?_ne_tab_of_isStripped {text : Text} (trimmed : IsStripped isBlank text) :
    text.head? ≠ some '\t' := by
  intro first
  have visible := trimmed.head '\t' first
  contradiction

theorem classify_indented_three {text : Text} (trimmed : IsStripped isBlank text) :
    classify (indented 3 text) = continuation .three text := by
  have head := head?_ne_tab_of_isStripped trimmed
  rw [classify, indent_indented 3 head, body_indented 3 head, trim_eq_self trimmed]
  simp [indented]

theorem classify_indented_four {text : Text} (trimmed : IsStripped isBlank text) :
    classify (indented 4 text) = continuation .four text := by
  have head := head?_ne_tab_of_isStripped trimmed
  rw [classify, indent_indented 4 head, body_indented 4 head, trim_eq_self trimmed]
  simp [indented]

end BootManual.Line
