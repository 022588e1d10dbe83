import BootManual.Listing
import BootManual.Proofs.TextLines

/-!
# Listings inside listings

Indentation moves the lines of a text to the right, all but those that are nothing but
a newline.  Lines that were moved can be moved back, moving twice moves by the sum, and
texts that a newline ends are moved one by one.  So the listing of an entry at a depth
is its listing at the top, moved to the right, whatever its fields and its
sub-parameters are.
-/

namespace BootManual

/-! ## Moving lines -/

namespace Lines

open Text

/-- A line behind a margin, unless it is nothing but a newline. -/
def shiftLine (columns : Nat) (line : Text) : Text :=
  if line = ['\n'] then line else margin columns ++ line

/-- The text with a margin in front of every line that is not a bare newline. -/
def shift (columns : Nat) (text : Text) : Text :=
  (withEnds text).flatMap (shiftLine columns)

/-- Empty lines stay as they are; lines of spaces do not. -/
example : shift 2 "a\n\n \nb".toList = "  a\n\n   \n  b".toList := by decide

/-- A line without its first columns, unless it is nothing but a newline. -/
def unshiftLine (columns : Nat) (line : Text) : Text :=
  if line = ['\n'] then line else line.drop columns

/-- The text without the first columns of every line that is not a bare newline. -/
def unshift (columns : Nat) (text : Text) : Text :=
  (withEnds text).flatMap (unshiftLine columns)

variable {line : Text}

theorem ne_newline_of_oneLine (oneLine : '\n' ∉ line) : line ≠ ['\n'] := by
  rintro rfl
  exact oneLine List.mem_cons_self

theorem newline_not_mem_indentLine (oneLine : '\n' ∉ line) (columns : Nat) :
    '\n' ∉ indentLine columns line := by
  rw [indentLine]
  split
  · exact List.not_mem_nil
  · simp [margin, oneLine]

theorem shift_of_oneLine (oneLine : '\n' ∉ line) (columns : Nat) :
    shift columns line = indentLine columns line := by
  rw [shift, withEnds_of_oneLine oneLine, indentLine]
  split
  · rfl
  · rw [List.flatMap_singleton, shiftLine, if_neg (ne_newline_of_oneLine oneLine)]

theorem shift_append_newline (oneLine : '\n' ∉ line) (columns : Nat) (rest : Text) :
    shift columns (line ++ '\n' :: rest) =
      indentLine columns line ++ '\n' :: shift columns rest := by
  rw [shift, withEnds_append_newline oneLine, List.flatMap_cons, ← shift, shiftLine, indentLine]
  cases line <;> simp

/-- Indentation moves the lines of a text. -/
theorem indent_eq_shift (columns : Nat) (text : Text) :
    indent columns text = shift columns text := by
  induction text using by_line with
  | last line oneLine =>
      have alone : pieces '\n' line = [line] := List.splitOn_eq_singleton oneLine
      rw [indent, alone, List.map_singleton, join_singleton, shift_of_oneLine oneLine]
  | line line rest oneLine inductionHypothesis =>
      have cut : pieces '\n' (line ++ '\n' :: rest) = line :: pieces '\n' rest :=
        List.splitOn_append_cons_self_of_not_mem oneLine rest
      have more : (pieces '\n' rest).map (indentLine columns) ≠ [] :=
        mt List.map_eq_nil_iff.mp (List.splitOn_ne_nil '\n' rest)
      rw [indent, cut, List.map_cons, join_cons _ _ more, ← indent, inductionHypothesis,
        shift_append_newline oneLine, List.append_assoc, List.singleton_append]

/-! ### Moving back -/

theorem unshift_of_oneLine (oneLine : '\n' ∉ line) (columns : Nat) :
    unshift columns line = line.drop columns := by
  rw [unshift, withEnds_of_oneLine oneLine]
  split
  · next empty => rw [List.isEmpty_iff.mp empty, List.drop_nil, List.flatMap_nil]
  · rw [List.flatMap_singleton, unshiftLine, if_neg (ne_newline_of_oneLine oneLine)]

theorem unshift_append_newline (oneLine : '\n' ∉ line) (columns : Nat) (rest : Text) :
    unshift columns (line ++ '\n' :: rest) =
      unshiftLine columns (line ++ ['\n']) ++ unshift columns rest := by
  rw [unshift, withEnds_append_newline oneLine, List.flatMap_cons, ← unshift]

theorem drop_indentLine_append (columns : Nat) {line : Text} (nonempty : line ≠ [])
    (rest : Text) : (indentLine columns line ++ rest).drop columns = line ++ rest := by
  have moved : indentLine columns line = margin columns ++ line := by
    rw [indentLine, if_neg (by simpa using nonempty)]
  rw [moved, List.append_assoc]
  exact List.drop_left' (List.length_replicate ..)

/-- A line that was moved is moved back, together with the newline behind it. -/
theorem unshiftLine_indentLine (columns : Nat) (line : Text) :
    unshiftLine columns (indentLine columns line ++ ['\n']) = line ++ ['\n'] := by
  cases line with
  | nil => rfl
  | cons letter rest =>
      have filled : indentLine columns (letter :: rest) ≠ [] := by simp [indentLine]
      rw [unshiftLine, if_neg (mt List.append_left_eq_self.mp filled),
        drop_indentLine_append columns (List.cons_ne_nil letter rest)]

/-- Moving the lines of a text to the right and back gives the text again. -/
theorem unshift_shift (columns : Nat) (text : Text) :
    unshift columns (shift columns text) = text := by
  induction text using by_line with
  | last line oneLine =>
      rw [shift_of_oneLine oneLine, unshift_of_oneLine (newline_not_mem_indentLine oneLine columns)]
      cases line with
      | nil => exact List.drop_nil
      | cons letter rest =>
          simpa using drop_indentLine_append columns (List.cons_ne_nil letter rest) []
  | line line rest oneLine inductionHypothesis =>
      rw [shift_append_newline oneLine,
        unshift_append_newline (newline_not_mem_indentLine oneLine columns),
        unshiftLine_indentLine, inductionHypothesis, List.append_assoc, List.singleton_append]

/-! ### Moving twice, and moving parts -/

/-- Moving twice moves by the sum. -/
theorem shift_shift (outer inner : Nat) (text : Text) :
    shift outer (shift inner text) = shift (outer + inner) text := by
  induction text using by_line with
  | last line oneLine =>
      rw [shift_of_oneLine oneLine, shift_of_oneLine oneLine,
        shift_of_oneLine (newline_not_mem_indentLine oneLine inner), indentLine_indentLine]
  | line line rest oneLine inductionHypothesis =>
      rw [shift_append_newline oneLine, shift_append_newline oneLine,
        shift_append_newline (newline_not_mem_indentLine oneLine inner), indentLine_indentLine,
        inductionHypothesis]

theorem shift_append_cons (columns : Nat) (front rest : Text) :
    shift columns (front ++ '\n' :: rest) = shift columns front ++ '\n' :: shift columns rest := by
  induction front using by_line with
  | last line oneLine => rw [shift_append_newline oneLine, shift_of_oneLine oneLine]
  | line line others oneLine inductionHypothesis =>
      rw [List.append_assoc, List.cons_append, shift_append_newline oneLine, inductionHypothesis,
        shift_append_newline oneLine, List.append_assoc, List.cons_append]

/-- Whether a newline ends the text, if there is anything to end. -/
def IsClosed (text : Text) : Prop :=
  text = [] ∨ ∃ front, text = front ++ ['\n']

variable {first second : Text}

theorem isClosed_concat (front : Text) : IsClosed (front ++ ['\n']) :=
  .inr ⟨front, rfl⟩

theorem IsClosed.append (closed : IsClosed first) (secondClosed : IsClosed second) :
    IsClosed (first ++ second) := by
  rcases secondClosed with rfl | ⟨front, rfl⟩
  · rwa [List.append_nil]
  · rw [← List.append_assoc]
    exact isClosed_concat _

theorem IsClosed.shift (closed : IsClosed first) (columns : Nat) :
    IsClosed (shift columns first) := by
  rcases closed with rfl | ⟨front, rfl⟩
  · exact .inl rfl
  · rw [shift_append_cons]
    exact isClosed_concat _

/-- What stands behind a closed text is moved by itself. -/
theorem shift_append (closed : IsClosed first) (columns : Nat) (rest : Text) :
    Lines.shift columns (first ++ rest) =
      Lines.shift columns first ++ Lines.shift columns rest := by
  rcases closed with rfl | ⟨front, rfl⟩
  · rfl
  · rw [List.append_assoc, List.singleton_append, shift_append_cons, shift_append_cons,
      List.append_assoc]
    rfl

end Lines

/-! ## Listings -/

namespace Listing

open Lines

theorem isClosed_block (entry : Entry) : IsClosed (block entry) :=
  isClosed_concat _

theorem ofEntry_eq_shift (depth : Nat) (entry : Entry) :
    ofEntry depth entry =
      shift (step * depth) (block entry) ++ ofEntries (depth + 1) entry.children.slots := by
  rw [ofEntry_eq, indent_eq_shift]

mutual

theorem isClosed_ofEntry (depth : Nat) : ∀ entry : Entry, IsClosed (ofEntry depth entry)
  | ⟨name, flags, format, description, ⟨slots, index⟩⟩ => by
    rw [ofEntry_eq_shift]
    exact ((isClosed_block _).shift _).append (isClosed_ofEntries (depth + 1) slots)

theorem isClosed_ofEntries (depth : Nat) :
    ∀ entries : List Entry, IsClosed (ofEntries depth entries)
  | [] => .inl rfl
  | entry :: rest => by
    rw [ofEntries]
    exact (isClosed_ofEntry depth entry).append (isClosed_ofEntries depth rest)

end

mutual

/-- At a greater depth the listing of an entry is moved to the right. -/
theorem ofEntry_add (outer depth : Nat) :
    ∀ entry : Entry, ofEntry (outer + depth) entry = shift (step * outer) (ofEntry depth entry)
  | ⟨name, flags, format, description, ⟨slots, index⟩⟩ => by
    rw [ofEntry_eq_shift, ofEntry_eq_shift, shift_append ((isClosed_block _).shift _), shift_shift,
      Nat.mul_add]
    exact congrArg _ (ofEntries_add outer (depth + 1) slots)

theorem ofEntries_add (outer depth : Nat) :
    ∀ entries : List Entry,
      ofEntries (outer + depth) entries = shift (step * outer) (ofEntries depth entries)
  | [] => rfl
  | entry :: rest => by
    rw [ofEntries, ofEntries, shift_append (isClosed_ofEntry depth entry),
      ofEntry_add outer depth entry, ofEntries_add outer depth rest]

end

theorem ofEntries_eq_flatMap (depth : Nat) (entries : List Entry) :
    ofEntries depth entries = entries.flatMap (ofEntry depth) := by
  induction entries with
  | nil => rfl
  | cons entry rest inductionHypothesis =>
      rw [ofEntries, inductionHypothesis, List.flatMap_cons]

/-- At any depth the listing of an entry is that at the top with four spaces for each
step in front of every line, bare newlines apart.  So the listing of a catalogue goes
through its entries: the block of each entry is followed by the listing of its
sub-parameters, moved to the right by four columns, and moving that part back gives the
listing of the catalogue of the sub-parameters. -/
theorem nested_eq_shift :
    (∀ entry depth, ofEntry depth entry = shift (4 * depth) (ofEntry 0 entry)) ∧
    (∀ catalogue : Catalogue Entry,
      render catalogue =
        catalogue.slots.flatMap fun entry => block entry ++ ofEntries 1 entry.children.slots) ∧
    ∀ entry : Entry,
      ofEntries 1 entry.children.slots = shift 4 (render entry.children) ∧
      unshift 4 (ofEntries 1 entry.children.slots) = render entry.children := by
  have nested (entry : Entry) :
      ofEntries 1 entry.children.slots = shift 4 (render entry.children) :=
    ofEntries_add 1 0 entry.children.slots
  refine ⟨fun entry depth => ofEntry_add depth 0 entry, ?_, ?_⟩
  · intro catalogue
    have top (entry : Entry) :
        ofEntry 0 entry = block entry ++ ofEntries 1 entry.children.slots := by
      rw [ofEntry_eq, Nat.mul_zero, Text.indent_zero]
    rw [render, ofEntries_eq_flatMap, funext top]
  · intro entry
    refine ⟨nested entry, ?_⟩
    rw [nested, unshift_shift]

end Listing

end BootManual
