import BootManual.Proofs.Continuation
import BootManual.Proofs.Dialect

/-!
# Reading written lines

Behind a header, the format is read back from its line, and the description from the
lines that follow.  None of these lines opens a block, so a draft never has one while
it hears them.
-/

namespace BootManual

open Text

/-! ## Values -/

namespace ValueList

/-- What stands between the braces of a written list. -/
def writeInner (values : List Text) : Text :=
  ' ' :: values.flatMap (· ++ " | ".toList)

theorem writeInner_cons (value : Text) (rest : List Text) :
    writeInner (value :: rest) = (' ' :: value ++ [' ']) ++ '|' :: writeInner rest := by
  simp [writeInner]

/-- The bars cut every value out, and the space behind the last one. -/
theorem pieces_writeInner {values : List Text} (single : ∀ value ∈ values, '|' ∉ value) :
    pieces '|' (writeInner values) =
      values.map (fun value => ' ' :: value ++ [' ']) ++ [[' ']] := by
  induction values with
  | nil => rfl
  | cons value rest inductionHypothesis =>
      rw [List.forall_mem_cons] at single
      have clear : '|' ∉ ' ' :: value ++ [' '] := by simpa using single.1
      rw [writeInner_cons, pieces, List.splitOn_append_cons_self_of_not_mem clear, ← pieces,
        inductionHypothesis single.2]
      rfl

theorem getLast?_writeInner (values : List Text) : (writeInner values).getLast? = some ' ' := by
  induction values with
  | nil => rfl
  | cons value rest inductionHypothesis =>
      have next : '|' :: writeInner rest ≠ [] := List.cons_ne_nil _ _
      rw [writeInner_cons, List.getLast?_append_of_ne_nil _ next, writeInner,
        List.getLast?_cons_cons, ← writeInner, inductionHypothesis]

theorem isStripped_writeInner (values : List Text) : IsStripped isBrace (writeInner values) where
  head letter first := by
    rw [← Option.some.inj first]
    decide
  last letter last := by
    rw [getLast?_writeInner] at last
    rw [← Option.some.inj last]
    decide

theorem write_eq (values : List Text) :
    write values = ['\x7b'] ++ writeInner values ++ ['\x7d'] :=
  rfl

theorem inside_write (values : List Text) : inside (write values) = writeInner values := by
  rw [write_eq]
  exact strip_append (List.forall_mem_singleton.mpr rfl) (isStripped_writeInner values)
    (List.forall_mem_singleton.mpr rfl)

theorem isStripped_write (values : List Text) : IsStripped isBlank (write values) := by
  apply isStripped_append (List.cons_ne_nil _ _) (List.cons_ne_nil _ _)
  · intro letter first
    rw [← Option.some.inj first]
    rfl
  · intro letter last
    rw [← Option.some.inj last]
    rfl

theorem newline_not_mem_writeInner {values : List Text} (oneLine : ∀ value ∈ values, '\n' ∉ value) :
    '\n' ∉ writeInner values := by
  induction values with
  | nil => decide
  | cons value rest inductionHypothesis =>
      rw [List.forall_mem_cons] at oneLine
      simpa [writeInner_cons, oneLine.1] using inductionHypothesis oneLine.2

theorem strip_padded {value : Text} (stripped : IsStripped isMargin value) :
    strip isMargin (' ' :: value ++ [' ']) = value := by
  change strip isMargin ([' '] ++ value ++ [' ']) = value
  exact strip_append (List.forall_mem_singleton.mpr rfl) stripped
    (List.forall_mem_singleton.mpr rfl)

variable {values : List Text} (writable : AreWritableValues values)

include writable

theorem mem_bar_write : '|' ∈ write values := by
  cases values with
  | nil => exact absurd rfl writable.nonempty
  | cons value rest =>
      rw [write_eq, writeInner_cons]
      simp

theorem separator_write : separator [write values] = '|' := by
  have bar := mem_bar_write writable
  simp [separator, bar]

/-- A written list of values is read back. -/
theorem read_write : read [write values] = values := by
  have padded : (values.map fun value => ' ' :: value ++ [' ']).map (strip isMargin) = values := by
    rw [List.map_map]
    apply map_eq_self
    intro value listed
    exact strip_padded (writable.each value listed).stripped
  have cut := pieces_writeInner fun value listed => (writable.each value listed).single
  have nonempty : values.filter (fun value => !value.isEmpty) = values := by
    rw [List.filter_eq_self]
    intro value listed
    simpa using (writable.each value listed).nonempty
  simp only [read, separator_write writable, List.flatMap_cons, List.flatMap_nil, List.append_nil,
    trim_eq_self (isStripped_write values), inside_write, cut, List.map_append, padded]
  rw [List.filter_append, nonempty]
  exact List.append_nil values

/-- The opening brace of a written list is written once. -/
theorem collapseDoubledBrace_write : collapseDoubledBrace (write values) = write values := by
  unfold collapseDoubledBrace
  split
  · next rest doubled =>
    have begins := after?_eq_some_iff.mp doubled
    cases values with
    | nil => exact absurd rfl writable.nonempty
    | cons value others =>
        have nonempty := (writable.each value List.mem_cons_self).nonempty
        have first := writable.first value rfl
        cases value with
        | nil => contradiction
        | cons letter behind =>
            have third : some letter = some '\x7b' := congrArg (fun text => text[2]?) begins
            exact absurd third first
  · rfl

theorem newline_not_mem_write : '\n' ∉ write values := by
  rw [write_eq, List.mem_append, List.mem_append]
  rintro ((opening | inner) | closing)
  · contradiction
  · exact newline_not_mem_writeInner writable.oneLine inner
  · contradiction

end ValueList

/-! ## Formats -/

namespace Draft

theorem absorb_directive (entry : Entry) {text : Text} (trimmed : IsStripped isBlank text)
    (unbraced : IsClear isBrace text) :
    (start entry).absorb (Header.formatDirective ++ text) =
      (.format, start { entry with format := .literal text }) := by
  have behind : after? Header.formatDirective (Header.formatDirective ++ text) = some text :=
    after?_eq_some_iff.mpr rfl
  simp [absorb, behind, unbraced.any_eq_false, trim_eq_self trimmed, start]

theorem absorb_values (entry : Entry) {values : List Text} (writable : AreWritableValues values) :
    (start entry).absorb (ValueList.write values) =
      (.values, start { entry with format := .choice values }) := by
  have undirected : after? Header.formatDirective (ValueList.write values) = none := rfl
  have opens : ValueList.opens (ValueList.write values) = true := rfl
  have closes : ValueList.closes (ValueList.write values) = true := by
    have last : (ValueList.write values).getLast? = some '\x7d' := List.getLast?_concat
    simp [ValueList.closes, endsWith, last]
  have separated : ValueList.hasSeparator (ValueList.write values) = true :=
    List.any_eq_true.mpr ⟨'|', ValueList.mem_bar_write writable, by decide⟩
  have given : readValues entry [ValueList.write values] =
      (.values, start { entry with format := .choice values }) := by
    rw [readValues, ValueList.read_write writable]
    cases values with
    | nil => exact absurd rfl writable.nonempty
    | cons value rest => rfl
  simp only [absorb, undirected, ValueList.collapseDoubledBrace_write writable, absorbContent,
    opens, closes, separated, flush_start, Bool.and_self, if_true]
  exact given

theorem absorb_plain (entry : Entry) {line : Text} (plain : IsPlainLine line) :
    (start entry).absorb line = (.description, start (describe entry [line])) := by
  have undirected : after? Header.formatDirective line = none :=
    after?_eq_none_iff.mpr plain.undirected
  have single : ValueList.collapseDoubledBrace line = line := by
    unfold ValueList.collapseDoubledBrace
    split
    · next rest doubled =>
      obtain rfl := after?_eq_some_iff.mp doubled
      exact absurd rfl plain.unbraced
    · rfl
  have shut : ValueList.opens line = false := by
    cases line with
    | nil => rfl
    | cons letter rest =>
        have different : '\x7b' ≠ letter := by
          rintro rfl
          exact plain.unbraced rfl
        simp [ValueList.opens, startsWith, List.isPrefixOf, different]
  simp [absorb, undirected, single, absorbContent, shut, absorbInner, start]

/-! ## Descriptions -/

theorem hear_indented (draft : Draft) {text : Text} (trimmed : IsStripped isBlank text) :
    draft.hear (Line.indented 3 text) = (draft.absorb text).2 := by
  simp only [hear, Line.classify_indented_three trimmed]

theorem foldl_hear_plain {lines : List Text} (entry : Entry)
    (trimmed : ∀ line ∈ lines, IsStripped isBlank line) (plain : ∀ line ∈ lines, IsPlainLine line) :
    (lines.map (Line.indented 3)).foldl hear (start entry) = start (describe entry lines) := by
  induction lines generalizing entry with
  | nil => simp
  | cons line rest inductionHypothesis =>
      rw [List.forall_mem_cons] at trimmed plain
      rw [List.map_cons, List.foldl_cons, hear_indented _ trimmed.1, absorb_plain _ plain.1,
        inductionHypothesis _ trimmed.2 plain.2]
      simp [describe, appendLines]

end Draft

end BootManual
