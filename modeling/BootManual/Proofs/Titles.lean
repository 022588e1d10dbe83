import BootManual.Proofs.Particulars
import BootManual.Proofs.Readings
import BootManual.Proofs.TextLines

/-!
# Titles

The first line of a text that is not blank is found line by line.  One can as well skip
all white space in front, newlines included, and go on to the end of the line.  A title
that is found so has something visible in it, and where the description of an entry has
nothing visible, the name of the entry has.
-/

namespace BootManual

open Text

/-! ## The first line -/

namespace Lines

/-- The text in front of its first newline. -/
def first (text : Text) : Text :=
  text.takeWhile (fun letter => letter != '\n')

variable {line : Text}

theorem newline_not_mem_first (text : Text) : '\n' ∉ first text := by
  intro inside
  have other := List.mem_takeWhile_imp inside
  contradiction

theorem forall_bne_newline (oneLine : '\n' ∉ line) : ∀ letter ∈ line, letter != '\n' := by
  intro letter inside
  simpa using fun same : letter = '\n' => oneLine (same ▸ inside)

theorem first_of_oneLine (oneLine : '\n' ∉ line) : first line = line :=
  List.takeWhile_eq_self_iff.mpr (forall_bne_newline oneLine)

theorem first_append_newline (oneLine : '\n' ∉ line) (rest : Text) :
    first (line ++ '\n' :: rest) = line := by
  rw [first, List.takeWhile_append_of_pos (forall_bne_newline oneLine),
    List.takeWhile_cons_of_neg (by simp), List.append_nil]

theorem newline_not_mem_trimStart (oneLine : '\n' ∉ line) : '\n' ∉ trimStart line :=
  fun inside => oneLine (List.dropWhile_subset isBlank inside)

/-- A carriage return at the end of a line is white space. -/
theorem trim_dropReturn (line : Text) : trim (dropReturn '\r' line) = trim line := by
  rw [dropReturn]
  split
  · next returned =>
    have last : line.getLast? = some '\r' := by simpa using returned
    have cut : line.dropLast ++ ['\r'] = line := List.dropLast_append_getLast? _ last
    have back : ∀ letter ∈ ['\r'], isBlank letter := List.forall_mem_singleton.mpr rfl
    have kept := strip_append_margin line.dropLast back
    rw [cut] at kept
    exact kept.symm
  · rfl

end Lines

/-! ## The first line that is not blank -/

namespace Text

theorem trim_eq_nil_iff {text : Text} : trim text = [] ↔ ∀ letter ∈ text, isBlank letter :=
  strip_eq_nil_iff

theorem trim_trimStart (text : Text) : trim (trimStart text) = trim text := by
  rw [trim, strip, trimStart, List.dropWhile_idempotent, ← strip, ← trim]

end Text

namespace Lines

section

variable {line : Text} (rest : Text)

theorem trimStart_append_of_blank (blank : trim line = []) :
    trimStart (line ++ '\n' :: rest) = trimStart rest := by
  rw [trimStart, List.dropWhile_append_of_pos (trim_eq_nil_iff.mp blank)]
  exact List.dropWhile_cons_of_pos rfl

theorem trim_append_of_blank (blank : trim line = []) :
    trim (line ++ '\n' :: rest) = trim rest := by
  rw [← trim_trimStart, trimStart_append_of_blank rest blank, trim_trimStart]

theorem trim_append_ne_nil (visible : trim line ≠ []) : trim (line ++ '\n' :: rest) ≠ [] := by
  intro empty
  apply visible
  rw [trim_eq_nil_iff] at empty ⊢
  exact fun letter inside => empty letter (List.mem_append_left _ inside)

theorem trimStart_append_of_visible (visible : trim line ≠ []) :
    trimStart (line ++ '\n' :: rest) = trimStart line ++ '\n' :: rest := by
  have left : ¬(line.dropWhile isBlank).isEmpty := by
    intro empty
    apply visible
    rw [trim, strip, List.isEmpty_iff.mp empty, dropEndWhile_nil]
  rw [trimStart, List.dropWhile_append, if_neg left, trimStart]

end

/-- The first line that is not blank, trimmed, is found by skipping all white space and
going on to the end of the line. -/
theorem find?_trimmed (text : Text) :
    ((ofText text).map trim).find? (fun line => !line.isEmpty) =
      if trim text = [] then none else some (trim (first (trimStart text))) := by
  induction text using by_line with
  | last line oneLine =>
      rw [ofText_of_oneLine oneLine, first_of_oneLine (newline_not_mem_trimStart oneLine), trim_trimStart]
      by_cases empty : line = []
      · rw [empty]
        rfl
      · by_cases blank : trim line = [] <;> simp [empty, blank]
  | line line rest oneLine inductionHypothesis =>
      rw [ofText_append_newline oneLine, List.map_cons, trim_dropReturn]
      by_cases blank : trim line = []
      -- A blank line and its newline are white space in front of what follows.
      · rw [List.find?_cons_of_neg (by simp [blank]), inductionHypothesis,
          trim_append_of_blank rest blank, trimStart_append_of_blank rest blank]
      · rw [List.find?_cons_of_pos (by simp [blank]), if_neg (trim_append_ne_nil rest blank),
          trimStart_append_of_visible rest blank,
          first_append_newline (newline_not_mem_trimStart oneLine), trim_trimStart]

end Lines

/-! ## Titles of entries -/

namespace ParameterDocument

theorem summary_eq (entry : Entry) :
    entry.summary = if trim entry.description = [] then none
      else some (trim (Lines.first (trimStart entry.description))) :=
  Lines.find?_trimmed entry.description

/-- Where nothing is visible in the description, the name is the title. -/
theorem title_of_blank {entry : Entry} (blank : ∀ letter ∈ entry.description, isBlank letter) :
    title entry = entry.name := by
  rw [title, summary_eq, if_pos (trim_eq_nil_iff.mpr blank), Option.getD_none]

theorem title_of_visible {entry : Entry} {letter : Char} (inside : letter ∈ entry.description)
    (visible : isBlank letter = false) :
    title entry = trim (Lines.first (trimStart entry.description)) := by
  rw [title, summary_eq, if_neg (trim_ne_nil inside visible), Option.getD_some]

/-- A summary is a line with something visible in it, and trimmed. -/
theorem summary_spec {entry : Entry} {summary : Text} (found : entry.summary = some summary) :
    summary ≠ [] ∧ '\n' ∉ summary ∧ IsStripped isBlank summary := by
  have nonempty : summary ≠ [] := by
    have accepted := List.find?_some found
    simpa using accepted
  rw [summary_eq] at found
  split at found
  · contradiction
  · obtain rfl := Option.some.inj found
    exact ⟨nonempty, fun inside => Lines.newline_not_mem_first _ (mem_of_mem_strip inside),
      isStripped_trim _⟩

/-- Every entry that was read has a title with something visible in it, on one line and
without white space at its ends.  It is the first line of the description, once the
white space in front is removed, or the name if the description holds nothing else. -/
theorem title_of_read {context : Context} {text : Text} {entries : Catalogue Entry}
    (read : (Manual.ofText context text).result = .ok entries) {entry : Entry}
    (listed : entry ∈ Entry.walkAll entries.slots) :
    (∀ processor,
      string? (ofEntry processor entry).fields "title".toList = some (title entry)) ∧
    (title entry ≠ [] ∧ '\n' ∉ title entry ∧ IsStripped isBlank (title entry)) ∧
    ((∃ letter ∈ entry.description, isBlank letter = false) →
      title entry = trim (Lines.first (trimStart entry.description))) ∧
    ((∀ letter ∈ entry.description, isBlank letter) → title entry = entry.name) := by
  refine ⟨fun processor => rfl, ?_, ?_, title_of_blank⟩
  · cases found : entry.summary with
    | some summary =>
        rw [title, found, Option.getD_some]
        exact summary_spec found
    | none =>
        -- A name is clear of white space, so of newlines too.
        have name := (Entry.isSound_of_mem_walkAll (Manual.holds_of_ofText read) listed).name
        rw [title, found, Option.getD_none]
        refine ⟨name.ne_nil, fun inside => ?_, name.solid.isStripped⟩
        exact absurd (name.solid '\n' inside) (by decide)
  · rintro ⟨letter, inside, visible⟩
    exact title_of_visible inside visible

/-- A parameter without a description has its name for a title.  The title of its
sub-parameter stands two lines below the header, in white space of several kinds, and
ends at a newline. -/
theorem title_of_read_below :
    let text := "\ta\n\t\tb\n\n\t\t\t\t\u3000one line\u00a0\n\t\t\tmore\n\n".toList
    let child : Entry :=
      ⟨"b".toList, none, .unset, "one line\nmore\n".toList, Catalogue.empty⟩
    let parent : Entry := ⟨"a".toList, none, .complex, [], Catalogue.ofList [child]⟩
    let catalogue := Catalogue.ofList [parent]
    (Manual.ofText .plain text).result = .ok catalogue ∧
      parent ∈ Entry.walkAll catalogue.slots ∧ title parent = "a".toList ∧
      child ∈ Entry.walkAll catalogue.slots ∧ title child = "one line".toList := by
  intro text child parent catalogue
  have read : (Manual.ofText .plain text).result = .ok catalogue := rfl
  have parentListed : parent ∈ Entry.walkAll catalogue.slots := .head _
  have childListed : child ∈ Entry.walkAll catalogue.slots := .tail _ (.head _)
  refine ⟨read, parentListed, ?_, childListed, ?_⟩
  · exact (title_of_read read parentListed).2.2.2 (List.forall_mem_nil _)
  · exact (title_of_read read childListed).2.2.1 ⟨'o', by decide, by decide⟩

end ParameterDocument

end BootManual
