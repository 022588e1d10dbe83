import BootManual.Draft
import Mathlib.Tactic.SplitIfs

/-!
# What a continuation line comes to

A continuation line has eight fates.  It gives a format, it is a list by itself, it
opens a block, it goes into one, it closes one, or it is description; and a list, on one
line or on several, may turn out to hold no values.  The draft behind each fate is said
here once, by the text that the line comes down to.
-/

namespace BootManual

/-- Whether a line is a list by itself. -/
def ValueList.isList (line : Text) : Bool :=
  opens line && closes line && hasSeparator line

namespace Draft

open ValueList

/-- What a line comes down to: a format directive is removed from it with the white space
behind, and then a doubled opening brace is written once. -/
def content (line : Text) : Text :=
  collapseDoubledBrace <|
    match Text.after? Header.formatDirective line with
    | none => line
    | some rest => Text.trimStart rest

/-- The fates of a line with a given content.  A list by itself and an opened block give
up the block that was open before. -/
inductive Absorbs (draft : Draft) (content : Text) : Outcome → Draft → Prop where
  | format (format : Format) (free : draft.block = none) :
      Absorbs draft content .format (start { draft.entry with format })
  | list (list : isList content) (found : read [content] ≠ []) :
      Absorbs draft content .values
        (start { draft.flush.entry with format := .choice (read [content]) })
  | emptyList (list : isList content) (empty : read [content] = []) :
      Absorbs draft content .description (start (describe draft.flush.entry [content]))
  | opening (opened : opens content) (unclosed : ¬closes content)
      (begins : hasSeparator content ∨ content = ['\x7b']) :
      Absorbs draft content .blockOpened ⟨draft.flush.entry, some [content]⟩
  | inner {lines : List Text} (block : draft.block = some lines) (unopened : ¬opens content)
      (unclosed : ¬closes content) (separated : hasSeparator content) :
      Absorbs draft content .blockContinued ⟨draft.entry, some (lines ++ [content])⟩
  | closing {lines : List Text} (block : draft.block = some lines) (closed : closes content)
      (unlisted : ¬isList content) (found : read (lines ++ [content]) ≠ []) :
      Absorbs draft content .values
        (start { draft.entry with format := .choice (read (lines ++ [content])) })
  | emptyClosing {lines : List Text} (block : draft.block = some lines)
      (closed : closes content) (unlisted : ¬isList content)
      (empty : read (lines ++ [content]) = []) :
      Absorbs draft content .description (start (describe draft.entry (lines ++ [content])))
  | prose (unlisted : ¬isList content) :
      Absorbs draft content .description ⟨describe draft.entry [content], draft.block⟩

variable {draft : Draft} {content : Text}

theorem readValues_of_eq_nil (entry : Entry) {lines : List Text} (empty : read lines = []) :
    readValues entry lines = (.description, start (describe entry lines)) := by
  rw [readValues, empty]

theorem readValues_of_ne_nil (entry : Entry) {lines : List Text} (found : read lines ≠ []) :
    readValues entry lines = (.values, start { entry with format := .choice (read lines) }) := by
  unfold readValues
  split
  · contradiction
  · rfl

theorem readBraces_eq (entry : Entry) (line : Text) :
    ∃ format, readBraces entry line = { entry with format } := by
  cases entry
  unfold readBraces
  split <;> exact ⟨_, rfl⟩

/-- A line that is no list and opens nothing. -/
theorem absorbs_absorbInner (unlisted : ¬isList content)
    (opensNone : ¬(opens content ∧ ¬closes content ∧
      (hasSeparator content ∨ content = ['\x7b']))) :
    Absorbs draft content (draft.absorbInner content).1 (draft.absorbInner content).2 := by
  unfold absorbInner
  split
  · next lines block =>
    split_ifs with closed separated
    · by_cases empty : read (lines ++ [content]) = []
      · rw [readValues_of_eq_nil draft.entry empty]
        exact .emptyClosing block closed unlisted empty
      · rw [readValues_of_ne_nil draft.entry empty]
        exact .closing block closed unlisted empty
    · exact .inner block (fun opened => opensNone ⟨opened, closed, .inl separated⟩) closed
        separated
    · exact .prose unlisted
  · next free =>
    split_ifs
    · obtain ⟨format, given⟩ := readBraces_eq draft.entry content
      rw [given]
      exact .format format free
    · rw [start, ← free]
      exact .prose unlisted

theorem absorbs_absorbContent (draft : Draft) (content : Text) :
    Absorbs draft content (draft.absorbContent content).1 (draft.absorbContent content).2 := by
  simp only [absorbContent]
  split_ifs with list opening
  · by_cases empty : read [content] = []
    · rw [readValues_of_eq_nil _ empty]
      exact .emptyList list empty
    · rw [readValues_of_ne_nil _ empty]
      exact .list list empty
  · simp only [Bool.and_eq_true, Bool.or_eq_true, Bool.not_eq_true', decide_eq_true_eq] at opening
    exact .opening opening.1.1 (by simp [opening.1.2]) opening.2
  · refine absorbs_absorbInner list fun ⟨opened, unclosed, begins⟩ => opening ?_
    simpa [opened, unclosed] using begins

/-- Every line meets one of the fates, by what it comes down to. -/
theorem absorbs_absorb (draft : Draft) (line : Text) :
    Absorbs draft (Draft.content line) (draft.absorb line).1 (draft.absorb line).2 := by
  unfold absorb Draft.content
  cases Text.after? Header.formatDirective line with
  | none => exact absorbs_absorbContent draft _
  | some rest =>
      dsimp only
      split_ifs with unbraced
      · rw [Bool.and_eq_true, Option.isNone_iff_eq_none] at unbraced
        exact .format _ unbraced.1
      · exact absorbs_absorbContent draft _

end Draft

end BootManual
