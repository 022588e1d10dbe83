import BootManual.Text.Lines
import BootManual.Proofs.Cutting

/-!
# Texts line by line

A text is its last line, or a line and a newline in front of another text.  What is
said of texts line by line is proved by that induction.  Lines are seen in two ways:
as a manual is read, without what ends them, and as they stand in the text, each
together with the newline that closes it.
-/

namespace BootManual.Lines

open Text

/-- A text is its last line, or a line in front of another text. -/
theorem by_line {motive : Text → Prop} (last : ∀ line, '\n' ∉ line → motive line)
    (line : ∀ line rest, '\n' ∉ line → motive rest → motive (line ++ '\n' :: rest))
    (text : Text) : motive text := by
  have clear : ∀ part ∈ pieces '\n' text, '\n' ∉ part := fun part listed inside =>
    (mem_of_mem_pieces listed inside).2 rfl
  have nonempty : pieces '\n' text ≠ [] := List.splitOn_ne_nil '\n' text
  rw [← join_pieces '\n' text]
  generalize pieces '\n' text = parts at clear nonempty
  induction parts with
  | nil => contradiction
  | cons first others inductionHypothesis =>
      rw [List.forall_mem_cons] at clear
      by_cases alone : others = []
      · rw [alone, join_singleton]
        exact last first clear.1
      · rw [join_cons _ _ alone, List.append_assoc]
        exact line first _ clear.1 (inductionHypothesis clear.2 alone)

theorem dropReturn_of_not_mem {line : Text} (plain : '\r' ∉ line) : dropReturn '\r' line = line := by
  have last : line.getLast? ≠ some '\r' := fun last => plain (List.mem_of_getLast? last)
  simp [dropReturn, last]

theorem ofText_of_oneLine {line : Text} (oneLine : '\n' ∉ line) :
    ofText line = if line.isEmpty then [] else [line] := by
  have split : line.splitOn '\n' = [line] := List.splitOn_eq_singleton oneLine
  simp [ofText, cut, closed, unclosed, split]

theorem ofText_append_newline {line : Text} (oneLine : '\n' ∉ line) (rest : Text) :
    ofText (line ++ '\n' :: rest) = dropReturn '\r' line :: ofText rest := by
  have split : (line ++ '\n' :: rest).splitOn '\n' = line :: rest.splitOn '\n' :=
    List.splitOn_append_cons_self_of_not_mem oneLine rest
  obtain ⟨first, others, more⟩ := List.exists_cons_of_ne_nil (List.splitOn_ne_nil '\n' rest)
  simp [ofText, cut, closed, unclosed, split, more]

/-! ## Lines with their ends -/

/-- The lines of a text as they stand in it: each ends with the newline that closes it,
and only the last one may have none. -/
def withEnds : Text → List Text
  | [] => []
  | letter :: rest =>
    if letter = '\n' then ['\n'] :: withEnds rest
    else
      match withEnds rest with
      | [] => [[letter]]
      | line :: others => (letter :: line) :: others

theorem withEnds_of_oneLine {line : Text} (oneLine : '\n' ∉ line) :
    withEnds line = if line.isEmpty then [] else [line] := by
  induction line with
  | nil => rfl
  | cons letter rest inductionHypothesis =>
      rw [List.mem_cons, not_or] at oneLine
      rw [withEnds, if_neg (Ne.symm oneLine.1), inductionHypothesis oneLine.2]
      cases rest <;> rfl

theorem withEnds_append_newline {line : Text} (oneLine : '\n' ∉ line) (rest : Text) :
    withEnds (line ++ '\n' :: rest) = (line ++ ['\n']) :: withEnds rest := by
  induction line with
  | nil => simp [withEnds]
  | cons letter line inductionHypothesis =>
      rw [List.mem_cons, not_or] at oneLine
      rw [List.cons_append, withEnds, if_neg (Ne.symm oneLine.1), inductionHypothesis oneLine.2]
      rfl

end BootManual.Lines
