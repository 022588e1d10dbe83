import BootManual.Proofs.Outline

/-!
# Lines under other numbers

The number of a line is kept for headers only, and only to tell where an error is.  So
if the lines of a manual are given other numbers, it is read as before: the same entries
come out of it, or the same error, which then points to the new number of the same
header.  This is proved for every step and passes from two steps to one after the other.
-/

namespace BootManual

/-! ## Open entries -/

/-- The open parameter with another number for the line of its header. -/
def OpenParameter.renumber (number : Nat → Nat) (top : OpenParameter) : OpenParameter :=
  { top with line := number top.line }

/-- The open sub-parameter with another number for the line of its header. -/
def OpenSubparameter.renumber (number : Nat → Nat) (sub : OpenSubparameter) :
    OpenSubparameter :=
  { sub with line := number sub.line }

/-- The open entries with other numbers for the lines of their headers. -/
def State.renumber (number : Nat → Nat) : State → State
  | idle => idle
  | parameter top => parameter (top.renumber number)
  | subparameter top sub => subparameter (top.renumber number) (sub.renumber number)

/-- The line under another number. -/
def NumberedLine.renumber (number : Nat → Nat) (line : NumberedLine) : NumberedLine :=
  (line.1, number line.2)

theorem OpenSubparameter.hear_renumber (number : Nat → Nat) (sub : OpenSubparameter)
    (line : Text) : (sub.renumber number).hear line = (sub.hear line).renumber number := by
  unfold hear
  split <;> rfl

theorem State.hear_renumber (number : Nat → Nat) (state : State) (line : Text) :
    (state.renumber number).hear line = (state.hear line).renumber number := by
  cases state with
  | idle => rfl
  | parameter top => rfl
  | subparameter top sub => exact congrArg (subparameter _) (sub.hear_renumber number line)

/-! ## Results -/

/-- What becomes of a result under other numbers: a value is translated, and an error
points to the new number of the line. -/
inductive Renumbers (context : Context) (number : Nat → Nat) {First Second : Type}
    (translate : First → Second) : Except ParseError First → Except ParseError Second → Prop
  | ok (value : First) : Renumbers context number translate (.ok value) (.ok (translate value))
  | refused (name : Text) (line : Nat) :
      Renumbers context number translate (.error (.duplicateName name (context.place line)))
        (.error (.duplicateName name (context.place (number line))))

section

variable {context : Context} {number : Nat → Nat}

namespace Renumbers

variable {First Second Third Fourth : Type} {translate : First → Second}
  {translateNext : Third → Fourth} {first : Except ParseError First}
  {second : Except ParseError Second}

theorem bind {next : First → Except ParseError Third} {next' : Second → Except ParseError Fourth}
    (begins : Renumbers context number translate first second)
    (continues : ∀ value, Renumbers context number translateNext (next value)
      (next' (translate value))) :
    Renumbers context number translateNext (first >>= next) (second >>= next') := by
  cases begins with
  | ok value => exact continues value
  | refused name line => exact .refused name line

theorem map {use : First → Third} {use' : Second → Fourth}
    (begins : Renumbers context number translate first second)
    (commutes : ∀ value, translateNext (use value) = use' (translate value)) :
    Renumbers context number translateNext (first.map use) (second.map use') := by
  cases begins with
  | ok value =>
      have used : Renumbers context number translateNext (.ok (use value))
          (.ok (translateNext (use value))) := .ok (use value)
      rwa [commutes] at used
  | refused name line => exact .refused name line

end Renumbers

/-! ## Committing -/

namespace Commit

theorem renumbers_accept (label : Text) (line : Nat) (entries : Catalogue Entry)
    (entry : Entry) :
    Renumbers context number id (accept context label line entries entry)
      (accept context label (number line) entries entry) := by
  unfold accept
  split
  · exact .refused label line
  · exact .ok _

theorem renumbers_closeSubparameter (top : OpenParameter) (sub : OpenSubparameter) :
    Renumbers context number (OpenParameter.renumber number) (closeSubparameter context top sub)
      (closeSubparameter context (top.renumber number) (sub.renumber number)) :=
  (renumbers_accept _ sub.line top.children _).map fun _ => rfl

theorem renumbers_closeParameter (entries : Catalogue Entry) (top : OpenParameter) :
    Renumbers context number id (closeParameter context entries top)
      (closeParameter context entries (top.renumber number)) :=
  renumbers_accept top.name top.line entries (finished top)

theorem renumbers_close (entries : Catalogue Entry) (state : State) :
    Renumbers context number id (close context entries state)
      (close context entries (state.renumber number)) := by
  cases state with
  | idle => exact .ok entries
  | parameter top => exact renumbers_closeParameter entries top
  | subparameter top sub =>
      exact (renumbers_closeSubparameter top sub).bind (renumbers_closeParameter entries)

end Commit

/-! ## Lines -/

theorem State.renumbers_openSubparameter (line : Nat) (entry : Entry) (state : State) :
    Renumbers context number (State.renumber number) (state.openSubparameter context line entry)
      ((state.renumber number).openSubparameter context (number line) entry) := by
  cases state with
  | idle => exact .ok _
  | parameter top => exact .ok _
  | subparameter top sub =>
      exact (Commit.renumbers_closeSubparameter top sub).map fun _ => rfl

namespace Reader

/-- A line under another number does the same to what is open, under other numbers. -/
theorem renumbers_advance (entries : Catalogue Entry) (state : State) (line : Nat) (text : Text) :
    Renumbers context number (Prod.map id (State.renumber number))
      ((Reader.mk context state entries line).advance text).result
      ((Reader.mk context (state.renumber number) entries (number line)).advance text).result := by
  rcases Line.role_cases (Line.classify text) with top | nested | plain
  · rw [result_advance_of_topHeader top, result_advance_of_topHeader top]
    exact (Commit.renumbers_close entries state).map fun _ => rfl
  · rw [result_advance_of_nestedHeader nested, result_advance_of_nestedHeader nested]
    exact (State.renumbers_openSubparameter line _ state).map fun _ => rfl
  · rw [result_advance_of_not_isHeader plain, result_advance_of_not_isHeader plain,
      State.hear_renumber]
    exact .ok _

/-- A manual under other numbers is read as before. -/
theorem renumbers_outcome (entries : Catalogue Entry) (state : State)
    (lines : List NumberedLine) :
    Renumbers context number id (outcome context entries state lines)
      (outcome context entries (state.renumber number)
        (lines.map (NumberedLine.renumber number))) := by
  induction lines generalizing entries state with
  | nil => exact Commit.renumbers_close entries state
  | cons line rest inductionHypothesis =>
      rw [List.map_cons, outcome, outcome]
      exact (renumbers_advance entries state line.2 line.1).bind fun next =>
        inductionHypothesis next.1 next.2

end Reader

end

end BootManual
