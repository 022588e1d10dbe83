import BootManual.Reader
import BootManual.Proofs.HeaderReading

/-!
# Lines in one go

A reader commits what was open, opens what a header names and counts the line one after
the other, and wherever it fails it is handed out as it is by then.  As no header that a
line promises is malformed, a line fails at what it closes or not at all, and closing
inserts a parameter last.  So a line can be taken in one go: a single attempt says what
is committed and what is open behind it, and one that fails has changed nothing.
-/

namespace BootManual

/-! ## Attempts one after the other -/

namespace Progress

@[simp]
theorem pause_andThen (reader : Reader) (next : Reader → Progress) :
    reader.pause.andThen next = next reader :=
  rfl

variable {first : Progress}

theorem andThen_of_failure {error : ParseError} (failed : first.failure = some error)
    (next : Reader → Progress) : first.andThen next = first := by
  rw [andThen, failed]

theorem andThen_of_success (succeeds : first.failure = none) (next : Reader → Progress) :
    first.andThen next =
      { next first.reader with log := first.log ++ (next first.reader).log } := by
  rw [andThen, succeeds]

end Progress

namespace Reader

section

variable {First Second : Type} {first : Attempt First}

theorem attempting_of_ok {value : First} (success : first.result = .ok value) (reader : Reader)
    (next : First → Progress) :
    reader.attempting first next =
      { next value with log := first.log ++ (next value).log } := by
  rw [attempting, success]

theorem attempting_of_error {error : ParseError} (failure : first.result = .error error)
    (reader : Reader) (next : First → Progress) :
    reader.attempting first next = ⟨reader, first.log, some error⟩ := by
  rw [attempting, failure]

/-- Two attempts can be made in one go. -/
theorem attempting_bind (reader : Reader) (first : Attempt First)
    (second : First → Attempt Second) (next : Second → Progress) :
    reader.attempting (first >>= second) next =
      reader.attempting first fun value => reader.attempting (second value) next := by
  cases result : first.result with
  | error error =>
      rw [attempting_of_error result, Attempt.bind_of_error result]
      rfl
  | ok value =>
      rw [attempting_of_ok result, Attempt.bind_of_ok result]
      cases later : (second value).result with
      | error error =>
          rw [attempting_of_error later]
          rfl
      | ok last =>
          rw [attempting_of_ok later]
          simp only [attempting, List.append_assoc]

/-- Going on behind an attempt is part of what is done with its value. -/
theorem attempting_andThen (reader : Reader) (attempt : Attempt First)
    (next : First → Progress) (more : Reader → Progress) :
    (reader.attempting attempt next).andThen more =
      reader.attempting attempt fun value => (next value).andThen more := by
  cases result : attempt.result with
  | error error =>
      rw [attempting_of_error result, attempting_of_error result]
      rfl
  | ok value =>
      rw [attempting_of_ok result, attempting_of_ok result]
      cases failed : (next value).failure with
      | some error => simp only [Progress.andThen, failed]
      | none => simp only [Progress.andThen, failed, List.append_assoc]

end

end Reader

/-! ## Closing -/

namespace Commit

/-- The catalogue with a finished parameter inserted, once its name has been checked. -/
def insertion (context : Context) (line : Nat) (entries : Catalogue Entry)
    (top : OpenParameter) : Attempt (Catalogue Entry) := do
  let entry ← parameter context line entries top
  pure (entries.insert entry)

/-- The catalogue after whatever is open has been committed, the innermost entry first. -/
def everything (context : Context) (line : Nat) (entries : Catalogue Entry) :
    State → Attempt (Catalogue Entry)
  | .idle => pure entries
  | .parameter top => insertion context line entries top
  | .subparameter top sub => do
    let top ← subparameter context line top sub
    insertion context line entries top

end Commit

namespace Reader

theorem commit_eq (reader : Reader) (top : OpenParameter) :
    reader.commit top =
      reader.attempting (Commit.insertion reader.context reader.count reader.entries top)
        fun entries => { reader with entries }.pause := by
  rw [Commit.insertion, attempting_bind]
  rfl

theorem close_eq (reader : Reader) (state : State) :
    reader.close state =
      reader.attempting (Commit.everything reader.context reader.count reader.entries state)
        fun entries => { reader with entries }.pause := by
  cases state with
  | idle => rfl
  | parameter top => exact commit_eq reader top
  | subparameter top sub =>
      rw [close, Commit.everything, attempting_bind, funext (commit_eq reader)]

/-- What is handed out at the end are the entries after all has been committed. -/
theorem finish_eq (reader : Reader) :
    reader.finish =
      Commit.everything reader.context reader.count reader.entries reader.state := by
  rw [finish, close_eq]
  dsimp only
  generalize Commit.everything reader.context reader.count reader.entries reader.state = last
  obtain ⟨log, result⟩ := last
  cases result with
  | error error => rfl
  | ok entries => simp [attempting, pause]

/-! ## Lines -/

/-- The committed entries and the open ones after a line. -/
def advance (reader : Reader) (line : Text) : Attempt (Catalogue Entry × State) :=
  match Line.classify line with
  | .topHeader text => do
    let entries ← Commit.everything reader.context reader.count reader.entries reader.state
    let top ← openParameter reader.context reader.count text
    pure (entries, .parameter top)
  | role => do
    let state ← route reader.context reader.count line role reader.state
    pure (reader.entries, state)

/-- A parameter can always be opened: its header begins with a letter or a digit. -/
theorem exists_openParameter (context : Context) (line : Nat) {text : Text}
    (starts : Line.startsName text) :
    ∃ top, (openParameter context line text).result = .ok top := by
  obtain ⟨header, found, -⟩ := Header.exists_read? starts
  refine ⟨⟨Draft.start (entryOfHeader header), line⟩, ?_⟩
  rw [openParameter, openEntry, found]
  rfl

/-- A line is one attempt.  If it fails, the reader is as it was, except that nothing is
open, and the line is not counted. -/
theorem feed_eq (reader : Reader) (line : Text) :
    reader.feed line =
      { reader with state := .idle }.attempting (reader.advance line) fun next =>
        { reader with entries := next.1, state := next.2, count := reader.count + 1 }.pause := by
  rw [feed, turn, advance]
  cases role : Line.classify line with
  | topHeader text =>
      dsimp only
      rw [close_eq, attempting_andThen, attempting_andThen, attempting_bind]
      congr 1
      funext entries
      rw [Progress.pause_andThen, attempting_andThen, attempting_bind]
      -- The parameter is opened, so it makes no difference what a failure would hand out.
      obtain ⟨top, opened⟩ := exists_openParameter reader.context reader.count
        (Line.startsName_of_topHeader role)
      rw [attempting_of_ok opened, attempting_of_ok opened]
      rfl
  | _ =>
      dsimp only
      rw [attempting_andThen, attempting_bind]
      rfl

section

variable {reader : Reader} {line : Text}

theorem feed_of_ok {entries : Catalogue Entry} {state : State}
    (advanced : (reader.advance line).result = .ok (entries, state)) :
    reader.feed line =
      ⟨{ reader with entries, state, count := reader.count + 1 }, (reader.advance line).log,
        none⟩ := by
  rw [feed_eq, attempting_of_ok advanced, pause]
  simp only [List.append_nil]

theorem feed_of_error {error : ParseError} (failed : (reader.advance line).result = .error error) :
    reader.feed line =
      ⟨{ reader with state := .idle }, (reader.advance line).log, some error⟩ := by
  rw [feed_eq, attempting_of_error failed]

/-! ## Lines one after the other -/

theorem feedAll_cons (fed : (reader.feed line).failure = none) (rest : List Text) :
    reader.feedAll (line :: rest) =
      { (reader.feed line).reader.feedAll rest with
        log := (reader.feed line).log ++ ((reader.feed line).reader.feedAll rest).log } := by
  rw [feedAll, Progress.andThen_of_success fed]

theorem feedAll_of_failure {error : ParseError} (failed : (reader.feed line).failure = some error)
    (rest : List Text) : reader.feedAll (line :: rest) = reader.feed line := by
  rw [feedAll, Progress.andThen_of_failure failed]

/-- If none of some lines fails, the first does not. -/
theorem failure_feed_of_feedAll {rest : List Text}
    (fed : (reader.feedAll (line :: rest)).failure = none) : (reader.feed line).failure = none := by
  cases failed : (reader.feed line).failure with
  | none => rfl
  | some error =>
      rw [feedAll_of_failure failed, failed] at fed
      contradiction

end

end Reader

end BootManual
