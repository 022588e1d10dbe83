import BootManual.Proofs.Chapters
import BootManual.Proofs.Soundness

/-!
# How reading fails

Content is never refused.  The role of a line promises that a header names something,
so all that can go wrong is that an entry is committed under a name that is taken.
This is an error only if duplicates are rejected, and then the error points to the
header of the entry: a line that was read before the one at which the entry is
committed.
-/

namespace BootManual

/-- The lines of the headers of what is open. -/
def State.headerLines : State → List Nat
  | idle => []
  | parameter top => [top.line]
  | subparameter top sub => [top.line, sub.line]

theorem OpenSubparameter.line_hear (sub : OpenSubparameter) (line : Text) :
    (sub.hear line).line = sub.line := by
  unfold hear
  split <;> rfl

/-- An error that rejects a duplicate name and points to one of these lines. -/
structure ParseError.IsRejection (context : Context) (lines : List Nat) (error : ParseError) :
    Prop where
  policy : context.duplicates = .reject
  located : ∃ name, ∃ line ∈ lines, error = .duplicateName name (context.place line)

/-! ## Committing -/

namespace Commit

variable {context : Context} {entries : Catalogue Entry} {error : ParseError}

theorem accept_eq_error_iff {label : Text} {line : Nat} {entry : Entry} :
    accept context label line entries entry = .error error ↔
      context.duplicates = .reject ∧ entries.contains entry.name ∧
        error = .duplicateName label (context.place line) := by
  unfold accept
  constructor
  · intro refused
    split at refused
    · next taken => exact ⟨taken.1, taken.2, (Except.error.inj refused).symm⟩
    · contradiction
  · rintro ⟨reject, taken, rfl⟩
    rw [if_pos ⟨reject, taken⟩]

theorem isRejection_of_accept {label : Text} {line : Nat} {lines : List Nat} {entry : Entry}
    (refused : accept context label line entries entry = .error error) (listed : line ∈ lines) :
    error.IsRejection context lines := by
  obtain ⟨reject, -, rfl⟩ := accept_eq_error_iff.mp refused
  exact ⟨reject, label, line, listed, rfl⟩

theorem isRejection_of_closeSubparameter {top : OpenParameter} {sub : OpenSubparameter}
    (refused : closeSubparameter context top sub = .error error) :
    error.IsRejection context (State.subparameter top sub).headerLines :=
  isRejection_of_accept (except_map_eq_error_iff.mp refused) (by simp [State.headerLines])

theorem isRejection_of_close {state : State}
    (refused : close context entries state = .error error) :
    error.IsRejection context state.headerLines := by
  cases state with
  | idle => contradiction
  | parameter top => exact isRejection_of_accept refused (by simp [State.headerLines])
  | subparameter top sub =>
      rcases except_bind_eq_error_iff.mp refused with early | ⟨closed, closing, late⟩
      · exact isRejection_of_closeSubparameter early
      · obtain ⟨children, -, rfl⟩ := except_map_eq_ok_iff.mp closing
        exact isRejection_of_accept late (by simp [State.headerLines, OpenParameter.withChildren])

end Commit

/-! ## Lines -/

namespace Reader

variable {reader : Reader} {line : Text} {error : ParseError}

theorem isRejection_of_openSubparameter {context : Context} {count : Nat} {entry : Entry}
    {state : State} (refused : state.openSubparameter context count entry = .error error) :
    error.IsRejection context state.headerLines := by
  cases state with
  | idle => contradiction
  | parameter top => contradiction
  | subparameter top sub =>
      exact Commit.isRejection_of_closeSubparameter (except_map_eq_error_iff.mp refused)

/-- A line can fail only at what it closes. -/
theorem isRejection_of_advance (failed : (reader.advance line).result = .error error) :
    error.IsRejection reader.context reader.state.headerLines := by
  rcases Line.role_cases (Line.classify line) with top | nested | plain
  · rw [result_advance_of_topHeader top, except_map_eq_error_iff] at failed
    exact Commit.isRejection_of_close failed
  · rw [result_advance_of_nestedHeader nested, except_map_eq_error_iff] at failed
    exact isRejection_of_openSubparameter failed
  · rw [result_advance_of_not_isHeader plain] at failed
    contradiction

theorem failure_feed_eq_some_iff :
    (reader.feed line).failure = some error ↔ (reader.advance line).result = .error error := by
  cases advanced : (reader.advance line).result with
  | error other => simp [feed_of_error advanced]
  | ok next => simp [feed_of_ok advanced]

theorem log_feed (reader : Reader) (line : Text) :
    (reader.feed line).log = (reader.advance line).log := by
  cases advanced : (reader.advance line).result with
  | error error => rw [feed_of_error advanced]
  | ok next => rw [feed_of_ok advanced]

theorem isRejection_of_feed (failed : (reader.feed line).failure = some error) :
    error.IsRejection reader.context reader.state.headerLines :=
  isRejection_of_advance (failure_feed_eq_some_iff.mp failed)

theorem isRejection_of_finish (failed : reader.finish.result = .error error) :
    error.IsRejection reader.context reader.state.headerLines := by
  rw [finish_eq, Commit.result_everything] at failed
  exact Commit.isRejection_of_close failed

@[simp]
theorem context_feed (reader : Reader) (line : Text) :
    (reader.feed line).reader.context = reader.context := by
  cases advanced : (reader.advance line).result with
  | error error => rw [feed_of_error advanced]
  | ok next => rw [feed_of_ok advanced]

@[simp]
theorem context_feedEach (reader : Reader) (lines : List Text) :
    (reader.feedEach lines).context = reader.context := by
  induction lines generalizing reader with
  | nil => rfl
  | cons line rest inductionHypothesis =>
      exact (inductionHypothesis _).trans (context_feed reader line)

/-! ## Where errors point -/

/-- The headers of what is open have been read. -/
def IsPast (reader : Reader) : Prop :=
  ∀ number ∈ reader.state.headerLines, number < reader.count

theorem headerLines_hear (state : State) (line : Text) :
    (state.hear line).headerLines = state.headerLines := by
  cases state with
  | idle => rfl
  | parameter top => rfl
  | subparameter top sub => simp only [State.hear, State.headerLines, OpenSubparameter.line_hear]

/-- The header of a sub-parameter opens nothing but what it names. -/
theorem mem_headerLines_openSubparameter {context : Context} {count number : Nat}
    {entry : Entry} {state after : State}
    (opened : state.openSubparameter context count entry = .ok after)
    (listed : number ∈ after.headerLines) : number = count ∨ number ∈ state.headerLines := by
  cases state with
  | idle =>
      obtain rfl := Except.ok.inj opened
      exact .inr listed
  | parameter top =>
      obtain rfl := Except.ok.inj opened
      simpa [State.headerLines, or_comm] using listed
  | subparameter top sub =>
      obtain ⟨closed, closing, rfl⟩ := except_map_eq_ok_iff.mp opened
      obtain ⟨children, -, rfl⟩ := except_map_eq_ok_iff.mp closing
      have cases' : number = top.line ∨ number = count := by
        simpa [State.headerLines, OpenParameter.withChildren] using listed
      rcases cases' with rfl | rfl
      · exact .inr List.mem_cons_self
      · exact .inl rfl

/-- A line opens nothing but what it names. -/
theorem mem_headerLines_advance {number : Nat} {entries : Catalogue Entry} {state : State}
    (advanced : (reader.advance line).result = .ok (entries, state))
    (listed : number ∈ state.headerLines) :
    number = reader.count ∨ number ∈ reader.state.headerLines := by
  cases advances_of_result advanced with
  | topHeader role closed => exact .inl (List.mem_singleton.mp listed)
  | nestedHeader role opened => exact mem_headerLines_openSubparameter opened listed
  | heard role =>
      rw [headerLines_hear] at listed
      exact .inr listed

theorem count_feed (fed : (reader.feed line).failure = none) :
    (reader.feed line).reader.count = reader.count + 1 := by
  cases advanced : (reader.advance line).result with
  | error error =>
      rw [feed_of_error advanced] at fed
      contradiction
  | ok next => rw [feed_of_ok advanced]

theorem isPast_feed (past : reader.IsPast) (line : Text) : (reader.feed line).reader.IsPast := by
  cases advanced : (reader.advance line).result with
  | error error =>
      rw [feed_of_error advanced]
      intro number listed
      exact absurd listed (List.not_mem_nil)
  | ok next =>
      rw [feed_of_ok advanced]
      intro number listed
      rcases mem_headerLines_advance advanced listed with rfl | open'
      · exact Nat.lt_succ_self _
      · exact Nat.lt_succ_of_lt (past number open')

theorem isPast_start (context : Context) : (start context).IsPast := by
  intro number listed
  exact absurd listed (List.not_mem_nil)

/-- The reader after some lines none of which fails. -/
theorem feedAll_spec (past : reader.IsPast) {lines : List Text}
    (fed : (reader.feedAll lines).failure = none) :
    (reader.feedAll lines).reader.context = reader.context ∧
      (reader.feedAll lines).reader.count = reader.count + lines.length ∧
      (reader.feedAll lines).reader.IsPast := by
  induction lines generalizing reader with
  | nil => exact ⟨rfl, rfl, past⟩
  | cons line rest inductionHypothesis =>
      have pastNext := isPast_feed past line
      have contextNext := context_feed reader line
      have first := failure_feed_of_feedAll fed
      have countNext := count_feed first
      rw [feedAll_cons first] at fed ⊢
      obtain ⟨context, count, isPast⟩ := inductionHypothesis pastNext fed
      exact ⟨context.trans contextNext, by rw [count, countNext, List.length_cons]; omega, isPast⟩

theorem failure_feedAll_append {front : List Text}
    (fed : (reader.feedAll front).failure = none) (rest : List Text) :
    (reader.feedAll (front ++ rest)).failure =
      ((reader.feedAll front).reader.feedAll rest).failure := by
  induction front generalizing reader with
  | nil => rfl
  | cons line others inductionHypothesis =>
      have first := failure_feed_of_feedAll fed
      rw [feedAll_cons first] at fed
      rw [List.cons_append, feedAll_cons first, feedAll_cons first]
      exact inductionHypothesis fed

end Reader

namespace Manual

/-- Content is never refused.  Where later entries replace earlier ones every text can be
read, and whatever lines a reader was fed, and whichever of them failed, the next line
and the end of the manual can only fail by the rejection of a duplicate name. -/
theorem refuses_only_duplicates :
    (∀ (file : Option Text) (text : Text),
      ∃ catalogue, (ofText ⟨file, .replace⟩ text).result = .ok catalogue) ∧
    ∀ (context : Context) (lines : List Text) (error : ParseError),
      let reader := (Reader.start context).feedEach lines
      ((∃ line, (reader.feed line).failure = some error) ∨
        reader.finish.result = .error error) →
      context.duplicates = .reject ∧
        ∃ name number, error = .duplicateName name (context.place number) := by
  constructor
  · intro file text
    exact ⟨_, result_ofLines_of_replace rfl _⟩
  · intro context lines error reader failed
    have rejection : error.IsRejection reader.context reader.state.headerLines := by
      rcases failed with ⟨line, failed⟩ | failed
      · exact Reader.isRejection_of_feed failed
      · exact Reader.isRejection_of_finish failed
    have same : reader.context = context := Reader.context_feedEach (Reader.start context) lines
    rw [same] at rejection
    obtain ⟨reject, name, number, -, rfl⟩ := rejection
    exact ⟨reject, name, number, rfl⟩

/-- The second header of one name has already made a feed fail, and reading went on. -/
theorem refuses_only_duplicates_after_failure :
    let lines := ["\ta".toList, "\ta".toList, "\tb".toList, "\ta".toList]
    let reader := (Reader.start ⟨none, .reject⟩).feedEach lines
    (reader.feed "\tc".toList).failure =
        some (.duplicateName "a".toList " at line 3".toList) ∧
      ∃ name number, ParseError.duplicateName "a".toList " at line 3".toList =
        .duplicateName name ((Context.mk none .reject).place number) := by
  intro lines reader
  have failed : (reader.feed "\tc".toList).failure =
      some (.duplicateName "a".toList " at line 3".toList) := rfl
  have refused := refuses_only_duplicates.2 ⟨none, .reject⟩ lines _ (.inl ⟨_, failed⟩)
  exact ⟨failed, refused.2⟩

end Manual

end BootManual
