import BootManual.Proofs.Failures
import BootManual.Proofs.Policies

/-!
# Which lines records are about

While a line is read, records are about that line, except that a warning is about the
header of something that was open.  Both have been read, so every record of a line is
about a line of the manual.  What is still open at the end is committed when the count of
lines stands behind the last of them, so the records of that are about a line that the
manual does not have; only its warnings are about headers.
-/

namespace BootManual

/-! ## What attempts write -/

namespace Attempt

/-- Every record of an attempt has a property. -/
def Logs (property : Record → Prop) {Value : Type} (attempt : Attempt Value) : Prop :=
  ∀ record ∈ attempt.log, property record

variable {property : Record → Prop} {First Second : Type}

theorem mem_log_bind {first : Attempt First} (second : First → Attempt Second) {record : Record}
    (written : record ∈ first.log) : record ∈ (first >>= second).log := by
  cases outcome : first.result with
  | ok value =>
      rw [bind_of_ok outcome]
      exact List.mem_append_left _ written
  | error error =>
      rw [bind_of_error outcome]
      exact written

namespace Logs

theorem pure (value : First) : Logs property (Pure.pure value : Attempt First) :=
  nofun

theorem fail (error : ParseError) : Logs property (Attempt.fail error : Attempt First) :=
  nofun

theorem note {line : Nat} {notice : Notice} (has : property ⟨notice, line + 1⟩) :
    Logs property (Attempt.note line notice) :=
  List.forall_mem_singleton.mpr has

/-- What follows an attempt has to be looked at only for the value that it comes to. -/
theorem bind {first : Attempt First} {second : First → Attempt Second}
    (begins : Logs property first)
    (continues : ∀ value, first.result = .ok value → Logs property (second value)) :
    Logs property (first >>= second) := by
  cases outcome : first.result with
  | ok value =>
      rw [bind_of_ok outcome]
      exact List.forall_mem_append.mpr ⟨begins, continues value outcome⟩
  | error error =>
      rw [bind_of_error outcome]
      exact begins

end Logs

end Attempt

/-- The records that can be written at a line, numbered from zero, when the headers at
these lines are open: warnings about the headers, and anything else about the line. -/
inductive Record.IsWrittenAt (line : Nat) (headers : List Nat) : Record → Prop where
  | here {notice : Notice} (minor : notice.level ≠ .warn) :
      IsWrittenAt line headers ⟨notice, line + 1⟩
  | header {name : Text} {number : Nat} (listed : number ∈ headers) :
      IsWrittenAt line headers ⟨.duplicateName name, number + 1⟩

section

open Attempt Record

variable (context : Context) (line : Nat)

/-! ## Committing -/

namespace Commit

theorem logs_check {Value : Type} {headers : List Nat} {number : Nat}
    (listed : number ∈ headers) (taken : Bool) (label : Text) (value : Value) :
    Logs (IsWrittenAt line headers)
      (do
        if taken then
          duplicate context label number
        pure value) := by
  cases taken with
  | false => exact .pure value
  | true =>
      have checked : Logs (IsWrittenAt line headers) (duplicate context label number) := by
        unfold duplicate
        split
        · exact .note (.header listed)
        · exact .fail _
      exact checked.bind fun _ _ => .pure value

theorem logs_subparameter (top : OpenParameter) (sub : OpenSubparameter) :
    Logs (IsWrittenAt line (State.subparameter top sub).headerLines)
      (subparameter context line top sub) :=
  (Logs.note (.here nofun)).bind fun _ _ =>
    logs_check context line (by simp [State.headerLines]) _ _ _

theorem logs_parameter (entries : Catalogue Entry) {top : OpenParameter} {headers : List Nat}
    (listed : top.line ∈ headers) :
    Logs (IsWrittenAt line headers) (parameter context line entries top) := by
  have minor : (Notice.commitParameter (finished top).name
      (finished top).format.marker).level ≠ .warn := nofun
  have committed := (Logs.note (.here minor)).bind fun _ _ =>
    logs_check context line listed (entries.contains (finished top).name) (finished top).name
      (finished top)
  unfold parameter
  split
  · exact (Logs.note (.here nofun)).bind fun _ _ => committed
  · exact committed

theorem logs_insertion (entries : Catalogue Entry) {top : OpenParameter} {headers : List Nat}
    (listed : top.line ∈ headers) :
    Logs (IsWrittenAt line headers) (insertion context line entries top) :=
  (logs_parameter context line entries listed).bind fun _ _ => .pure _

theorem logs_everything (entries : Catalogue Entry) (state : State) :
    Logs (IsWrittenAt line state.headerLines) (everything context line entries state) := by
  cases state with
  | idle => exact .pure entries
  | parameter top => exact logs_insertion context line entries (by simp [State.headerLines])
  | subparameter top sub =>
      refine (logs_subparameter context line top sub).bind fun closed committed => ?_
      rw [result_subparameter] at committed
      obtain ⟨children, -, rfl⟩ := except_map_eq_ok_iff.mp committed
      exact logs_insertion context line entries
        (by simp [State.headerLines, OpenParameter.withChildren])

/-- Committing what is open does not go unnoticed. -/
theorem exists_mem_log_everything (entries : Catalogue Entry) {state : State}
    (isOpen : state ≠ .idle) :
    ∃ record ∈ (everything context line entries state).log,
      ¬record.IsWarning ∧ record.line = line + 1 := by
  have minor (notice : Notice) (minor : notice.level ≠ .warn) :
      ¬(Record.mk notice (line + 1)).IsWarning := minor
  cases state with
  | idle => exact absurd rfl isOpen
  | parameter top =>
      rw [everything, insertion, parameter]
      split
      · exact ⟨_, mem_log_bind _ (mem_log_bind _ (List.mem_singleton_self _)),
          minor _ (by simp [Notice.level]), rfl⟩
      · exact ⟨_, mem_log_bind _ (mem_log_bind _ (List.mem_singleton_self _)),
          minor _ (by simp [Notice.level]), rfl⟩
  | subparameter top sub =>
      rw [everything, subparameter]
      exact ⟨_, mem_log_bind _ (mem_log_bind _ (List.mem_singleton_self _)),
        minor _ (by simp [Notice.level]), rfl⟩

end Commit

/-! ## Lines -/

namespace Reader

variable {headers : List Nat}

theorem logs_openEntry (text : Text) :
    Logs (IsWrittenAt line headers) (openEntry context line text) := by
  unfold openEntry
  split
  · exact .pure _
  · exact .fail _

theorem logs_openParameter (text : Text) :
    Logs (IsWrittenAt line headers) (openParameter context line text) :=
  (logs_openEntry context line text).bind fun _ _ =>
    (Logs.note (.here nofun)).bind fun _ _ => .pure _

theorem logs_openSubparameter (top : OpenParameter) (text : Text) :
    Logs (IsWrittenAt line headers) (openSubparameter context line top text) :=
  (logs_openEntry context line text).bind fun _ _ =>
    (Logs.note (.here nofun)).bind fun _ _ => .pure _

theorem logs_extendParameter (top : OpenParameter) (text : Text) :
    Logs (IsWrittenAt line headers) (extendParameter line top text) := by
  unfold extendParameter
  generalize top.draft.absorb text = absorbed
  obtain ⟨outcome, draft⟩ := absorbed
  have noted : Logs (IsWrittenAt line headers)
      (noteIfAny line (noticeOf outcome draft.entry)) := by
    cases outcome with
    | blockOpened => exact .note (.here nofun)
    | values => exact .note (.here nofun)
    | format => exact .pure ()
    | blockContinued => exact .pure ()
    | description => exact .pure ()
  exact noted.bind fun _ _ => .pure _

theorem logs_route (raw : Text) (role : Line) (state : State) :
    Logs (IsWrittenAt line state.headerLines) (route context line raw role state) := by
  unfold route
  split
  · exact .pure _
  · exact .pure _
  · exact (logs_openSubparameter context line _ _).bind fun _ _ => .pure _
  · exact (Commit.logs_subparameter context line _ _).bind fun _ _ =>
      (logs_openSubparameter context line _ _).bind fun _ _ => .pure _
  · exact (Logs.note (.here nofun)).bind fun _ _ => .pure _
  · exact logs_extendParameter line _ _
  · exact .pure _
  · exact (Logs.note (.here nofun)).bind fun _ _ => .pure _
  · split
    · exact (Logs.note (.here nofun)).bind fun _ _ => .pure _
    · exact .pure _
  · exact .pure _

theorem logs_advance (reader : Reader) (text : Text) :
    Logs (IsWrittenAt reader.count reader.state.headerLines) (reader.advance text) := by
  unfold advance
  split
  · exact (Commit.logs_everything _ _ _ _).bind fun _ _ =>
      (logs_openParameter _ _ _).bind fun _ _ => .pure _
  · exact (logs_route _ _ _ _ _).bind fun _ _ => .pure _

end Reader

end

namespace Reader

variable {reader : Reader} {record : Record}

/-! ## Bounds -/

theorem line_of_isWrittenAt (past : reader.IsPast)
    (written : record.IsWrittenAt reader.count reader.state.headerLines) :
    (record.IsWarning → 1 ≤ record.line ∧ record.line ≤ reader.count) ∧
      (¬record.IsWarning → record.line = reader.count + 1) := by
  cases written with
  | here minor => exact ⟨fun warns => absurd warns minor, fun _ => rfl⟩
  | @header name number listed =>
      have warns : (Record.mk (.duplicateName name) (number + 1)).IsWarning := rfl
      exact ⟨fun _ => ⟨Nat.le_add_left 1 number, past number listed⟩, fun minor => absurd warns minor⟩

/-- A line writes only about itself and lines before it. -/
theorem line_of_mem_log_feed (past : reader.IsPast) {line : Text}
    (written : record ∈ (reader.feed line).log) :
    1 ≤ record.line ∧ record.line ≤ reader.count + 1 := by
  rw [log_feed] at written
  have bounds := line_of_isWrittenAt past (logs_advance reader line record written)
  by_cases warns : record.IsWarning
  · exact ⟨(bounds.1 warns).1, Nat.le_succ_of_le (bounds.1 warns).2⟩
  · rw [bounds.2 warns]
    exact ⟨Nat.le_add_left 1 _, Nat.le_refl _⟩

theorem line_of_mem_log_feedAll (past : reader.IsPast) {lines : List Text}
    (written : record ∈ (reader.feedAll lines).log) :
    1 ≤ record.line ∧ record.line ≤ reader.count + lines.length := by
  induction lines generalizing reader with
  | nil => contradiction
  | cons line rest inductionHypothesis =>
      rw [List.length_cons]
      cases failed : (reader.feed line).failure with
      | some error =>
          rw [feedAll_of_failure failed] at written
          have bounds := line_of_mem_log_feed past written
          omega
      | none =>
          rw [feedAll_cons failed] at written
          rcases List.mem_append.mp written with first | later
          · have bounds := line_of_mem_log_feed past first
            omega
          · have bounds := inductionHypothesis (isPast_feed past line) later
            rw [count_feed failed] at bounds
            omega

/-! ## What is open at the end -/

theorem idle_hear_iff (state : State) (line : Text) : state.hear line = .idle ↔ state = .idle := by
  cases state <;> simp [State.hear]

theorem idle_openSubparameter_iff {context : Context} {count : Nat} {entry : Entry}
    {state after : State} (opened : state.openSubparameter context count entry = .ok after) :
    after = .idle ↔ state = .idle := by
  cases state with
  | idle =>
      obtain rfl := Except.ok.inj opened
      exact Iff.rfl
  | parameter top =>
      obtain rfl := Except.ok.inj opened
      simp
  | subparameter top sub =>
      obtain ⟨closed, -, rfl⟩ := except_map_eq_ok_iff.mp opened
      simp

/-- Nothing is open behind a line exactly if nothing was and the line opens no
parameter. -/
theorem idle_advance_iff {line : Text} {entries : Catalogue Entry} {state : State}
    (advanced : (reader.advance line).result = .ok (entries, state)) :
    state = .idle ↔ reader.state = .idle ∧ (Line.classify line).isTopHeader = false := by
  cases advances_of_result advanced with
  | topHeader role closed => simp [role, Line.isTopHeader]
  | nestedHeader role opened =>
      rw [idle_openSubparameter_iff opened]
      simp [role, Line.isTopHeader]
  | heard role =>
      rw [idle_hear_iff]
      simp [Line.isTopHeader_eq_false_of_plain role]

theorem idle_feed_iff {line : Text} (fed : (reader.feed line).failure = none) :
    (reader.feed line).reader.state = .idle ↔
      reader.state = .idle ∧ (Line.classify line).isTopHeader = false := by
  cases advanced : (reader.advance line).result with
  | error error =>
      rw [feed_of_error advanced] at fed
      contradiction
  | ok next =>
      rw [feed_of_ok advanced]
      exact idle_advance_iff advanced

theorem idle_feedAll_iff {lines : List Text} (fed : (reader.feedAll lines).failure = none) :
    (reader.feedAll lines).reader.state = .idle ↔
      reader.state = .idle ∧ ∀ line ∈ lines, (Line.classify line).isTopHeader = false := by
  induction lines generalizing reader with
  | nil => simp [feedAll, pause]
  | cons line rest inductionHypothesis =>
      have first := failure_feed_of_feedAll fed
      rw [feedAll_cons first] at fed ⊢
      rw [inductionHypothesis fed, idle_feed_iff first, List.forall_mem_cons, and_assoc]

end Reader

namespace Progress

variable {progress : Progress}

theorem log_conclude_of_failed {error : ParseError} (failed : progress.failure = some error) :
    progress.conclude.log = progress.log := by
  rw [conclude, failed]

theorem log_conclude_of_fed (fed : progress.failure = none) :
    progress.conclude.log = progress.log ++ progress.reader.finish.log := by
  rw [conclude, fed]

end Progress

namespace Manual

section

variable {context : Context} {lines : List Text} {record : Record}

/-- While the lines of a manual are read, records are about them. -/
theorem line_of_mem_log_fed
    (written : record ∈ ((Reader.start context).feedAll lines).log) :
    1 ≤ record.line ∧ record.line ≤ lines.length := by
  have bounds := Reader.line_of_mem_log_feedAll (Reader.isPast_start context) written
  rwa [show (Reader.start context).count = 0 from rfl, Nat.zero_add] at bounds

variable (fed : ((Reader.start context).feedAll lines).failure = none)

include fed

theorem count_fed : ((Reader.start context).feedAll lines).reader.count = lines.length :=
  (Reader.feedAll_spec (Reader.isPast_start context) fed).2.1.trans (Nat.zero_add _)

/-- At the end of a manual, warnings are about its lines and other records are not. -/
theorem line_of_mem_log_finish
    (written : record ∈ ((Reader.start context).feedAll lines).reader.finish.log) :
    (record.IsWarning → 1 ≤ record.line ∧ record.line ≤ lines.length) ∧
      (¬record.IsWarning → record.line = lines.length + 1) := by
  have past := (Reader.feedAll_spec (Reader.isPast_start context) fed).2.2
  rw [Reader.finish_eq] at written
  have bounds := Reader.line_of_isWrittenAt past (Commit.logs_everything _ _ _ _ record written)
  rwa [count_fed fed] at bounds

theorem idle_fed_iff :
    ((Reader.start context).feedAll lines).reader.state = .idle ↔
      ∀ line ∈ lines, (Line.classify line).isTopHeader = false :=
  (Reader.idle_feedAll_iff fed).trans (and_iff_right rfl)

/-- The end of a manual is about its lines exactly if nothing is committed there. -/
theorem log_finish_isBounded_iff :
    (∀ record ∈ ((Reader.start context).feedAll lines).reader.finish.log,
      1 ≤ record.line ∧ record.line ≤ lines.length) ↔
      ((Reader.start context).feedAll lines).reader.state = .idle := by
  constructor
  · intro bounded
    by_contra isOpen
    obtain ⟨record, written, -, line⟩ := Commit.exists_mem_log_everything _ _ _ isOpen
    rw [← Reader.finish_eq] at written
    have bound := (bounded record written).2
    rw [line, count_fed fed] at bound
    exact absurd bound (Nat.not_succ_le_self _)
  · intro idle
    have nothing : ((Reader.start context).feedAll lines).reader.finish.log = [] := by
      rw [Reader.finish, idle]
      rfl
    rw [nothing]
    exact List.forall_mem_nil _

end

theorem log_isBounded_iff (context : Context) (lines : List Text) :
    (∀ record ∈ (ofLines context lines).log, 1 ≤ record.line ∧ record.line ≤ lines.length) ↔
      ((Reader.start context).feedAll lines).failure ≠ none ∨
        ∀ line ∈ lines, (Line.classify line).isTopHeader = false := by
  have during : ∀ record ∈ ((Reader.start context).feedAll lines).log,
      1 ≤ record.line ∧ record.line ≤ lines.length := fun _ => line_of_mem_log_fed
  cases failed : ((Reader.start context).feedAll lines).failure with
  | some error =>
      rw [ofLines, Progress.log_conclude_of_failed failed]
      exact iff_of_true during (.inl (Option.some_ne_none error))
  | none =>
      rw [ofLines, Progress.log_conclude_of_fed failed, List.forall_mem_append,
        log_finish_isBounded_iff failed, idle_fed_iff failed]
      exact (and_iff_right during).trans (or_iff_right fun fails => fails rfl).symm

/-- Every record that is written while the lines of a manual are read is about one of
them.  What is still open at the end is committed then: warnings about that are about
lines of the manual, and all other records about the line behind the last.  So all records
are about lines of the manual exactly if a line fails or no parameter is ever opened, and a
listener is told the numbers of these lines exactly if they fit into 32 bits as well. -/
theorem records_are_about_lines (context : Context) (text : Text) :
    let lines := Lines.ofText text
    let fed := (Reader.start context).feedAll lines
    (∀ record ∈ fed.log, 1 ≤ record.line ∧ record.line ≤ lines.length) ∧
    (fed.failure = none → ∀ record ∈ fed.reader.finish.log,
      (record.IsWarning → 1 ≤ record.line ∧ record.line ≤ lines.length) ∧
      (¬record.IsWarning → record.line = lines.length + 1)) ∧
    ((∀ record ∈ (ofText context text).log, 1 ≤ record.line ∧ record.line ≤ lines.length) ↔
      fed.failure ≠ none ∨ ∀ line ∈ lines, (Line.classify line).isTopHeader = false) ∧
    ((∀ record ∈ (ofText context text).log,
        ∃ number ∈ record.number, 1 ≤ number ∧ number ≤ lines.length) ↔
      (fed.failure ≠ none ∨ ∀ line ∈ lines, (Line.classify line).isTopHeader = false) ∧
        ∀ record ∈ (ofText context text).log, record.line < UInt32.size) := by
  intro lines fed
  have bounded : (∀ record ∈ (ofText context text).log,
      1 ≤ record.line ∧ record.line ≤ lines.length) ↔ _ := log_isBounded_iff context lines
  refine ⟨fun _ => line_of_mem_log_fed, fun succeeds _ => line_of_mem_log_finish succeeds,
    bounded, ?_⟩
  rw [← bounded, ← forall₂_and]
  exact forall₂_congr fun record _ => Record.exists_mem_number_iff

/-- A parameter that the last line repeats: its commitment is about a third line, and the
warning about its name is about the second. -/
theorem records_are_about_lines_repeated :
    let text := "\ta\n\ta\n".toList
    let fed := (Reader.start ⟨none, .replace⟩).feedAll (Lines.ofText text)
    fed.failure = none ∧
      fed.reader.finish.log =
        [⟨.commitParameter "a".toList "flag".toList, 3⟩, ⟨.duplicateName "a".toList, 2⟩] ∧
      (∀ record ∈ fed.reader.finish.log,
        (record.IsWarning → 1 ≤ record.line ∧ record.line ≤ 2) ∧
        (¬record.IsWarning → record.line = 3)) := by
  intro text fed
  have succeeds : fed.failure = none := rfl
  exact ⟨succeeds, rfl, (records_are_about_lines ⟨none, .replace⟩ text).2.1 succeeds⟩

/-- The only parameter of a manual of one line is committed at a second line, and that is
what a listener is told. -/
theorem record_behind_last_line :
    let text := "\tfoo\n".toList
    let committed : Record := ⟨.commitParameter "foo".toList "flag".toList, 2⟩
    committed ∈ (ofText .plain text).log ∧ committed.number = some 2 ∧
      (Lines.ofText text).length = 1 ∧
      ¬∀ record ∈ (ofText .plain text).log,
        1 ≤ record.line ∧ record.line ≤ (Lines.ofText text).length := by
  intro text committed
  have counted : (Lines.ofText text).length = 1 := rfl
  have logged : (ofText .plain text).log = [⟨.openParameter "foo".toList, 1⟩, committed] := rfl
  have written : committed ∈ (ofText .plain text).log := by
    rw [logged]
    exact List.mem_cons_of_mem _ List.mem_cons_self
  refine ⟨written, rfl, counted, ?_⟩
  intro bounded
  have bound := (bounded _ written).2
  rw [counted] at bound
  contradiction

end Manual

end BootManual
