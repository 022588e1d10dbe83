import BootManual.Proofs.Chapters

/-!
# One manual under two policies

A reading that rejects duplicates does the same as one that replaces them, record by
record, until the latter warns of a name that is taken.  There the former ends, and its
error names what the warning names.  This is proved for every step of a reading and
passes from two steps to one after the other, so it holds of whole manuals.
-/

namespace BootManual

/-- Whether a record warns of a duplicate. -/
def Record.IsWarning (record : Record) : Prop :=
  record.notice.level = .warn

/-- No record warns. -/
def IsQuiet (records : List Record) : Prop :=
  ∀ record ∈ records, ¬record.IsWarning

/-- The first item of a kind is where it is: what stands before it, the item itself and
what stands behind it are determined. -/
theorem append_cons_inj_of_first {Item : Type} {kind : Item → Prop}
    {before before' after after' : List Item} {item item' : Item}
    (others : ∀ other ∈ before, ¬kind other) (others' : ∀ other ∈ before', ¬kind other)
    (found : kind item) (found' : kind item')
    (same : before ++ item :: after = before' ++ item' :: after') :
    before = before' ∧ item = item' ∧ after = after' := by
  induction before generalizing before' with
  | nil =>
      cases before' with
      | nil => simpa using same
      | cons first rest =>
          obtain ⟨rfl, -⟩ : item = first ∧ after = rest ++ item' :: after' := by simpa using same
          exact absurd found (others' item List.mem_cons_self)
  | cons first rest inductionHypothesis =>
      cases before' with
      | nil =>
          obtain ⟨rfl, -⟩ : first = item' ∧ rest ++ item :: after = after' := by simpa using same
          exact absurd found' (others first List.mem_cons_self)
      | cons first' rest' =>
          rw [List.forall_mem_cons] at others others'
          obtain ⟨rfl, tails⟩ :
              first = first' ∧ rest ++ item :: after = rest' ++ item' :: after' := by
            simpa using same
          obtain ⟨rfl, rfl, rfl⟩ := inductionHypothesis others.2 others'.2 tails
          exact ⟨rfl, rfl, rfl⟩

/-! ## Attempts -/

namespace Attempt

/-- What becomes of an attempt if duplicates are rejected: nothing changes if it does not
warn, and otherwise it ends in front of its first warning, with an error about the same
name and line. -/
inductive Rejects (file : Option Text) {Value : Type} : Attempt Value → Attempt Value → Prop
  | quiet {log : List Record} {result : Except ParseError Value} (quiet : IsQuiet log) :
      Rejects file ⟨log, result⟩ ⟨log, result⟩
  | warned {before after : List Record} {name : Text} {line : Nat}
      {result : Except ParseError Value} (quiet : IsQuiet before) :
      Rejects file ⟨before ++ ⟨.duplicateName name, line + 1⟩ :: after, result⟩
        ⟨before, .error (.duplicateName name ((Context.mk file .reject).place line))⟩

namespace Rejects

variable {file : Option Text} {First Second : Type}

theorem pure (value : First) : Rejects file (Pure.pure value) (Pure.pure value) :=
  .quiet (by simp [IsQuiet])

theorem fail (error : ParseError) :
    Rejects file (Attempt.fail error : Attempt First) (Attempt.fail error) :=
  .quiet (by simp [IsQuiet])

theorem note (line : Nat) {notice : Notice} (minor : notice.level ≠ .warn) :
    Rejects file (Attempt.note line notice) (Attempt.note line notice) :=
  .quiet (by simpa [IsQuiet, Record.IsWarning] using minor)

/-- Two attempts one after the other: the first warning is in the first one, if that
warns, and otherwise in the second one. -/
theorem bind {first first' : Attempt First} {second second' : First → Attempt Second}
    (begins : Rejects file first first')
    (continues : ∀ value, Rejects file (second value) (second' value)) :
    Rejects file (first >>= second) (first' >>= second') := by
  cases begins with
  | @quiet log result quiet =>
      cases result with
      | error error =>
          rw [bind_of_error rfl, bind_of_error rfl]
          exact .quiet quiet
      | ok value =>
          rw [bind_of_ok rfl, bind_of_ok rfl]
          have later := continues value
          generalize second value = next, second' value = next' at later ⊢
          cases later with
          | quiet quietAfter =>
              exact .quiet (List.forall_mem_append.mpr ⟨quiet, quietAfter⟩)
          | warned quietAfter =>
              simp only [← List.append_assoc]
              exact .warned (List.forall_mem_append.mpr ⟨quiet, quietAfter⟩)
  | @warned before after name line result quiet =>
      cases result with
      | error error =>
          rw [bind_of_error rfl, bind_of_error rfl]
          exact .warned quiet
      | ok value =>
          rw [bind_of_ok rfl, bind_of_error rfl]
          simp only [List.append_assoc, List.cons_append]
          exact .warned quiet

end Rejects

end Attempt

/-! ## Lines -/

section

open Attempt

variable (file : Option Text)

namespace Commit

theorem rejects_duplicate (name : Text) (line : Nat) :
    Rejects file (duplicate ⟨file, .replace⟩ name line)
      (duplicate ⟨file, .reject⟩ name line) := by
  have nothing : IsQuiet [] := by simp [IsQuiet]
  exact .warned nothing

theorem rejects_check {Value : Type} (taken : Bool) (name : Text) (line : Nat) (value : Value) :
    Rejects file
      (do
        if taken then
          duplicate ⟨file, .replace⟩ name line
        pure value)
      (do
        if taken then
          duplicate ⟨file, .reject⟩ name line
        pure value) := by
  cases taken with
  | false => exact .pure value
  | true => exact (rejects_duplicate file name line).bind fun _ => .pure value

theorem rejects_subparameter (line : Nat) (top : OpenParameter) (sub : OpenSubparameter) :
    Rejects file (subparameter ⟨file, .replace⟩ line top sub)
      (subparameter ⟨file, .reject⟩ line top sub) :=
  (Rejects.note line (by nofun)).bind fun _ => rejects_check file ..

theorem rejects_parameter (line : Nat) (entries : Catalogue Entry) (top : OpenParameter) :
    Rejects file (parameter ⟨file, .replace⟩ line entries top)
      (parameter ⟨file, .reject⟩ line entries top) := by
  have notice : (Notice.commitParameter (finished top).name
      (finished top).format.marker).level ≠ .warn := by nofun
  have committed := (Rejects.note line notice).bind fun _ =>
    rejects_check file (entries.contains (finished top).name) (finished top).name top.line
      (finished top)
  unfold parameter
  split
  · exact (Rejects.note line (by nofun)).bind fun _ => committed
  · exact committed

theorem rejects_insertion (line : Nat) (entries : Catalogue Entry) (top : OpenParameter) :
    Rejects file (insertion ⟨file, .replace⟩ line entries top)
      (insertion ⟨file, .reject⟩ line entries top) :=
  (rejects_parameter file line entries top).bind fun _ => .pure _

theorem rejects_everything (line : Nat) (entries : Catalogue Entry) (state : State) :
    Rejects file (everything ⟨file, .replace⟩ line entries state)
      (everything ⟨file, .reject⟩ line entries state) := by
  cases state with
  | idle => exact .pure entries
  | parameter top => exact rejects_insertion file line entries top
  | subparameter top sub =>
      exact (rejects_subparameter file line top sub).bind (rejects_insertion file line entries)

end Commit

namespace Reader

theorem rejects_openEntry (line : Nat) (text : Text) :
    Rejects file (openEntry ⟨file, .replace⟩ line text) (openEntry ⟨file, .reject⟩ line text) := by
  unfold openEntry
  split
  · exact .pure _
  · exact .fail _

theorem rejects_openParameter (line : Nat) (text : Text) :
    Rejects file (openParameter ⟨file, .replace⟩ line text)
      (openParameter ⟨file, .reject⟩ line text) :=
  (rejects_openEntry file line text).bind fun _ =>
    (Rejects.note line (by nofun)).bind fun _ => .pure _

theorem rejects_openSubparameter (line : Nat) (top : OpenParameter) (text : Text) :
    Rejects file (openSubparameter ⟨file, .replace⟩ line top text)
      (openSubparameter ⟨file, .reject⟩ line top text) :=
  (rejects_openEntry file line text).bind fun _ =>
    (Rejects.note line (by nofun)).bind fun _ => .pure _

theorem rejects_extendParameter (line : Nat) (top : OpenParameter) (text : Text) :
    Rejects file (extendParameter line top text) (extendParameter line top text) := by
  unfold extendParameter
  generalize top.draft.absorb text = absorbed
  obtain ⟨outcome, draft⟩ := absorbed
  have noted : Rejects file (noteIfAny line (noticeOf outcome draft.entry))
      (noteIfAny line (noticeOf outcome draft.entry)) := by
    cases outcome with
    | blockOpened => exact .note line (by nofun)
    | values => exact .note line (by nofun)
    | format => exact .pure ()
    | blockContinued => exact .pure ()
    | description => exact .pure ()
  exact noted.bind fun _ => .pure _

theorem rejects_route (count : Nat) (raw : Text) (line : Line) (state : State) :
    Rejects file (route ⟨file, .replace⟩ count raw line state)
      (route ⟨file, .reject⟩ count raw line state) := by
  unfold route
  split
  · exact .pure _
  · exact .pure _
  · exact (rejects_openSubparameter file ..).bind fun _ => .pure _
  · exact (Commit.rejects_subparameter file ..).bind fun _ =>
      (rejects_openSubparameter file ..).bind fun _ => .pure _
  · exact (Rejects.note count (by nofun)).bind fun _ => .pure _
  · exact rejects_extendParameter file ..
  · exact .pure _
  · exact (Rejects.note count (by nofun)).bind fun _ => .pure _
  · split
    · exact (Rejects.note count (by nofun)).bind fun _ => .pure _
    · exact .pure _
  · exact .pure _

theorem rejects_advance (state : State) (entries : Catalogue Entry) (count : Nat) (line : Text) :
    Rejects file ((Reader.mk ⟨file, .replace⟩ state entries count).advance line)
      ((Reader.mk ⟨file, .reject⟩ state entries count).advance line) := by
  unfold advance
  dsimp only
  split
  · exact (Commit.rejects_everything file ..).bind fun _ =>
      (rejects_openParameter file ..).bind fun _ => .pure _
  · exact (rejects_route file ..).bind fun _ => .pure _

/-! ## Manuals -/

theorem rejects_readFrom (entries : Catalogue Entry) (state : State) (count : Nat)
    (lines : List Text) :
    Rejects file (readFrom ⟨file, .replace⟩ entries state count lines)
      (readFrom ⟨file, .reject⟩ entries state count lines) := by
  induction lines generalizing entries state count with
  | nil => exact Commit.rejects_everything file count entries state
  | cons line rest inductionHypothesis =>
      exact (rejects_advance file state entries count line).bind fun next =>
        inductionHypothesis next.1 next.2 (count + 1)

end Reader

end

/-- A listener at the finest level hears everything. -/
theorem LogLevel.heard_trace (records : List Record) : trace.heard records = records := by
  rw [heard, List.filter_eq_self]
  intro record _
  cases record.notice <;> rfl

namespace Manual

/-- Whether duplicates are rejected makes no difference up to the first of them.  If
later entries replace earlier ones without a warning, the manual is read in the same way
where duplicates are rejected.  If there is a warning, rejecting ends in front of it,
with an error that names what the first warning names and points to its line, and so to
the number that a listener is told. -/
theorem reject_agrees_up_to_warning (file : Option Text) (text : Text) :
    let replacing := ofText ⟨file, .replace⟩ text
    let rejecting := ofText ⟨file, .reject⟩ text
    let replacingLog := LogLevel.trace.heard replacing.log
    let rejectingLog := LogLevel.trace.heard rejecting.log
    let place (number : Nat) := " at line ".toList ++ Text.ofNat number ++
      match file with
      | none => []
      | some name => " of <".toList ++ name ++ ">".toList
    (IsQuiet replacingLog →
      (∃ entries, replacing.result = .ok entries ∧ rejecting.result = .ok entries) ∧
        rejectingLog = replacingLog) ∧
    ∀ before warning after, replacingLog = before ++ warning :: after → IsQuiet before →
      warning.IsWarning →
        ∃ name, warning.notice.message =
            "duplicate parameter ".toList ++ name ++ ", keeping the later one".toList ∧
          rejecting.result = .error (.duplicateName name (place warning.line)) ∧
          (∀ number ∈ warning.number,
            rejecting.result = .error (.duplicateName name (place number))) ∧
          rejectingLog = before := by
  intro replacing rejecting replacingLog rejectingLog place
  have replaced : ∃ entries, replacing.result = .ok entries :=
    ⟨_, result_ofLines_of_replace rfl _⟩
  have rejects : Attempt.Rejects file replacing rejecting := by
    simp only [replacing, rejecting, ofText, ofLines, Reader.conclude_feedAll]
    exact Reader.rejects_readFrom file Catalogue.empty .idle 0 (Lines.ofText text)
  simp only [replacingLog, rejectingLog, LogLevel.heard_trace]
  generalize replacing = first, rejecting = second at replaced rejects
  cases rejects with
  | quiet quiet =>
      constructor
      · intro _
        obtain ⟨entries, same⟩ := replaced
        exact ⟨⟨entries, same, same⟩, rfl⟩
      · rintro before warning after rfl - warns
        exact absurd warns (quiet warning (by simp))
  | @warned front back name line result quiet =>
      have warns : (Record.mk (.duplicateName name) (line + 1)).IsWarning := rfl
      constructor
      · intro silent
        exact absurd warns (silent _ (by simp))
      · intro before warning after same quietBefore warnsToo
        obtain ⟨rfl, rfl, rfl⟩ :=
          append_cons_inj_of_first quiet quietBefore warns warnsToo same
        have placed : (Context.mk file .reject).place line = place (line + 1) := by
          cases file with
          | none => simp [Context.place, place]
          | some name => simp [Context.place, place]
        refine ⟨name, rfl, by rw [placed], ?_, rfl⟩
        intro number told
        obtain ⟨rfl, -⟩ := Record.mem_number_iff.mp told
        rw [placed]

/-- A sub-parameter and then a parameter occur twice.  Both are warned about, and the
first of them is where rejecting ends. -/
theorem reject_agrees_up_to_repeated_subparameter :
    let text := "\ta\n\t\tb\n\n\t\tb\n\ta\n".toList
    let replacingLog := LogLevel.trace.heard (ofText ⟨some "x".toList, .replace⟩ text).log
    let rejecting := ofText ⟨some "x".toList, .reject⟩ text
    let warning : Record := ⟨.duplicateName "a.b".toList, 4⟩
    let before : List Record :=
      [⟨.openParameter "a".toList, 1⟩, ⟨.openSubparameter "a.b".toList, 2⟩,
        ⟨.commitSubparameter "a.b".toList, 4⟩, ⟨.openSubparameter "a.b".toList, 4⟩,
        ⟨.commitSubparameter "a.b".toList, 5⟩]
    let after : List Record :=
      [⟨.commitParameter "a".toList "complex".toList, 5⟩, ⟨.openParameter "a".toList, 5⟩,
        ⟨.commitParameter "a".toList "flag".toList, 6⟩, ⟨.duplicateName "a".toList, 5⟩]
    replacingLog = before ++ warning :: after ∧ warning.number = some 4 ∧
      rejecting.result = .error (.duplicateName "a.b".toList " at line 4 of <x>".toList) ∧
      LogLevel.trace.heard rejecting.log = before := by
  intro text replacingLog rejecting warning before after
  have logged : LogLevel.trace.heard (ofText ⟨some "x".toList, .replace⟩ text).log =
      before ++ warning :: after := rfl
  have quiet : IsQuiet before := by simp [before, IsQuiet, Record.IsWarning, Notice.level]
  have warns : warning.IsWarning := rfl
  have told : warning.number = some 4 := rfl
  have agreement := (reject_agrees_up_to_warning (some "x".toList) text).2
  obtain ⟨name, message, -, result, log⟩ := agreement before _ after logged quiet warns
  have same : "duplicate parameter ".toList ++ "a.b".toList ++ ", keeping the later one".toList =
      "duplicate parameter ".toList ++ name ++ ", keeping the later one".toList := message
  obtain rfl := List.append_cancel_left (List.append_cancel_right same)
  exact ⟨logged, told, result 4 told, log⟩

end Manual

end BootManual
