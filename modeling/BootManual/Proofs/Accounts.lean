import BootManual.Proofs.Policies

/-!
# What is reported of entries

A reading reports when it opens an entry and when it commits one, and it warns of names
that are taken.  Where later entries replace earlier ones every step of a reading comes to
a value, and its report is known: a header commits what it ends, the innermost entry
first, before it opens its own entry, and no other line reports anything of the kind.
-/

namespace BootManual

/-- Whether a notice says that an entry is opened or committed. -/
def Notice.isStep : Notice → Bool
  | openParameter _ => true
  | openSubparameter _ => true
  | commitParameter _ _ => true
  | commitSubparameter _ => true
  | _ => false

instance : DecidablePred Record.IsWarning := fun record =>
  inferInstanceAs (Decidable (record.notice.level = .warn))

namespace Attempt

/-- An attempt comes to a value, and reports these steps and these warnings. -/
structure Reports {Value : Type} (attempt : Attempt Value) (value : Value)
    (steps : List Notice) (warnings : List Record) : Prop where
  result : attempt.result = .ok value
  steps : (attempt.log.map Record.notice).filter Notice.isStep = steps
  warnings : attempt.log.filter (fun record => record.IsWarning) = warnings

namespace Reports

variable {First Second : Type}

theorem pure (value : First) : Reports (Pure.pure value) value [] [] :=
  ⟨rfl, rfl, rfl⟩

theorem note (line : Nat) (notice : Notice) :
    Reports (Attempt.note line notice) () ([notice].filter Notice.isStep)
      ([⟨notice, line + 1⟩].filter (fun record => record.IsWarning)) :=
  ⟨rfl, rfl, rfl⟩

/-- Attempts one after the other report one after the other. -/
theorem bind {first : Attempt First} {second : First → Attempt Second} {value : First}
    {next : Second} {steps moreSteps : List Notice} {warnings moreWarnings : List Record}
    (begins : first.Reports value steps warnings)
    (continues : (second value).Reports next moreSteps moreWarnings) :
    (first >>= second).Reports next (steps ++ moreSteps) (warnings ++ moreWarnings) := by
  rw [bind_of_ok begins.result]
  refine ⟨continues.result, ?_, ?_⟩
  · rw [List.map_append, List.filter_append, begins.steps, continues.steps]
  · rw [List.filter_append, begins.warnings, continues.warnings]

/-- Handing a value on in another form reports nothing. -/
theorem use {attempt : Attempt First} {value : First} {steps : List Notice}
    {warnings : List Record} (reports : attempt.Reports value steps warnings)
    (form : First → Second) :
    (attempt >>= fun value => Pure.pure (form value)).Reports (form value) steps warnings := by
  rw [bind_of_ok reports.result, log_pure, List.append_nil]
  exact ⟨rfl, reports.steps, reports.warnings⟩

end Reports

end Attempt

section

open Attempt

variable (file : Option Text)

/-! ## Committing -/

namespace Commit

/-- The warning that is due if a name is taken. -/
def warning (taken : Bool) (label : Text) (line : Nat) : List Record :=
  if taken then [⟨.duplicateName label, line + 1⟩] else []

theorem reports_check {Value : Type} (taken : Bool) (label : Text) (line : Nat) (value : Value) :
    Reports
      (do
        if taken then
          duplicate ⟨file, .replace⟩ label line
        pure value)
      value [] (warning taken label line) := by
  cases taken with
  | false => exact .pure value
  | true => exact (Reports.note line (.duplicateName label)).bind (.pure value)

theorem reports_subparameter (line : Nat) (top : OpenParameter) (sub : OpenSubparameter) :
    Reports (subparameter ⟨file, .replace⟩ line top sub)
      (top.insertChild (dropLeadingBreaks sub.entry))
      [.commitSubparameter (qualify top.name sub.entry.name)]
      (warning (top.children.contains sub.entry.name) (qualify top.name sub.entry.name)
        sub.line) :=
  (Reports.note line (.commitSubparameter (qualify top.name sub.entry.name))).bind
    (reports_check file ..)

theorem reports_parameter (line : Nat) (entries : Catalogue Entry) (top : OpenParameter) :
    Reports (parameter ⟨file, .replace⟩ line entries top) (finished top)
      [.commitParameter top.name (finished top).format.marker]
      (warning (entries.contains top.name) top.name top.line) := by
  have reported : Reports (parameter ⟨file, .replace⟩ line entries top) (finished top)
      [.commitParameter (finished top).name (finished top).format.marker]
      (warning (entries.contains (finished top).name) (finished top).name top.line) := by
    unfold parameter
    split
    · exact (Reports.note line (.unterminatedBlock top.name)).bind
        ((Reports.note line _).bind (reports_check file ..))
    · exact (Reports.note line _).bind (reports_check file ..)
  rwa [name_finished] at reported

theorem reports_insertion (line : Nat) (entries : Catalogue Entry) (top : OpenParameter) :
    Reports (insertion ⟨file, .replace⟩ line entries top) (entries.insert (finished top))
      [.commitParameter top.name (finished top).format.marker]
      (warning (entries.contains top.name) top.name top.line) :=
  (reports_parameter file line entries top).use entries.insert

/-- What is committed before a header of a parameter, and at the end. -/
def closed (entries : Catalogue Entry) : State → Catalogue Entry
  | .idle => entries
  | .parameter top => entries.insert (finished top)
  | .subparameter top sub =>
    entries.insert (finished (top.insertChild (dropLeadingBreaks sub.entry)))

/-- The steps that are reported then. -/
def closingSteps : State → List Notice
  | .idle => []
  | .parameter top => [.commitParameter top.name (finished top).format.marker]
  | .subparameter top sub =>
    [.commitSubparameter (qualify top.name sub.entry.name),
      .commitParameter top.name
        (finished (top.insertChild (dropLeadingBreaks sub.entry))).format.marker]

/-- The warnings that are due then. -/
def closingWarnings (entries : Catalogue Entry) : State → List Record
  | .idle => []
  | .parameter top => warning (entries.contains top.name) top.name top.line
  | .subparameter top sub =>
    warning (top.children.contains sub.entry.name) (qualify top.name sub.entry.name) sub.line ++
      warning (entries.contains top.name) top.name top.line

theorem reports_everything (line : Nat) (entries : Catalogue Entry) (state : State) :
    Reports (everything ⟨file, .replace⟩ line entries state) (closed entries state)
      (closingSteps state) (closingWarnings entries state) := by
  cases state with
  | idle => exact .pure entries
  | parameter top => exact reports_insertion file line entries top
  | subparameter top sub =>
      exact (reports_subparameter file line top sub).bind (reports_insertion file line entries _)

end Commit

/-! ## Lines -/

namespace Reader

theorem reports_openEntry (line : Nat) {text : Text} (starts : Line.startsName text) :
    Reports (openEntry ⟨file, .replace⟩ line text) (entryOfText text) [] [] := by
  rcases Header.exists_read? starts with ⟨header, found, -⟩
  simp only [openEntry, entryOfText, found]
  exact .pure (entryOfHeader header)

theorem reports_openParameter (line : Nat) {text : Text} (starts : Line.startsName text) :
    Reports (openParameter ⟨file, .replace⟩ line text) ⟨Draft.start (entryOfText text), line⟩
      [.openParameter (entryOfText text).name] [] :=
  (reports_openEntry file line starts).bind ((Reports.note line _).use _)

theorem reports_openSubparameter (line : Nat) (top : OpenParameter) {text : Text}
    (starts : Line.startsName text) :
    Reports (openSubparameter ⟨file, .replace⟩ line top text) ⟨entryOfText text, line⟩
      [.openSubparameter (Commit.qualify top.name (entryOfText text).name)] [] :=
  (reports_openEntry file line starts).bind ((Reports.note line _).use _)

theorem reports_extendParameter (line : Nat) (top : OpenParameter) (text : Text) :
    Reports (extendParameter line top text)
      (.parameter { top with draft := (top.draft.absorb text).2 }) [] [] := by
  unfold extendParameter
  rcases top.draft.absorb text with ⟨outcome, draft⟩
  have noted : Reports (noteIfAny line (noticeOf outcome draft.entry)) () [] [] := by
    cases outcome with
    | blockOpened => exact .note line .blockOpened
    | values => exact .note line (.valuesRead _ _)
    | format => exact .pure ()
    | blockContinued => exact .pure ()
    | description => exact .pure ()
  exact noted.bind (.pure _)

variable {line text : Text}

/-- A header of a parameter is opened after everything open has been committed. -/
theorem reports_advance_of_topHeader (role : Line.classify line = .topHeader text)
    (entries : Catalogue Entry) (state : State) (count : Nat) :
    Reports ((Reader.mk ⟨file, .replace⟩ state entries count).advance line)
      (Commit.closed entries state, .parameter ⟨Draft.start (entryOfText text), count⟩)
      (Commit.closingSteps state ++ [.openParameter (entryOfText text).name])
      (Commit.closingWarnings entries state) := by
  have opened := reports_openParameter file count (Line.startsName_of_topHeader role)
  rw [← List.append_nil (Commit.closingWarnings entries state)]
  unfold advance
  simp only [role]
  exact (Commit.reports_everything file count entries state).bind (opened.bind (.pure _))

section

variable (role : Line.classify line = .nestedHeader text) (entries : Catalogue Entry)
  (count : Nat)

include role

theorem reports_advance_of_idle :
    Reports ((Reader.mk ⟨file, .replace⟩ .idle entries count).advance line)
      (entries, .idle) [] [] := by
  have routed : Reports (route ⟨file, .replace⟩ count line (.nestedHeader text) .idle) .idle
      [] [] :=
    (Reports.note count (.strayHeader text)).use fun _ => State.idle
  unfold advance
  simp only [role]
  exact routed.use fun state => (entries, state)

/-- The header of a first sub-parameter commits nothing. -/
theorem reports_advance_of_parameter (top : OpenParameter) :
    Reports ((Reader.mk ⟨file, .replace⟩ (.parameter top) entries count).advance line)
      (entries, .subparameter top ⟨entryOfText text, count⟩)
      [.openSubparameter (Commit.qualify top.name (entryOfText text).name)] [] := by
  have opened := reports_openSubparameter file count top (Line.startsName_of_nestedHeader role)
  unfold advance
  simp only [role]
  exact (opened.use fun sub => State.subparameter top sub).use fun state => (entries, state)

/-- The header of a further sub-parameter is opened after the one before it has been
committed. -/
theorem reports_advance_of_subparameter (top : OpenParameter) (sub : OpenSubparameter) :
    Reports ((Reader.mk ⟨file, .replace⟩ (.subparameter top sub) entries count).advance line)
      (entries, .subparameter (top.insertChild (Commit.dropLeadingBreaks sub.entry))
        ⟨entryOfText text, count⟩)
      [.commitSubparameter (Commit.qualify top.name sub.entry.name),
        .openSubparameter (Commit.qualify top.name (entryOfText text).name)]
      (Commit.warning (top.children.contains sub.entry.name)
        (Commit.qualify top.name sub.entry.name) sub.line) := by
  have committed := Commit.reports_subparameter file count top sub
  have opened := reports_openSubparameter file count
    (top.insertChild (Commit.dropLeadingBreaks sub.entry)) (Line.startsName_of_nestedHeader role)
  have routed : Reports
      (route ⟨file, .replace⟩ count line (.nestedHeader text) (.subparameter top sub))
      (.subparameter (top.insertChild (Commit.dropLeadingBreaks sub.entry))
        ⟨entryOfText text, count⟩) _ _ :=
    committed.bind (opened.use fun opened => State.subparameter _ opened)
  rw [List.append_nil] at routed
  unfold advance
  simp only [role]
  exact routed.use fun state => (entries, state)

end

theorem reports_route (count : Nat) (state : State)
    (plain : (Line.classify line).isHeader = false) :
    Reports (route ⟨file, .replace⟩ count line (Line.classify line) state) (state.hear line)
      [] [] := by
  cases kind : Line.classify line with
  | topHeader text => simp [kind, Line.isHeader, Line.isTopHeader] at plain
  | nestedHeader text => simp [kind, Line.isHeader, Line.isNestedHeader] at plain
  | blank =>
      cases state with
      | idle => exact .pure _
      | parameter top =>
          simp only [State.hear, Draft.hear, kind]
          exact .pure _
      | subparameter top sub =>
          simp only [State.hear, OpenSubparameter.hear, kind]
          exact .pure _
  | continuation depth text =>
      cases state with
      | idle => cases depth <;> exact .pure _
      | parameter top =>
          simp only [State.hear, Draft.hear, kind]
          cases depth with
          | three => exact reports_extendParameter count top text
          | four => exact (Reports.note count (.dropped text)).bind (.pure _)
      | subparameter top sub =>
          simp only [State.hear, OpenSubparameter.hear, kind]
          cases depth <;> exact .pure _
  | ignored =>
      have unheard : state.hear line = state := by
        cases state <;> simp only [State.hear, Draft.hear, OpenSubparameter.hear, kind]
      have noted : Reports
          (do
            if !(Text.trim line).isEmpty then
              note count .ignoredLine
            Pure.pure state)
          state [] [] := by
        cases (Text.trim line).isEmpty with
        | true => exact .pure state
        | false => exact (Reports.note count .ignoredLine).bind (.pure state)
      rw [unheard]
      cases state <;> exact noted

/-- Any line that is no header is heard, and nothing is opened or committed. -/
theorem reports_advance_of_plain (plain : (Line.classify line).isHeader = false)
    (entries : Catalogue Entry) (state : State) (count : Nat) :
    Reports ((Reader.mk ⟨file, .replace⟩ state entries count).advance line)
      (entries, state.hear line) [] [] := by
  have routed := reports_route file count state plain
  unfold advance
  split
  · next text kind => simp [kind, Line.isHeader, Line.isTopHeader] at plain
  · exact routed.bind (.pure _)

end Reader

end

end BootManual
