import BootManual.Proofs.Accounts
import BootManual.Proofs.Locations

/-!
# The ledger of a manual

Where later entries replace earlier ones, every header of a parameter opens an entry that
is committed at the next such header or at the end, and every header of a sub-parameter
in a chapter one that is committed at the next header or at the end.  So the reports of a
manual are those of its chapters one after another, and every header leaves an entry or a
warning.
-/

namespace BootManual

open Attempt Outline

/-! ## Chapters in the ledger -/

/-- The open parameter after some sub-parameters have been committed to it. -/
def OpenParameter.fill (top : OpenParameter) (subs : List OpenSubparameter) : OpenParameter :=
  subs.foldl (fun top sub => top.insertChild (Commit.dropLeadingBreaks sub.entry)) top

theorem OpenParameter.fill_eq (top : OpenParameter) (subs : List OpenSubparameter) :
    top.fill subs = top.withChildren
      (top.children.insertAll (subs.map fun sub => Commit.dropLeadingBreaks sub.entry)) := by
  induction subs generalizing top with
  | nil =>
      rcases top with ⟨⟨⟨_, _, _, _, _⟩, _⟩, _⟩
      rfl
  | cons sub rest inductionHypothesis =>
      exact inductionHypothesis (top.insertChild (Commit.dropLeadingBreaks sub.entry))

/-- What is open after some sub-parameters have been committed. -/
def OpenParameter.ended (top : OpenParameter) (subs : List OpenSubparameter) : State :=
  .parameter (top.fill subs)

namespace Commit

/-- The steps of sub-parameters, each of which is committed before the next is opened. -/
def subparameterSteps (parameter : Text) (subs : List OpenSubparameter) : List Notice :=
  subs.flatMap fun sub =>
    [.openSubparameter (qualify parameter sub.entry.name),
      .commitSubparameter (qualify parameter sub.entry.name)]

/-- The warnings about sub-parameters that are committed in order. -/
def subparameterWarnings (top : OpenParameter) : List OpenSubparameter → List Record
  | [] => []
  | sub :: rest =>
    warning (top.children.contains sub.entry.name) (qualify top.name sub.entry.name) sub.line ++
      subparameterWarnings (top.insertChild (dropLeadingBreaks sub.entry)) rest

end Commit

namespace Chapter

/-- The steps of a chapter: its sub-parameters stand between its opening and its end. -/
def steps (chapter : Chapter) : List Notice :=
  .openParameter chapter.top.name ::
    (Commit.subparameterSteps chapter.top.name chapter.subs ++
      [.commitParameter chapter.top.name chapter.entry.format.marker])

/-- The warnings about a chapter behind others. -/
def warnings (entries : Catalogue Entry) (chapter : Chapter) : List Record :=
  Commit.subparameterWarnings chapter.top chapter.subs ++
    Commit.warning (entries.contains chapter.top.name) chapter.top.name chapter.top.line

/-- The warnings about chapters that are entered in order. -/
def allWarnings (entries : Catalogue Entry) : List Chapter → List Record
  | [] => []
  | chapter :: rest =>
    chapter.warnings entries ++ allWarnings (entries.insert chapter.entry) rest

theorem finished_fill (chapter : Chapter) :
    Commit.finished (chapter.top.fill chapter.subs) = chapter.entry := by
  rw [OpenParameter.fill_eq, chapter.fresh]
  rfl

variable (entries : Catalogue Entry) (chapter : Chapter)

/-- What is committed at the end of a chapter is its entry. -/
theorem closed_ended :
    Commit.closed entries (chapter.top.ended chapter.subs) = entries.insert chapter.entry := by
  rw [OpenParameter.ended, Commit.closed, finished_fill]

theorem closingSteps_ended :
    Commit.closingSteps (chapter.top.ended chapter.subs) =
      [.commitParameter chapter.top.name chapter.entry.format.marker] := by
  rw [OpenParameter.ended, Commit.closingSteps, finished_fill, OpenParameter.fill_eq]
  rfl

theorem closingWarnings_ended :
    Commit.closingWarnings entries (chapter.top.ended chapter.subs) =
      Commit.warning (entries.contains chapter.top.name) chapter.top.name chapter.top.line := by
  rw [OpenParameter.ended, Commit.closingWarnings, OpenParameter.fill_eq]
  rfl

end Chapter

/-! ## Reading the ledger -/

namespace Reader

/-- Read numbered lines to the end, records included. -/
def recite (context : Context) (entries : Catalogue Entry) (state : State) (last : Nat) :
    List NumberedLine → Attempt (Catalogue Entry)
  | [] => Commit.everything context last entries state
  | line :: rest => do
    let next ← (Reader.mk context state entries line.2).advance line.1
    recite context next.1 next.2 last rest

theorem readFrom_eq_recite (context : Context) (entries : Catalogue Entry) (state : State)
    (count : Nat) (lines : List Text) :
    readFrom context entries state count lines =
      recite context entries state (count + lines.length) (lines.zipIdx count) := by
  induction lines generalizing entries state count with
  | nil => rfl
  | cons line rest inductionHypothesis =>
      have next : count + (line :: rest).length = count + 1 + rest.length := by
        rw [List.length_cons, Nat.add_assoc, Nat.add_comm 1]
      rw [readFrom, List.zipIdx_cons, recite, next]
      simp only [inductionHypothesis]

variable {file : Option Text} {entries value : Catalogue Entry} {last : Nat}
  {steps moreSteps : List Notice} {warnings : List Record}

theorem reports_cons {line : NumberedLine} {rest : List NumberedLine} {state : State}
    {next : Catalogue Entry × State} {moreWarnings : List Record}
    (advanced : ((Reader.mk ⟨file, .replace⟩ state entries line.2).advance line.1).Reports next
      steps warnings)
    (later : (recite ⟨file, .replace⟩ next.1 next.2 last rest).Reports value moreSteps
      moreWarnings) :
    (recite ⟨file, .replace⟩ entries state last (line :: rest)).Reports value
      (steps ++ moreSteps) (warnings ++ moreWarnings) :=
  advanced.bind later

/-- Lines that are no headers are heard by what is open, and report nothing. -/
theorem reports_append_of_plain {body rest : List NumberedLine} {state : State}
    (plain : ∀ line ∈ body, (Line.classify line.1).isHeader = false)
    (reports : (recite ⟨file, .replace⟩ entries
      ((body.map Prod.fst).foldl (fun state line => state.hear line) state) last rest).Reports
        value steps warnings) :
    (recite ⟨file, .replace⟩ entries state last (body ++ rest)).Reports value steps warnings := by
  induction body generalizing state with
  | nil => exact reports
  | cons line others inductionHypothesis =>
      rw [List.forall_mem_cons] at plain
      exact reports_cons (reports_advance_of_plain file plain.1 entries state line.2)
        (inductionHypothesis plain.2 reports)

/-- Numbered lines commit whatever is open in front of them, and then report steps and
warnings of their own. -/
def Closes (file : Option Text) (last : Nat) (rest : List NumberedLine)
    (final : Catalogue Entry → Catalogue Entry) (steps : List Notice)
    (warnings : Catalogue Entry → List Record) : Prop :=
  ∀ entries state,
    (recite ⟨file, .replace⟩ entries state last rest).Reports
      (final (Commit.closed entries state)) (Commit.closingSteps state ++ steps)
      (Commit.closingWarnings entries state ++ warnings (Commit.closed entries state))

section

variable {rest : List NumberedLine} {final : Catalogue Entry → Catalogue Entry}
  {moreWarnings : Catalogue Entry → List Record}
  (closes : Closes file last rest final moreSteps moreWarnings) (entries : Catalogue Entry)

include closes

/-- Sections that follow an open sub-parameter are committed one by one, if what follows
them commits whatever is open. -/
theorem reports_sections (top : OpenParameter) (sub : OpenSubparameter)
    {parts : List (NumberedLine × List NumberedLine)}
    (opens : ∀ part ∈ parts, opensSection part.1)
    (plain : ∀ part ∈ parts, ∀ line ∈ part.2, (Line.classify line.1).isHeader = false) :
    (recite ⟨file, .replace⟩ entries (.subparameter top sub) last (joinParts parts ++ rest)).Reports
      (final (Commit.closed entries (top.ended (sub :: parts.map subparameterOf))))
      (.commitSubparameter (Commit.qualify top.name sub.entry.name) ::
        (Commit.subparameterSteps top.name (parts.map subparameterOf) ++
          (Commit.closingSteps (top.ended (sub :: parts.map subparameterOf)) ++ moreSteps)))
      (Commit.subparameterWarnings top (sub :: parts.map subparameterOf) ++
        (Commit.closingWarnings entries (top.ended (sub :: parts.map subparameterOf)) ++
          moreWarnings (Commit.closed entries (top.ended (sub :: parts.map subparameterOf))))) := by
  induction parts generalizing top sub with
  | nil =>
      have alone : Commit.subparameterWarnings top [sub] =
          Commit.warning (top.children.contains sub.entry.name)
            (Commit.qualify top.name sub.entry.name) sub.line :=
        List.append_nil _
      have closed := closes entries (.subparameter top sub)
      rw [Commit.closingWarnings, List.append_assoc] at closed
      rw [List.map_nil, alone]
      exact closed
  | cons part others inductionHypothesis =>
      rw [List.forall_mem_cons] at opens plain
      have advanced := reports_advance_of_subparameter file
        (Line.isNestedHeader_iff.mp opens.1) entries part.1.2 top sub
      have named : (entryOfText (Line.classify part.1.1).headerText).name =
          (subparameterOf part).entry.name := (name_subparameterOf part).symm
      have later := inductionHypothesis (top.insertChild (Commit.dropLeadingBreaks sub.entry))
        (subparameterOf part) opens.2 plain.2
      have heard := reports_append_of_plain plain.1 (foldl_hear_subparameter .. ▸ later)
      rw [named] at advanced
      have whole := reports_cons advanced heard
      rw [joinParts_cons, List.cons_append, List.append_assoc, List.map_cons,
        Commit.subparameterWarnings, List.append_assoc]
      exact whole

/-- Sections that follow an open parameter are opened and committed one by one. -/
theorem reports_body (top : OpenParameter) {parts : List (NumberedLine × List NumberedLine)}
    (opens : ∀ part ∈ parts, opensSection part.1)
    (plain : ∀ part ∈ parts, ∀ line ∈ part.2, (Line.classify line.1).isHeader = false) :
    (recite ⟨file, .replace⟩ entries (.parameter top) last (joinParts parts ++ rest)).Reports
      (final (Commit.closed entries (top.ended (parts.map subparameterOf))))
      (Commit.subparameterSteps top.name (parts.map subparameterOf) ++
        (Commit.closingSteps (top.ended (parts.map subparameterOf)) ++ moreSteps))
      (Commit.subparameterWarnings top (parts.map subparameterOf) ++
        (Commit.closingWarnings entries (top.ended (parts.map subparameterOf)) ++
          moreWarnings (Commit.closed entries (top.ended (parts.map subparameterOf))))) := by
  cases parts with
  | nil => exact closes entries (.parameter top)
  | cons part others =>
      rw [List.forall_mem_cons] at opens plain
      have advanced := reports_advance_of_parameter file
        (Line.isNestedHeader_iff.mp opens.1) entries part.1.2 top
      have named : (entryOfText (Line.classify part.1.1).headerText).name =
          (subparameterOf part).entry.name := (name_subparameterOf part).symm
      have later := reports_sections closes entries top (subparameterOf part) opens.2 plain.2
      have heard := reports_append_of_plain plain.1 (foldl_hear_subparameter .. ▸ later)
      rw [named] at advanced
      have whole := reports_cons advanced heard
      rw [joinParts_cons, List.cons_append, List.append_assoc, List.map_cons]
      exact whole

/-- A chapter is opened, filled and committed, if what follows it commits whatever is
open. -/
theorem reports_chapter (header : NumberedLine) {body : List NumberedLine}
    (quiet : ∀ line ∈ body, opensChapter line = false) :
    (recite ⟨file, .replace⟩ entries (.parameter ⟨Draft.start (entryAt header.1), header.2⟩) last
        (body ++ rest)).Reports
      (final (entries.insert (chapterOf (header, body)).entry))
      (Commit.subparameterSteps (chapterOf (header, body)).top.name
          (chapterOf (header, body)).subs ++
        (.commitParameter (chapterOf (header, body)).top.name
          (chapterOf (header, body)).entry.format.marker :: moreSteps))
      ((chapterOf (header, body)).warnings entries ++
        moreWarnings (entries.insert (chapterOf (header, body)).entry)) := by
  have joined := (cutBefore_spec opensSection body).1
  have isCut := isCut_cutBefore quiet
  have drafted : ((cutBefore opensSection body).1.map Prod.fst).foldl
      (fun state line => state.hear line)
      (State.parameter ⟨Draft.start (entryAt header.1), header.2⟩) =
        .parameter (chapterOf (header, body)).top :=
    foldl_hear_parameter ..
  have whole := reports_body closes entries (chapterOf (header, body)).top isCut.opens isCut.plain
  rw [← drafted] at whole
  have heard := reports_append_of_plain isCut.own whole
  have ended := Chapter.closed_ended entries (chapterOf (header, body))
  have committed := Chapter.closingSteps_ended (chapterOf (header, body))
  have warned := Chapter.closingWarnings_ended entries (chapterOf (header, body))
  rw [← List.append_assoc, joined] at heard
  rw [← ended, Chapter.warnings, ← warned, List.append_assoc, ← List.singleton_append, ← committed]
  exact heard

end

/-- Chapters are opened, filled and committed one after another. -/
theorem closes_joinParts (file : Option Text) (last : Nat)
    {parts : List (NumberedLine × List NumberedLine)}
    (isParts : ∀ part ∈ parts, IsPart opensChapter part) :
    Closes file last (joinParts parts)
      (fun entries => entries.insertAll (parts.map fun part => (chapterOf part).entry))
      ((parts.map chapterOf).flatMap Chapter.steps)
      (fun entries => Chapter.allWarnings entries (parts.map chapterOf)) := by
  induction parts with
  | nil =>
      intro entries state
      have closed := Commit.reports_everything file last entries state
      rwa [← List.append_nil (Commit.closingSteps state),
        ← List.append_nil (Commit.closingWarnings entries state)] at closed
  | cons part others inductionHypothesis =>
      intro entries state
      rw [List.forall_mem_cons] at isParts
      have advanced := reports_advance_of_topHeader file
        (Line.isTopHeader_iff.mp isParts.1.head) entries state part.1.2
      have named : (entryOfText (Line.classify part.1.1).headerText).name =
          (chapterOf part).top.name := (name_chapterOf part).symm
      have later := reports_chapter (inductionHypothesis isParts.2)
        (Commit.closed entries state) part.1 isParts.1.body
      rw [named] at advanced
      have whole := reports_cons advanced later
      simpa only [joinParts_cons, List.map_cons, List.flatMap_cons, Catalogue.insertAll_cons,
        Chapter.allWarnings, Chapter.steps, List.append_assoc, List.cons_append,
        List.nil_append] using whole

/-- In front of the first chapter nothing is opened or committed. -/
theorem reports_lead {lead rest : List NumberedLine}
    (outside : ∀ line ∈ lead, opensChapter line = false)
    (reports : (recite ⟨file, .replace⟩ entries .idle last rest).Reports value steps warnings) :
    (recite ⟨file, .replace⟩ entries .idle last (lead ++ rest)).Reports value steps warnings := by
  induction lead with
  | nil => exact reports
  | cons line others inductionHypothesis =>
      rw [List.forall_mem_cons] at outside
      have later := inductionHypothesis outside.2
      cases nested : opensSection line with
      | true =>
          exact reports_cons
            (reports_advance_of_idle file (Line.isNestedHeader_iff.mp nested) entries line.2) later
      | false =>
          have plain : (Line.classify line.1).isHeader = false := by
            rw [Line.isHeader, Bool.or_eq_false_iff]
            exact ⟨outside.1, nested⟩
          exact reports_cons (reports_advance_of_plain file plain entries .idle line.2) later

end Reader

/-- A manual reports the steps and the warnings of its chapters. -/
theorem Manual.reports_ofLines (file : Option Text) (lines : List Text) :
    (ofLines ⟨file, .replace⟩ lines).Reports (Catalogue.ofList (entriesOf lines))
      ((chapters lines.zipIdx).flatMap Chapter.steps)
      (Chapter.allWarnings Catalogue.empty (chapters lines.zipIdx)) := by
  rcases cutBefore_spec opensChapter lines.zipIdx with ⟨joined, lead, isParts⟩
  have closes := Reader.closes_joinParts file (0 + lines.length) isParts
  have reports := Reader.reports_lead lead (closes Catalogue.empty .idle)
  rw [joined] at reports
  rw [ofLines, Reader.conclude_feedAll, Reader.readFrom_eq_recite, ← map_entry_chapters, chapters,
    List.map_map]
  exact reports

end BootManual
