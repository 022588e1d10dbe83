import BootManual.Manual
import BootManual.Proofs.Cuts
import BootManual.Proofs.Steps

/-!
# The outline of a manual

Headers cut a manual into chapters, one for each parameter, and the rest of a
chapter into the lines of the parameter and the sections of its sub-parameters.  A
chapter can be read without its surroundings; only names that occur twice make a
chapter depend on the others.  Reading a manual line by line comes to the same as
reading its chapters one by one and then entering them in order.

Lines carry their number, because errors name it.
-/

namespace BootManual

/-- A line and its number in the manual. -/
abbrev NumberedLine := Text × Nat

/-- A parameter as its chapter describes it: the parameter after its own lines, and
its sub-parameters, each after the lines of its section. -/
structure Chapter where
  top : OpenParameter
  subs : List OpenSubparameter
  fresh : top.children = Catalogue.empty

namespace Outline

/-- Whether a line opens a parameter. -/
def opensChapter (line : NumberedLine) : Bool :=
  (Line.classify line.1).isTopHeader

/-- Whether a line opens a sub-parameter. -/
def opensSection (line : NumberedLine) : Bool :=
  (Line.classify line.1).isNestedHeader

/-- The entry that a header line opens. -/
def entryAt (header : Text) : Entry :=
  Reader.entryOfText (Line.classify header).headerText

/-- The sub-parameter that a section describes. -/
def subparameterOf (part : NumberedLine × List NumberedLine) : OpenSubparameter :=
  (part.2.map Prod.fst).foldl OpenSubparameter.hear ⟨entryAt part.1.1, part.1.2⟩

/-- The draft of a parameter after its own lines. -/
def draftOf (header : Text) (own : List Text) : Draft :=
  own.foldl Draft.hear (Draft.start (entryAt header))

theorem children_draftOf (header : Text) (own : List Text) :
    (draftOf header own).entry.children = Catalogue.empty :=
  (Draft.continues_foldl_hear _ own).children.trans (Reader.entryOfText_plain _).1

/-- The chapter that a header and the lines up to the next one make. -/
def chapterOf (part : NumberedLine × List NumberedLine) : Chapter :=
  let cut := cutBefore opensSection part.2
  ⟨⟨draftOf part.1.1 (cut.1.map Prod.fst), part.1.2⟩, cut.2.map subparameterOf,
    children_draftOf part.1.1 _⟩

/-- In a chapter cut at the headers of its sub-parameters, no other line is a header. -/
structure IsCut (cut : List NumberedLine × List (NumberedLine × List NumberedLine)) : Prop where
  own : ∀ line ∈ cut.1, (Line.classify line.1).isHeader = false
  opens : ∀ part ∈ cut.2, opensSection part.1 = true
  plain : ∀ part ∈ cut.2, ∀ line ∈ part.2, (Line.classify line.1).isHeader = false

theorem isCut_cutBefore {body : List NumberedLine}
    (quiet : ∀ line ∈ body, opensChapter line = false) : IsCut (cutBefore opensSection body) := by
  rcases cutBefore_spec opensSection body with ⟨-, lead, parts⟩
  have plain : ∀ line ∈ body, opensSection line = false →
      (Line.classify line.1).isHeader = false := by
    intro line inside notSection
    rw [Line.isHeader, Bool.or_eq_false_iff]
    exact ⟨quiet line inside, notSection⟩
  constructor
  · exact fun line inside => plain line (mem_of_mem_lead inside) (lead line inside)
  · exact fun part listed => (parts part listed).head
  · intro part listed line inside
    apply plain line _ ((parts part listed).body line inside)
    exact mem_of_mem_cutBefore listed (List.mem_cons_of_mem _ inside)

/-- The chapters of a manual. -/
def chapters (lines : List NumberedLine) : List Chapter :=
  (cutBefore opensChapter lines).2.map chapterOf

end Outline

/-- Commit sub-parameters in order, and then the parameter itself. -/
def Commit.enter (context : Context) (entries : Catalogue Entry) (top : OpenParameter)
    (subs : List OpenSubparameter) : Except ParseError (Catalogue Entry) := do
  let top ← subs.foldlM (closeSubparameter context) top
  closeParameter context entries top

/-- Enter a chapter with its sub-parameters. -/
def Chapter.enter (context : Context) (entries : Catalogue Entry) (chapter : Chapter) :
    Except ParseError (Catalogue Entry) :=
  Commit.enter context entries chapter.top chapter.subs

/-- Enter chapters in order. -/
def Outline.enterAll (context : Context) (entries : Catalogue Entry) (chapters : List Chapter) :
    Except ParseError (Catalogue Entry) :=
  chapters.foldlM (Chapter.enter context) entries

/-! ## Reading numbered lines -/

namespace Reader

open Attempt

/-- Read the rest of a manual, records included. -/
def readFrom (context : Context) (entries : Catalogue Entry) (state : State) (count : Nat) :
    List Text → Attempt (Catalogue Entry)
  | [] => Commit.everything context count entries state
  | line :: rest => do
    let next ← (Reader.mk context state entries count).advance line
    readFrom context next.1 next.2 (count + 1) rest

theorem conclude_feedAll (reader : Reader) (lines : List Text) :
    (reader.feedAll lines).conclude =
      readFrom reader.context reader.entries reader.state reader.count lines := by
  induction lines generalizing reader with
  | nil => exact finish_eq reader
  | cons line rest inductionHypothesis =>
      rw [readFrom]
      cases advanced : (reader.advance line).result with
      | error error =>
          rw [bind_of_error advanced, feedAll, feed_of_error advanced]
          rfl
      | ok next =>
          have later := inductionHypothesis
            { reader with entries := next.1, state := next.2, count := reader.count + 1 }
          rw [bind_of_ok advanced, ← later, feedAll, feed_of_ok advanced,
            Progress.andThen_of_success rfl]
          simp only [Progress.conclude]
          split
          · rfl
          · simp only [List.append_assoc]

/-- What reading the rest of a manual comes to, records aside. -/
def outcome (context : Context) (entries : Catalogue Entry) (state : State) :
    List NumberedLine → Except ParseError (Catalogue Entry)
  | [] => Commit.close context entries state
  | line :: rest => do
    let next ← ((Reader.mk context state entries line.2).advance line.1).result
    outcome context next.1 next.2 rest

theorem result_readFrom (context : Context) (entries : Catalogue Entry) (state : State)
    (count : Nat) (lines : List Text) :
    (readFrom context entries state count lines).result =
      outcome context entries state (lines.zipIdx count) := by
  induction lines generalizing entries state count with
  | nil => exact Commit.result_everything context count entries state
  | cons line rest inductionHypothesis =>
      rw [readFrom, result_bind, List.zipIdx_cons, outcome]
      simp only [inductionHypothesis]

theorem result_conclude_feedAll (reader : Reader) (lines : List Text) :
    (reader.feedAll lines).conclude.result =
      outcome reader.context reader.entries reader.state (lines.zipIdx reader.count) := by
  rw [conclude_feedAll, result_readFrom]

variable {context : Context} {entries : Catalogue Entry}

/-- Lines that are no headers are heard by what is open. -/
theorem outcome_append_of_plain {body : List NumberedLine}
    (plain : ∀ line ∈ body, (Line.classify line.1).isHeader = false) (state : State)
    (rest : List NumberedLine) :
    outcome context entries state (body ++ rest) =
      outcome context entries ((body.map Prod.fst).foldl (fun state line => state.hear line) state)
        rest := by
  induction body generalizing state with
  | nil => rfl
  | cons line others inductionHypothesis =>
      rw [List.forall_mem_cons] at plain
      rw [List.cons_append, outcome, result_advance_of_not_isHeader plain.1]
      exact inductionHypothesis plain.2 (state.hear line.1)

theorem outcome_cons_of_opensChapter {header : NumberedLine}
    (opens : Outline.opensChapter header) (state : State) (rest : List NumberedLine) :
    outcome context entries state (header :: rest) =
      Commit.close context entries state >>= fun closed =>
        outcome context closed
          (.parameter ⟨Draft.start (Outline.entryAt header.1), header.2⟩) rest := by
  rw [outcome, result_advance_of_topHeader (Line.isTopHeader_iff.mp opens), except_map_bind]
  rfl

theorem outcome_cons_of_opensSection {header : NumberedLine}
    (opens : Outline.opensSection header) (state : State) (rest : List NumberedLine) :
    outcome context entries state (header :: rest) =
      state.openSubparameter context header.2 (Outline.entryAt header.1) >>= fun opened =>
        outcome context entries opened rest := by
  rw [outcome, result_advance_of_nestedHeader (Line.isNestedHeader_iff.mp opens),
    except_map_bind]
  rfl

theorem foldl_hear_parameter (top : OpenParameter) (lines : List Text) :
    lines.foldl (fun state line => state.hear line) (State.parameter top) =
      .parameter { top with draft := lines.foldl Draft.hear top.draft } := by
  induction lines generalizing top with
  | nil => rfl
  | cons line rest inductionHypothesis => exact inductionHypothesis _

theorem foldl_hear_subparameter (top : OpenParameter) (sub : OpenSubparameter)
    (lines : List Text) :
    lines.foldl (fun state line => state.hear line) (State.subparameter top sub) =
      .subparameter top (lines.foldl OpenSubparameter.hear sub) := by
  induction lines generalizing sub with
  | nil => rfl
  | cons line rest inductionHypothesis => exact inductionHypothesis _

/-! ## Chapter by chapter -/

variable {rest : List NumberedLine}
  {next : Catalogue Entry → Except ParseError (Catalogue Entry)}

/-- Sections that follow an open sub-parameter are read one by one, if what follows
them closes whatever is open. -/
theorem outcome_sections
    (closes : ∀ state, outcome context entries state rest =
      Commit.close context entries state >>= next)
    (top : OpenParameter) (sub : OpenSubparameter)
    {parts : List (NumberedLine × List NumberedLine)}
    (opens : ∀ part ∈ parts, Outline.opensSection part.1)
    (plain : ∀ part ∈ parts, ∀ line ∈ part.2, (Line.classify line.1).isHeader = false) :
    outcome context entries (.subparameter top sub) (joinParts parts ++ rest) =
      Commit.enter context entries top (sub :: parts.map Outline.subparameterOf) >>= next := by
  induction parts generalizing top sub with
  | nil =>
      rw [joinParts_nil, List.nil_append, closes, Commit.close, Commit.enter]
      simp
  | cons part others inductionHypothesis =>
      rw [List.forall_mem_cons] at opens plain
      rw [joinParts_cons, List.cons_append, List.append_assoc,
        outcome_cons_of_opensSection opens.1, State.openSubparameter, except_map_bind,
        Commit.enter, List.foldlM_cons]
      simp only [bind_assoc]
      congr 1
      funext closed
      rw [outcome_append_of_plain plain.1, foldl_hear_subparameter,
        inductionHypothesis closed _ opens.2 plain.2, Commit.enter, bind_assoc]
      rfl

/-- A chapter is read on its own, if what follows it closes whatever is open. -/
theorem outcome_chapter
    (closes : ∀ state, outcome context entries state rest =
      Commit.close context entries state >>= next)
    (header : NumberedLine) {body : List NumberedLine}
    (plain : ∀ line ∈ body, Outline.opensChapter line = false) :
    outcome context entries
        (.parameter ⟨Draft.start (Outline.entryAt header.1), header.2⟩) (body ++ rest) =
      Chapter.enter context entries (Outline.chapterOf (header, body)) >>= next := by
  have joined := (cutBefore_spec Outline.opensSection body).1
  have isCut := Outline.isCut_cutBefore plain
  conv => lhs; rw [← joined]
  rw [List.append_assoc, outcome_append_of_plain isCut.own, foldl_hear_parameter, Chapter.enter,
    Outline.chapterOf]
  have opens := isCut.opens
  have sections := isCut.plain
  cases cut : (cutBefore Outline.opensSection body).2 with
  | nil =>
      rw [joinParts_nil, List.nil_append, closes]
      rfl
  | cons part others =>
      rw [cut, List.forall_mem_cons] at opens sections
      rw [joinParts_cons, List.cons_append, List.append_assoc,
        outcome_cons_of_opensSection opens.1, State.openSubparameter]
      change outcome context entries (.subparameter _ _) _ = _
      rw [outcome_append_of_plain sections.1, foldl_hear_subparameter,
        outcome_sections closes _ _ opens.2 sections.2]
      rfl

/-- Chapters are read one by one. -/
theorem outcome_chapters {parts : List (NumberedLine × List NumberedLine)}
    (isParts : ∀ part ∈ parts, IsPart Outline.opensChapter part) (state : State) :
    outcome context entries state (joinParts parts) =
      Commit.close context entries state >>= fun closed =>
        Outline.enterAll context closed (parts.map Outline.chapterOf) := by
  induction parts generalizing entries state with
  | nil =>
      rw [joinParts_nil, outcome]
      exact (bind_pure _).symm
  | cons part others inductionHypothesis =>
      rw [List.forall_mem_cons] at isParts
      rw [joinParts_cons, outcome_cons_of_opensChapter isParts.1.head]
      congr 1
      funext closed
      rw [outcome_chapter (fun state => inductionHypothesis isParts.2 state) part.1
        isParts.1.body, Outline.enterAll, List.map_cons, List.foldlM_cons]
      rfl

/-- In front of the first chapter, nothing has an effect. -/
theorem outcome_idle_append {lead : List NumberedLine}
    (outside : ∀ line ∈ lead, Outline.opensChapter line = false) (rest : List NumberedLine) :
    outcome context entries .idle (lead ++ rest) = outcome context entries .idle rest := by
  induction lead with
  | nil => rfl
  | cons line others inductionHypothesis =>
      rw [List.forall_mem_cons] at outside
      rw [List.cons_append, ← inductionHypothesis outside.2]
      cases nested : Outline.opensSection line with
      | true =>
          rw [outcome_cons_of_opensSection nested]
          rfl
      | false =>
          have plain : (Line.classify line.1).isHeader = false := by
            rw [Line.isHeader, Bool.or_eq_false_iff]
            exact ⟨outside.1, nested⟩
          rw [outcome, result_advance_of_not_isHeader plain]
          rfl

end Reader

/-- Reading a manual comes to entering its chapters in order. -/
theorem Manual.result_ofLines (context : Context) (lines : List Text) :
    (Manual.ofLines context lines).result =
      Outline.enterAll context Catalogue.empty (Outline.chapters lines.zipIdx) := by
  obtain ⟨joined, lead, parts⟩ := cutBefore_spec Outline.opensChapter lines.zipIdx
  rw [Manual.ofLines, Reader.result_conclude_feedAll]
  change Reader.outcome context Catalogue.empty .idle lines.zipIdx = _
  conv => lhs; rw [← joined]
  rw [Reader.outcome_idle_append lead, Reader.outcome_chapters parts]
  rfl

end BootManual
