import Mathlib.Algebra.Ring.Nat
import Mathlib.Data.List.Dedup
import BootManual.Proofs.Ledger

/-!
# Every header is accounted for

A catalogue grows by one with each entry, or a warning says that a name is taken.  So
the entries of a manual and the warnings about its parameters are together as many as the
headers of parameters, and the same holds of the sub-parameters of every chapter.  A
warning is about the header at the line that it names.
-/

namespace BootManual

open Outline

namespace Catalogue

variable {entries : Catalogue Entry}

/-- An entry adds one to a catalogue, unless a warning is due. -/
theorem length_warning_add_size (indexed : entries.IsIndexed) (entry : Entry) (label : Text)
    (line : Nat) :
    (Commit.warning (entries.contains entry.name) label line).length +
      (entries.insert entry).size = entries.size + 1 := by
  rw [size_insert indexed]
  cases entries.contains entry.name with
  | true => exact Nat.add_comm 1 entries.size
  | false => exact Nat.zero_add _

/-- A catalogue has as many entries as there are names. -/
theorem size_ofList (list : List Entry) :
    (ofList list).size = (list.map Entry.name).dedup.length := by
  have same : (ofList list).names.Perm (list.map Entry.name).dedup := by
    rw [List.perm_ext_iff_of_nodup (nodup_names_ofList list) (List.nodup_dedup _)]
    intro name
    rw [mem_names_ofList, List.mem_dedup]
  rw [size_eq_length_names, same.length_eq]

end Catalogue

namespace Commit

theorem eq_of_mem_warning {taken : Bool} {label : Text} {line : Nat} {record : Record}
    (listed : record ∈ warning taken label line) : record = ⟨.duplicateName label, line + 1⟩ := by
  cases taken with
  | false => contradiction
  | true => exact List.mem_singleton.mp listed

theorem exists_of_mem_subparameterWarnings {top : OpenParameter} {subs : List OpenSubparameter}
    {record : Record} (listed : record ∈ subparameterWarnings top subs) :
    ∃ sub ∈ subs,
      record = ⟨.duplicateName (qualify top.name sub.entry.name), sub.line + 1⟩ := by
  induction subs generalizing top with
  | nil => contradiction
  | cons sub rest inductionHypothesis =>
      rcases List.mem_append.mp listed with first | later
      · exact ⟨sub, List.mem_cons_self, eq_of_mem_warning first⟩
      · rcases inductionHypothesis later with ⟨sub, inside, same⟩
        exact ⟨sub, List.mem_cons_of_mem _ inside, same⟩

/-- Every sub-parameter adds one to its parameter, unless a warning is due. -/
theorem length_subparameterWarnings_add_size (top : OpenParameter)
    (indexed : top.children.IsIndexed) (subs : List OpenSubparameter) :
    (subparameterWarnings top subs).length +
        (top.children.insertAll (subs.map fun sub => dropLeadingBreaks sub.entry)).size =
      top.children.size + subs.length := by
  induction subs generalizing top with
  | nil => exact Nat.zero_add _
  | cons sub rest inductionHypothesis =>
      have grown : (warning (top.children.contains sub.entry.name)
          (qualify top.name sub.entry.name) sub.line).length +
            (top.insertChild (dropLeadingBreaks sub.entry)).children.size =
              top.children.size + 1 :=
        Catalogue.length_warning_add_size indexed (dropLeadingBreaks sub.entry) _ sub.line
      have later := inductionHypothesis (top.insertChild (dropLeadingBreaks sub.entry))
        (Catalogue.isIndexed_insert indexed _)
      have filled : top.children.insertAll
          ((sub :: rest).map fun sub => dropLeadingBreaks sub.entry) =
            (top.insertChild (dropLeadingBreaks sub.entry)).children.insertAll
              (rest.map fun sub => dropLeadingBreaks sub.entry) :=
        rfl
      rw [subparameterWarnings, List.length_append, filled, List.length_cons]
      omega

end Commit

/-! ## Warnings and their headers -/

/-- Whether the line of a manual that a record is about passes the test. -/
def Record.isAbout (lines : List Text) (test : Line → Bool) (record : Record) : Bool :=
  (lines[record.line - 1]?).any fun line => test (Line.classify line)

/-- The line of this number is a header of this kind and gives this name. -/
def IsHeaderAt (lines : List Text) (test : Line → Bool) (number : Nat) (name : Text) : Prop :=
  ∃ header, lines[number]? = some header ∧ test (Line.classify header) ∧
    (entryAt header).name = name

theorem IsHeaderAt.isAbout {lines : List Text} {test : Line → Bool} {number : Nat} {name : Text}
    (isHeader : IsHeaderAt lines test number name) (notice : Notice) (other : Line → Bool)
    {answer : Bool} (agrees : ∀ line, test line → other line = answer) :
    Record.isAbout lines other ⟨notice, number + 1⟩ = answer := by
  rcases isHeader with ⟨header, found, role, -⟩
  rw [Record.isAbout, Nat.add_sub_cancel, found]
  exact agrees _ role

namespace Chapter

/-- A chapter stands in a manual: its headers are where its numbers say. -/
structure Stands (lines : List Text) (chapter : Chapter) : Prop where
  top : IsHeaderAt lines Line.isTopHeader chapter.top.line chapter.top.name
  subs : ∀ sub ∈ chapter.subs, IsHeaderAt lines Line.isNestedHeader sub.line sub.entry.name

variable {lines : List Text} {chapter : Chapter}

namespace Stands

theorem about_parameter (stands : chapter.Stands lines) {taken : Bool} {record : Record}
    (listed : record ∈ Commit.warning taken chapter.top.name chapter.top.line) :
    record.isAbout lines Line.isTopHeader = true ∧
      record.isAbout lines Line.isNestedHeader = false := by
  rw [Commit.eq_of_mem_warning listed]
  constructor
  · exact stands.top.isAbout _ _ fun _ top => top
  · exact stands.top.isAbout _ _ fun _ => Line.isNestedHeader_eq_false_of_top

theorem about_subparameter (stands : chapter.Stands lines) {record : Record}
    (listed : record ∈ Commit.subparameterWarnings chapter.top chapter.subs) :
    record.isAbout lines Line.isNestedHeader = true ∧
      record.isAbout lines Line.isTopHeader = false := by
  rcases Commit.exists_of_mem_subparameterWarnings listed with ⟨sub, inside, rfl⟩
  constructor
  · exact (stands.subs sub inside).isAbout _ _ fun _ nested => nested
  · exact (stands.subs sub inside).isAbout _ _ fun _ => Line.isTopHeader_eq_false_of_nested

/-- The warnings about a chapter are about its header or the headers in it. -/
theorem countP_warnings (stands : chapter.Stands lines) (entries : Catalogue Entry) :
    (chapter.warnings entries).countP (Record.isAbout lines Line.isTopHeader) =
        (Commit.warning (entries.contains chapter.top.name) chapter.top.name
          chapter.top.line).length ∧
      (chapter.warnings entries).countP (Record.isAbout lines Line.isNestedHeader) =
        (Commit.subparameterWarnings chapter.top chapter.subs).length := by
  rw [warnings, List.countP_append, List.countP_append]
  constructor
  · rw [List.countP_eq_zero.mpr fun record listed => by simp [(stands.about_subparameter listed).2],
      List.countP_eq_length.mpr fun record listed => (stands.about_parameter listed).1,
      Nat.zero_add]
  · rw [List.countP_eq_length.mpr fun record listed => (stands.about_subparameter listed).1,
      List.countP_eq_zero.mpr fun record listed => by simp [(stands.about_parameter listed).2],
      Nat.add_zero]

end Stands

theorem length_subparameterWarnings_add_size (chapter : Chapter) :
    (Commit.subparameterWarnings chapter.top chapter.subs).length +
      (Catalogue.ofList chapter.children).size = chapter.children.length := by
  have indexed : chapter.top.children.IsIndexed := by
    rw [chapter.fresh]
    exact Catalogue.isIndexed_empty
  have counted := Commit.length_subparameterWarnings_add_size chapter.top indexed chapter.subs
  rw [chapter.fresh] at counted
  rw [children, List.length_map]
  exact counted.trans (Nat.zero_add _)

variable {chapters : List Chapter}

/-- Every chapter adds one to the entries, unless it is warned about. -/
theorem countP_allWarnings_add_size (stands : ∀ chapter ∈ chapters, chapter.Stands lines)
    {entries : Catalogue Entry} (indexed : entries.IsIndexed) :
    (allWarnings entries chapters).countP (Record.isAbout lines Line.isTopHeader) +
      (entries.insertAll (chapters.map Chapter.entry)).size = entries.size + chapters.length := by
  induction chapters generalizing entries with
  | nil => exact Nat.zero_add _
  | cons chapter rest inductionHypothesis =>
      rw [List.forall_mem_cons] at stands
      have named : chapter.entry.name = chapter.top.name := Commit.name_finished _
      have grown := Catalogue.length_warning_add_size indexed chapter.entry chapter.top.name
        chapter.top.line
      have later := inductionHypothesis stands.2 (Catalogue.isIndexed_insert indexed chapter.entry)
      rw [named] at grown
      rw [allWarnings, List.countP_append, (stands.1.countP_warnings entries).1, List.map_cons,
        Catalogue.insertAll_cons, List.length_cons]
      omega

/-- Every sub-parameter adds one to its parameter, unless it is warned about. -/
theorem countP_allWarnings_add_sum (stands : ∀ chapter ∈ chapters, chapter.Stands lines)
    (entries : Catalogue Entry) :
    (allWarnings entries chapters).countP (Record.isAbout lines Line.isNestedHeader) +
        ((chapters.map Chapter.children).map fun children =>
          (Catalogue.ofList children).size).sum =
      ((chapters.map Chapter.children).map List.length).sum := by
  induction chapters generalizing entries with
  | nil => rfl
  | cons chapter rest inductionHypothesis =>
      rw [List.forall_mem_cons] at stands
      have later := inductionHypothesis stands.2 (entries.insert chapter.entry)
      have filled := chapter.length_subparameterWarnings_add_size
      rw [allWarnings, List.countP_append, (stands.1.countP_warnings entries).2]
      simp only [List.map_cons, List.sum_cons]
      omega

/-- A warning names a header of the manual and its line. -/
theorem exists_of_mem_allWarnings (stands : ∀ chapter ∈ chapters, chapter.Stands lines)
    {entries : Catalogue Entry} {record : Record}
    (listed : record ∈ allWarnings entries chapters) :
    ∃ number name, record.line = number + 1 ∧
      (IsHeaderAt lines Line.isTopHeader number name ∧ record.notice = .duplicateName name ∨
        IsHeaderAt lines Line.isNestedHeader number name ∧
          ∃ parameter, record.notice = .duplicateName (Commit.qualify parameter name)) := by
  induction chapters generalizing entries with
  | nil => contradiction
  | cons chapter rest inductionHypothesis =>
      rw [List.forall_mem_cons] at stands
      rcases List.mem_append.mp listed with first | later
      · rcases List.mem_append.mp first with inside | about
        · rcases Commit.exists_of_mem_subparameterWarnings inside with ⟨sub, known, rfl⟩
          exact ⟨sub.line, sub.entry.name, rfl, .inr ⟨stands.1.subs sub known, _, rfl⟩⟩
        · rw [Commit.eq_of_mem_warning about]
          exact ⟨chapter.top.line, chapter.top.name, rfl, .inl ⟨stands.1.top, rfl⟩⟩
      · exact inductionHypothesis stands.2 later

end Chapter

namespace Outline

/-- The chapters of a manual stand in it. -/
theorem stands_chapters (lines : List Text) :
    ∀ chapter ∈ chapters lines.zipIdx, chapter.Stands lines := by
  intro chapter inside
  rcases List.mem_map.mp inside with ⟨part, listed, rfl⟩
  constructor
  · have isHeader : part.1 ∈ (numberedParts lines).map Prod.fst := List.mem_map_of_mem listed
    have found := (sublist_headers lines).subset isHeader
    rw [numberedParts, map_fst_cutBefore] at isHeader
    exact ⟨part.1.1, List.mem_zipIdx_iff_getElem?.mp found, (List.mem_filter.mp isHeader).2,
      (name_chapterOf part).symm⟩
  · intro sub insideChapter
    rcases List.mem_map.mp insideChapter with ⟨section', listedSection, rfl⟩
    have isHeader : section'.1 ∈ subheaders part := by
      rw [subheaders, ← map_fst_cutBefore]
      exact List.mem_map_of_mem listedSection
    have found := (sublist_subheaders listed).subset isHeader
    rw [line_subparameterOf]
    exact ⟨section'.1.1, List.mem_zipIdx_iff_getElem?.mp found, (List.mem_filter.mp isHeader).2,
      (name_subparameterOf section').symm⟩

/-! ## Headers and reports of parts -/

/-- The names that the headers of sub-parameters in a part give. -/
def subnames (part : Text × List Text) : List Text :=
  (part.2.filter fun line => (Line.classify line).isNestedHeader).map fun header =>
    (entryAt header).name

/-- What is reported of a part: its parameter is opened, its sub-parameters are opened and
committed one by one, and the parameter is committed with the format that it has in the
end. -/
def reportOf (part : Text × List Text) : List Text :=
  let name := (entryAt part.1).name
  ("open parameter ".toList ++ name) ::
    ((subnames part).flatMap fun subname =>
      ["open sub-parameter ".toList ++ Commit.qualify name subname,
        "commit sub-parameter ".toList ++ Commit.qualify name subname]) ++
    ["commit parameter ".toList ++ name ++ " (".toList ++ (entryOf part).format.marker ++
      ")".toList]

theorem names_childrenOf (part : Text × List Text) :
    (childrenOf part).map Entry.name = subnames part := by
  rw [subnames, ← map_fst_cutBefore, childrenOf, List.map_map, List.map_map]
  rfl

theorem length_childrenOf (part : Text × List Text) :
    (childrenOf part).length =
      part.2.countP fun line => (Line.classify line).isNestedHeader := by
  rw [← List.length_map Entry.name, names_childrenOf, subnames, List.length_map,
    List.countP_eq_length_filter]

theorem length_parts (lines : List Text) :
    (parts lines).length = lines.countP fun line => (Line.classify line).isTopHeader := by
  rw [List.countP_eq_length_filter, ← map_fst_cutBefore, List.length_map, parts]

/-- From the first header of a parameter on, the headers of sub-parameters are those of
the parts. -/
theorem sum_length_childrenOf (lines : List Text) :
    ((parts lines).map fun part => (childrenOf part).length).sum =
      (lines.dropWhile fun line => !(Line.classify line).isTopHeader).countP fun line =>
        (Line.classify line).isNestedHeader := by
  rw [← joinParts_cutBefore (fun line => (Line.classify line).isTopHeader), joinParts,
    List.countP_flatMap]
  apply congrArg List.sum
  apply List.map_congr_left
  intro part listed
  have isPart := (cutBefore_spec (fun line => (Line.classify line).isTopHeader) lines).2.2 part
    listed
  have notNested := Line.isNestedHeader_eq_false_of_top isPart.head
  rw [length_childrenOf, Function.comp_apply, List.countP_cons_of_neg (by simp [notNested])]

/-- The headers of parameters are as many as the entries and the warnings about them. -/
theorem countP_isTopHeader (lines : List Text) :
    (lines.countP fun line => (Line.classify line).isTopHeader) =
      (Catalogue.ofList (entriesOf lines)).size +
        (Chapter.allWarnings Catalogue.empty (chapters lines.zipIdx)).countP
          (Record.isAbout lines Line.isTopHeader) := by
  have counted := Chapter.countP_allWarnings_add_size (stands_chapters lines)
    Catalogue.isIndexed_empty
  have many : (chapters lines.zipIdx).length = (parts lines).length := by
    rw [← List.length_map Chapter.entry, map_entry_chapters, entriesOf, List.length_map]
  have none : (Catalogue.empty : Catalogue Entry).size = 0 := rfl
  rw [map_entry_chapters, many, length_parts, none, Nat.zero_add] at counted
  rw [← counted, Nat.add_comm, Catalogue.ofList]

/-- The headers of sub-parameters in parts are as many as the names that they give in each
part and the warnings about them. -/
theorem countP_isNestedHeader (lines : List Text) :
    ((lines.dropWhile fun line => !(Line.classify line).isTopHeader).countP fun line =>
        (Line.classify line).isNestedHeader) =
      ((parts lines).map fun part => (subnames part).dedup.length).sum +
        (Chapter.allWarnings Catalogue.empty (chapters lines.zipIdx)).countP
          (Record.isAbout lines Line.isNestedHeader) := by
  have counted := Chapter.countP_allWarnings_add_sum (stands_chapters lines) Catalogue.empty
  have distinct : ((parts lines).map fun part => (subnames part).dedup.length) =
      (parts lines).map ((fun children => (Catalogue.ofList children).size) ∘ childrenOf) := by
    apply List.map_congr_left
    intro part _
    rw [Function.comp_apply, Catalogue.size_ofList, names_childrenOf]
  rw [map_children_chapters, List.map_map, List.map_map, ← distinct, Nat.add_comm] at counted
  exact (sum_length_childrenOf lines).symm.trans counted.symm

theorem messages_subparameterSteps (parameter : Text) (subs : List OpenSubparameter) :
    (Commit.subparameterSteps parameter subs).map Notice.message =
      (subs.map fun sub => sub.entry.name).flatMap fun subname =>
        ["open sub-parameter ".toList ++ Commit.qualify parameter subname,
          "commit sub-parameter ".toList ++ Commit.qualify parameter subname] := by
  rw [Commit.subparameterSteps, List.map_flatMap, List.flatMap_map]
  rfl

theorem messages_steps_chapterOf (part : NumberedLine × List NumberedLine) :
    (chapterOf part).steps.map Notice.message = reportOf (part.1.1, part.2.map Prod.fst) := by
  have names : (chapterOf part).subs.map (fun sub => sub.entry.name) =
      subnames (part.1.1, part.2.map Prod.fst) := by
    rw [← names_childrenOf, ← children_chapterOf, Chapter.children, List.map_map]
    rfl
  have named : (chapterOf part).top.name = (entryAt part.1.1).name := name_chapterOf part
  simp only [reportOf, ← names, ← entry_chapterOf, ← named, Chapter.steps, List.map_cons,
    List.map_append, messages_subparameterSteps, List.map_nil]
  rfl

theorem messages_steps_chapters (lines : List Text) :
    ((chapters lines.zipIdx).flatMap Chapter.steps).map Notice.message =
      (parts lines).flatMap reportOf := by
  conv => rhs; rw [← List.zipIdx_map_fst 0 lines]
  rw [parts_map_fst, chapters, List.map_flatMap, List.flatMap_map, List.flatMap_map]
  simp only [messages_steps_chapterOf]

end Outline

/-! ## What a listener hears -/

namespace LogLevel

variable {listener : LogLevel}

theorem hears_of_rank_le {level : LogLevel} (hears : listener.hears .debug)
    (coarse : level.rank ≤ debug.rank) : listener.hears level :=
  decide_eq_true (coarse.trans (of_decide_eq_true hears))

/-- Nothing that passes a test is lost on a listener who hears whatever passes it. -/
theorem filter_heard {test : Record → Bool}
    (audible : ∀ record, test record → listener.hears record.notice.level)
    (records : List Record) : (listener.heard records).filter test = records.filter test := by
  rw [heard, List.filter_filter]
  apply List.filter_congr
  intro record _
  cases passes : test record with
  | true => exact audible record passes
  | false => rfl

/-- A listener who hears details hears every step of a reading. -/
theorem steps_heard (hears : listener.hears .debug) (records : List Record) :
    ((listener.heard records).map Record.notice).filter Notice.isStep =
      (records.map Record.notice).filter Notice.isStep := by
  rw [List.filter_map, List.filter_map, filter_heard]
  intro record step
  apply hears_of_rank_le hears
  rcases record with ⟨notice, line⟩
  cases notice <;> first | exact Nat.le_refl _ | contradiction

/-- A listener who hears details hears every warning. -/
theorem warnings_heard (hears : listener.hears .debug) (records : List Record) :
    ((listener.heard records).filter fun record => record.IsWarning) =
      records.filter fun record => record.IsWarning := by
  apply filter_heard
  intro record warns
  have level : record.notice.level = .warn := of_decide_eq_true warns
  rw [level]
  exact hears_of_rank_le hears (by decide)

end LogLevel

namespace Manual

/-- Where later entries replace earlier ones, every header of a manual is accounted for.
Parameters are opened and committed in order, each with its sub-parameters in between,
and every header of a parameter leaves an entry or a warning, as does every header of a
sub-parameter in a part.  A warning gives the line of a header and its name, and the number
that a listener is told, if any, is that of the header. -/
theorem headers_are_accounted_for (file : Option Text) (text : Text) {listener : LogLevel}
    (hears : listener.hears .debug) :
    let lines := Lines.ofText text
    let read := ofText ⟨file, .replace⟩ text
    let entries := Catalogue.ofList (entriesOf lines)
    let heard := listener.heard read.log
    let warnings := heard.filter fun record => record.IsWarning
    read.result = .ok entries ∧
      ((heard.map Record.notice).filter Notice.isStep).map Notice.message =
        (parts lines).flatMap reportOf ∧
      (lines.countP fun line => (Line.classify line).isTopHeader) =
        entries.size + warnings.countP (Record.isAbout lines Line.isTopHeader) ∧
      ((lines.dropWhile fun line => !(Line.classify line).isTopHeader).countP fun line =>
          (Line.classify line).isNestedHeader) =
        ((parts lines).map fun part => (subnames part).dedup.length).sum +
          warnings.countP (Record.isAbout lines Line.isNestedHeader) ∧
      ∀ record ∈ warnings, ∃ number name, record.line = number + 1 ∧
        (∀ told ∈ record.number, told = number + 1) ∧
        (IsHeaderAt lines Line.isTopHeader number name ∧ record.notice = .duplicateName name ∨
          IsHeaderAt lines Line.isNestedHeader number name ∧
            ∃ parameter, record.notice = .duplicateName (Commit.qualify parameter name)) := by
  intro lines read entries heard warnings
  have reports : read.Reports entries ((chapters lines.zipIdx).flatMap Chapter.steps)
      (Chapter.allWarnings Catalogue.empty (chapters lines.zipIdx)) :=
    reports_ofLines file lines
  have warned : warnings = Chapter.allWarnings Catalogue.empty (chapters lines.zipIdx) :=
    (LogLevel.warnings_heard hears read.log).trans reports.warnings
  rw [warned]
  refine ⟨reports.result, ?_, countP_isTopHeader lines, countP_isNestedHeader lines, ?_⟩
  · rw [LogLevel.steps_heard hears, reports.steps, messages_steps_chapters]
  · intro record listed
    obtain ⟨number, name, line, header⟩ :=
      Chapter.exists_of_mem_allWarnings (stands_chapters lines) listed
    refine ⟨number, name, line, ?_, header⟩
    intro told number
    exact (Record.mem_number_iff.mp number).1.symm.trans line

/-- A parameter and a sub-parameter in it occur twice, and another sub-parameter stands in
front of them all. -/
theorem headers_are_accounted_for_twice :
    let text := "\t\tlost\n\ta\n\t\tb\n\n\t\tb\n\ta\n".toList
    let lines := Lines.ofText text
    let heard := LogLevel.debug.heard (ofText ⟨none, .replace⟩ text).log
    let warnings := heard.filter fun record => record.IsWarning
    LogLevel.debug.hears .debug ∧
      ((heard.map Record.notice).filter Notice.isStep).map Notice.message =
        ["open parameter a".toList, "open sub-parameter a.b".toList,
          "commit sub-parameter a.b".toList, "open sub-parameter a.b".toList,
          "commit sub-parameter a.b".toList, "commit parameter a (complex)".toList,
          "open parameter a".toList, "commit parameter a (flag)".toList] ∧
      2 = 1 + warnings.countP (Record.isAbout lines Line.isTopHeader) ∧
      2 = 1 + warnings.countP (Record.isAbout lines Line.isNestedHeader) := by
  intro text
  have hears : LogLevel.debug.hears .debug := rfl
  have split : Lines.ofText text = ["\t\tlost".toList, "\ta".toList, "\t\tb".toList, [],
      "\t\tb".toList, "\ta".toList] := rfl
  have topHeaders : ((Lines.ofText text).countP fun line =>
      (Line.classify line).isTopHeader) = 2 := by rw [split]; rfl
  have nestedHeaders : (((Lines.ofText text).dropWhile fun line =>
      !(Line.classify line).isTopHeader).countP fun line =>
        (Line.classify line).isNestedHeader) = 2 := by rw [split]; rfl
  have size : (Catalogue.ofList (entriesOf (Lines.ofText text))).size = 1 := by rw [split]; rfl
  have distinct :
      ((parts (Lines.ofText text)).map fun part => (subnames part).dedup.length).sum = 1 := by
    rw [split]
    rfl
  have report : (parts (Lines.ofText text)).flatMap reportOf =
      ["open parameter a".toList, "open sub-parameter a.b".toList,
        "commit sub-parameter a.b".toList, "open sub-parameter a.b".toList,
        "commit sub-parameter a.b".toList, "commit parameter a (complex)".toList,
        "open parameter a".toList, "commit parameter a (flag)".toList] := by
    rw [split]
    rfl
  rcases headers_are_accounted_for none text hears with ⟨-, steps, tops, nested, -⟩
  rw [report] at steps
  rw [topHeaders, size] at tops
  rw [nestedHeaders, distinct] at nested
  exact ⟨hears, steps, tops, nested⟩

end Manual

end BootManual
