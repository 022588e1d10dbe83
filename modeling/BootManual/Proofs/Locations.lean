import BootManual.Proofs.Refusals

/-!
# Where a repeated name is reported

Where duplicates are rejected, a manual fails at the first chapter that repeats the name
of an earlier chapter or a name within itself.  The error points to the header that
repeats a name: to the first such header of a sub-parameter, if there is one in the
chapter, and otherwise to the header of the parameter.  A header of the same name stands
in front of it, and the line at which the error is raised comes after it.
-/

namespace BootManual

namespace Outline

/-- The chapters of a manual as their lines: each header of a parameter, and what
follows it up to the next. -/
def numberedParts (lines : List Text) : List (NumberedLine × List NumberedLine) :=
  (cutBefore opensChapter lines.zipIdx).2

/-- The headers of sub-parameters in a chapter. -/
def subheaders (part : NumberedLine × List NumberedLine) : List NumberedLine :=
  part.2.filter opensSection

/-- The name that a header gives. -/
def nameAt (header : NumberedLine) : Text :=
  (entryAt header.1).name

/-- Neither the names of some chapters nor those in one of them repeat. -/
structure IsUnique (parts : List (NumberedLine × List NumberedLine)) : Prop where
  parameters : (parts.map fun part => nameAt part.1).Nodup
  subparameters : ∀ part ∈ parts, ((subheaders part).map nameAt).Nodup

/-- The first repetition in a manual: the name that is reported, and the header that
repeats it.  Within a chapter, sub-parameters come before the parameter. -/
inductive Repetition (lines : List Text) : Text → NumberedLine → Prop
  | subparameter {earlier later : List (NumberedLine × List NumberedLine)}
      {part : NumberedLine × List NumberedLine} {header : NumberedLine}
      (split : numberedParts lines = earlier ++ part :: later) (unique : IsUnique earlier)
      (repeats : IsFirstRepeat nameAt (subheaders part) header) :
      Repetition lines (Commit.qualify (nameAt part.1) (nameAt header)) header
  | parameter {earlier later : List (NumberedLine × List NumberedLine)}
      {part : NumberedLine × List NumberedLine}
      (split : numberedParts lines = earlier ++ part :: later) (unique : IsUnique earlier)
      (distinct : ((subheaders part).map nameAt).Nodup)
      (repeats : nameAt part.1 ∈ earlier.map fun part => nameAt part.1) :
      Repetition lines (nameAt part.1) part.1

/-! ## Names and lines of chapters -/

theorem name_chapterOf (part : NumberedLine × List NumberedLine) :
    (chapterOf part).top.name = nameAt part.1 :=
  (Draft.continues_foldl_hear _ _).name

theorem name_subparameterOf (part : NumberedLine × List NumberedLine) :
    (subparameterOf part).entry.name = nameAt part.1 := by
  rw [subparameterOf, OpenSubparameter.entry_foldl_hear]
  rfl

theorem line_subparameterOf (part : NumberedLine × List NumberedLine) :
    (subparameterOf part).line = part.1.2 := by
  rw [subparameterOf]
  generalize part.2.map Prod.fst = lines
  induction lines using List.reverseRecOn with
  | nil => rfl
  | append_singleton lines line inductionHypothesis =>
      rw [List.foldl_concat, OpenSubparameter.line_hear, inductionHypothesis]

theorem names_children_chapterOf (part : NumberedLine × List NumberedLine) :
    (chapterOf part).children.map Entry.name = (subheaders part).map nameAt := by
  rw [subheaders, ← map_fst_cutBefore, Chapter.children, chapterOf, List.map_map, List.map_map,
    List.map_map]
  exact List.map_congr_left fun section' _ => name_subparameterOf section'

/-- The first sub-parameter of a chapter that repeats a name has the first header that
does. -/
theorem exists_isFirstRepeat_chapterOf (part : NumberedLine × List NumberedLine)
    (reported : Text → Nat → Prop) :
    (∃ sub, IsFirstRepeat (fun sub => sub.entry.name) (chapterOf part).subs sub ∧
        reported sub.entry.name sub.line) ↔
      ∃ header, IsFirstRepeat nameAt (subheaders part) header ∧
        reported (nameAt header) header.2 := by
  rw [subheaders, ← map_fst_cutBefore, chapterOf]
  simp only [isFirstRepeat_map, name_subparameterOf]
  constructor
  · rintro ⟨sub, ⟨section', repeats, rfl⟩, report⟩
    rw [name_subparameterOf, line_subparameterOf] at report
    exact ⟨section'.1, ⟨section', repeats, rfl⟩, report⟩
  · rintro ⟨header, ⟨section', repeats, rfl⟩, report⟩
    refine ⟨subparameterOf section', ⟨section', repeats, rfl⟩, ?_⟩
    rwa [name_subparameterOf, line_subparameterOf]

theorem names_entry_chapterOf (parts : List (NumberedLine × List NumberedLine)) :
    ((parts.map chapterOf).map fun chapter => chapter.entry.name) =
      parts.map fun part => nameAt part.1 := by
  rw [List.map_map]
  apply List.map_congr_left
  intro part _
  exact (Commit.name_finished _).trans (name_chapterOf part)

/-- No name occurs twice at one level exactly if the headers say so. -/
theorem isDistinct_iff (lines : List Text) :
    IsDistinct lines ↔ IsUnique (numberedParts lines) := by
  have parameters : (entriesOf lines).map Entry.name =
      (numberedParts lines).map fun part => nameAt part.1 := by
    rw [← map_entry_chapters, List.map_map]
    exact names_entry_chapterOf (numberedParts lines)
  have families : (parts lines).map (fun part => (childrenOf part).map Entry.name) =
      (numberedParts lines).map fun part => (subheaders part).map nameAt := by
    have same := congrArg (List.map (List.map Entry.name)) (map_children_chapters lines)
    rw [List.map_map, List.map_map, chapters, List.map_map] at same
    refine Eq.trans same.symm ?_
    exact List.map_congr_left fun part _ => names_children_chapterOf part
  have subparameters := congrArg (fun families => ∀ family ∈ families, family.Nodup) families
  simp only [List.forall_mem_map, eq_iff_iff] at subparameters
  constructor
  · rintro ⟨distinct, distinctChildren⟩
    exact ⟨parameters ▸ distinct, subparameters.mp distinctChildren⟩
  · rintro ⟨distinct, distinctHeaders⟩
    exact ⟨parameters ▸ distinct, subparameters.mpr distinctHeaders⟩

/-! ## The order of headers -/

theorem sublist_headers (lines : List Text) :
    ((numberedParts lines).map Prod.fst).Sublist lines.zipIdx := by
  rw [numberedParts, map_fst_cutBefore]
  exact List.filter_sublist

theorem sublist_subheaders {lines : List Text} {part : NumberedLine × List NumberedLine}
    (listed : part ∈ numberedParts lines) : (subheaders part).Sublist lines.zipIdx := by
  have joined := (cutBefore_spec opensChapter lines.zipIdx).1
  have inPart : (subheaders part).Sublist (part.1 :: part.2) :=
    List.filter_sublist.trans (List.sublist_cons_self ..)
  have inParts : (part.1 :: part.2).Sublist (joinParts (numberedParts lines)) := by
    rw [joinParts, List.flatMap_def]
    exact List.sublist_flatten_of_mem (List.mem_map_of_mem listed)
  have inLines : (joinParts (numberedParts lines)).Sublist lines.zipIdx := by
    rw [← joined]
    exact List.sublist_append_right ..
  exact (inPart.trans inParts).trans inLines

theorem pairwise_zipIdx (lines : List Text) :
    lines.zipIdx.Pairwise fun first second => first.2 < second.2 := by
  have numbers : (lines.zipIdx.map Prod.snd).Pairwise (· < ·) := by
    rw [List.zipIdx_map_snd]
    exact List.pairwise_lt_range' 1
  exact List.pairwise_map.mp numbers

/-- A header that bears the name of one before it stands in the manual where its number
says, and so does the other one, before it. -/
theorem exists_first_of_sublist {lines : List Text} {before after : List NumberedLine}
    {header : NumberedLine} (inLines : (before ++ header :: after).Sublist lines.zipIdx)
    (known : nameAt header ∈ before.map nameAt) :
    lines[header.2]? = some header.1 ∧
      ∃ first ∈ before, first.2 < header.2 ∧ lines[first.2]? = some first.1 ∧
        nameAt first = nameAt header := by
  have ordered := (pairwise_zipIdx lines).sublist inLines
  obtain ⟨first, inBefore, same⟩ := List.mem_map.mp known
  have earlier : first.2 < header.2 :=
    (List.pairwise_append.mp ordered).2.2 first inBefore header List.mem_cons_self
  have headerIn : header ∈ lines.zipIdx := inLines.subset (by simp)
  have firstIn : first ∈ lines.zipIdx := inLines.subset (by simp [inBefore])
  exact ⟨List.mem_zipIdx_iff_getElem?.mp headerIn, first, inBefore, earlier,
    List.mem_zipIdx_iff_getElem?.mp firstIn, same⟩

/-- What is reported as a repetition is a header of the manual, and a header of the same
kind and name stands before it. -/
theorem Repetition.exists_first {lines : List Text} {name : Text} {header : NumberedLine}
    (repetition : Repetition lines name header) :
    lines[header.2]? = some header.1 ∧
      ∃ first : NumberedLine, first.2 < header.2 ∧ lines[first.2]? = some first.1 ∧
        nameAt first = nameAt header ∧
        (opensChapter first ∧ opensChapter header ∨ opensSection first ∧ opensSection header) := by
  cases repetition with
  | @subparameter earlier later part header split _ repeats =>
      obtain ⟨before, after, splitHeaders, -, known⟩ := repeats
      have listed : part ∈ numberedParts lines := by simp [split]
      have sections : ∀ header ∈ subheaders part, opensSection header := fun header inside =>
        (List.mem_filter.mp inside).2
      have inLines := sublist_subheaders listed
      rw [splitHeaders] at inLines sections
      obtain ⟨place, first, inBefore, earlierLine, firstPlace, same⟩ :=
        exists_first_of_sublist inLines known
      exact ⟨place, first, earlierLine, firstPlace, same,
        .inr ⟨sections first (by simp [inBefore]), sections header (by simp)⟩⟩
  | @parameter earlier later part split _ _ known =>
      have chapters : ∀ header ∈ (numberedParts lines).map Prod.fst, opensChapter header := by
        rw [numberedParts, map_fst_cutBefore]
        exact fun header inside => (List.mem_filter.mp inside).2
      have inLines := sublist_headers lines
      rw [split, List.map_append, List.map_cons] at inLines chapters
      have knownHeader : nameAt part.1 ∈ (earlier.map Prod.fst).map nameAt := by
        rwa [List.map_map]
      obtain ⟨place, first, inEarlier, earlierLine, firstPlace, same⟩ :=
        exists_first_of_sublist inLines knownHeader
      exact ⟨place, first, earlierLine, firstPlace, same,
        .inl ⟨chapters first (List.mem_append_left _ inEarlier), chapters part.1 (by simp)⟩⟩

end Outline

/-! ## Errors -/

/-- The place that an error names determines the line. -/
theorem Context.place_inj {context : Context} {first second : Nat}
    (same : context.place first = context.place second) : first = second := by
  have digits : Text.ofNat (first + 1) = Text.ofNat (second + 1) := by
    unfold place at same
    cases file : context.file with
    | none =>
        rw [file] at same
        exact List.append_cancel_left same
    | some name =>
        simp only [file, List.append_assoc] at same
        have positions := List.append_cancel_left same
        simp only [← List.append_assoc] at positions
        exact List.append_cancel_right (List.append_cancel_right (List.append_cancel_right positions))
  have numbers := congrArg (fun digits => Nat.ofDigitChars 10 digits 0) digits
  simp only [Text.ofNat, Nat.ofDigitChars_ten_toDigits] at numbers
  exact Nat.succ.inj numbers

namespace Manual

open Outline

/-- A chapter is refused behind others at its first header that repeats a name, or for
its own name. -/
theorem enter_chapterOf_eq_error_iff {context : Context} (reject : context.duplicates = .reject)
    {earlier : List (NumberedLine × List NumberedLine)} (unique : IsUnique earlier)
    {part : NumberedLine × List NumberedLine} {error : ParseError} :
    (chapterOf part).enter context
        (Catalogue.ofList ((earlier.map chapterOf).map Chapter.entry)) = .error error ↔
      (∃ header, IsFirstRepeat nameAt (subheaders part) header ∧
        error = .duplicateName (Commit.qualify (nameAt part.1) (nameAt header))
          (context.place header.2)) ∨
      ((subheaders part).map nameAt).Nodup ∧
        nameAt part.1 ∈ earlier.map (fun part => nameAt part.1) ∧
        error = .duplicateName (nameAt part.1) (context.place part.1.2) := by
  have names : ((earlier.map chapterOf).map Chapter.entry).map Entry.name =
      earlier.map fun part => nameAt part.1 := by
    rw [List.map_map]
    exact names_entry_chapterOf earlier
  have distinct : (((earlier.map chapterOf).map Chapter.entry).map Entry.name).Nodup :=
    names ▸ unique.parameters
  rw [Chapter.enter_eq_error_iff reject distinct, names, names_children_chapterOf, name_chapterOf,
    exists_isFirstRepeat_chapterOf part fun name number =>
      error = .duplicateName (Commit.qualify (nameAt part.1) name) (context.place number)]
  rfl

/-- Chapters have been entered if none of their names repeats. -/
theorem isUnique_iff (parts : List (NumberedLine × List NumberedLine)) :
    (∀ chapter ∈ parts.map chapterOf, (chapter.children.map Entry.name).Nodup) ∧
        ((parts.map chapterOf).map fun chapter => chapter.entry.name).Nodup ↔
      IsUnique parts := by
  rw [names_entry_chapterOf]
  simp only [List.forall_mem_map, names_children_chapterOf]
  constructor
  · rintro ⟨subparameters, parameters⟩
    exact ⟨parameters, subparameters⟩
  · rintro ⟨parameters, subparameters⟩
    exact ⟨subparameters, parameters⟩

/-- Where duplicates are rejected, a manual fails with an error that points to its first
repetition. -/
theorem result_ofLines_eq_error_iff {context : Context} (reject : context.duplicates = .reject)
    {lines : List Text} {error : ParseError} :
    (ofLines context lines).result = .error error ↔
      ∃ name header, Repetition lines name header ∧
        error = .duplicateName name (context.place header.2) := by
  have numbered : chapters lines.zipIdx = (numberedParts lines).map chapterOf := rfl
  rw [result_ofLines, enterAll, numbered,
    Commit.foldlM_empty_eq_error_iff reject
      (fun chapter => context.duplicates = .reject → (chapter.children.map Entry.name).Nodup)
      Chapter.entry Chapter.enter_eq_ok_iff]
  constructor
  · rintro ⟨before, chapter, after, split, good, distinct, refused⟩
    obtain ⟨earlier, rest, splitParts, rfl, same⟩ := List.map_eq_append_iff.mp split
    obtain ⟨part, later, rfl, rfl, rfl⟩ := List.map_eq_cons_iff.mp same
    have unique : IsUnique earlier :=
      (isUnique_iff earlier).mp ⟨fun chapter listed => good chapter listed reject, distinct⟩
    rcases (enter_chapterOf_eq_error_iff reject unique).mp refused with
      ⟨header, repeats, rfl⟩ | ⟨apart, known, rfl⟩
    · exact ⟨_, header, .subparameter splitParts unique repeats, rfl⟩
    · exact ⟨_, part.1, .parameter splitParts unique apart known, rfl⟩
  · rintro ⟨name, header, repetition, rfl⟩
    cases repetition with
    | @subparameter earlier later part header split unique repeats =>
        obtain ⟨good, distinct⟩ := (isUnique_iff earlier).mpr unique
        refine ⟨earlier.map chapterOf, chapterOf part, later.map chapterOf, by simp [split],
          fun chapter listed _ => good chapter listed, distinct, ?_⟩
        exact (enter_chapterOf_eq_error_iff reject unique).mpr (.inl ⟨header, repeats, rfl⟩)
    | @parameter earlier later part split unique apart known =>
        obtain ⟨good, distinct⟩ := (isUnique_iff earlier).mpr unique
        refine ⟨earlier.map chapterOf, chapterOf part, later.map chapterOf, by simp [split],
          fun chapter listed _ => good chapter listed, distinct, ?_⟩
        exact (enter_chapterOf_eq_error_iff reject unique).mpr (.inr ⟨apart, known, rfl⟩)

/-- A line that fails is behind the header that the error of the manual points to. -/
theorem lt_of_feed_fails {context : Context} {front : List Text} {line : Text}
    (rest : List Text) (fed : ((Reader.start context).feedAll front).failure = none)
    (fails : (((Reader.start context).feedAll front).reader.feed line).failure ≠ none) :
    ∃ name number, number < front.length ∧
      (ofLines context (front ++ line :: rest)).result =
        .error (.duplicateName name (context.place number)) := by
  obtain ⟨sameContext, count, past⟩ := Reader.feedAll_spec (Reader.isPast_start context) fed
  obtain ⟨error, failed⟩ := Option.ne_none_iff_exists'.mp fails
  obtain ⟨-, name, number, listed, rfl⟩ := Reader.isRejection_of_feed failed
  have stops := Reader.failure_feedAll_append fed (line :: rest)
  rw [Reader.feedAll_of_failure failed, failed] at stops
  refine ⟨name, number, ?_, ?_⟩
  · have before := past number listed
    rwa [count, Reader.start, Nat.zero_add] at before
  · rw [ofLines, Progress.conclude, stops, sameContext]
    rfl

/-- Where duplicates are rejected, a manual fails exactly if two of its chapters bear one
name or a chapter has two sub-parameters of one name.  The error names the first
repetition and points to the header that repeats: this is a header of the manual, one of
the same name stands before it, and a line that fails stands behind it. -/
theorem reject_points_to_first_repetition (file : Option Text) (lines : List Text) :
    let context := Context.mk file .reject
    ((∃ error, (ofLines context lines).result = .error error) ↔
      ¬((numberedParts lines).map fun part => nameAt part.1).Nodup ∨
        ∃ part ∈ numberedParts lines, ¬((subheaders part).map nameAt).Nodup) ∧
    (∀ error, (ofLines context lines).result = .error error ↔
      ∃ name header, Repetition lines name header ∧
        error = .duplicateName name (context.place header.2)) ∧
    ∀ name header, Repetition lines name header →
      lines[header.2]? = some header.1 ∧
      (∃ first : NumberedLine, first.2 < header.2 ∧ lines[first.2]? = some first.1 ∧
        nameAt first = nameAt header ∧
        (opensChapter first ∧ opensChapter header ∨
          opensSection first ∧ opensSection header)) ∧
      ∀ front line rest, lines = front ++ line :: rest →
        ((Reader.start context).feedAll front).failure = none →
        (((Reader.start context).feedAll front).reader.feed line).failure ≠ none →
        header.2 < front.length := by
  intro context
  have reject : context.duplicates = .reject := rfl
  refine ⟨?_, fun error => result_ofLines_eq_error_iff reject, ?_⟩
  · have unique_iff : (∃ catalogue, (ofLines context lines).result = .ok catalogue) ↔
        IsUnique (numberedParts lines) := by
      simp only [result_ofLines_eq_ok_iff, reject, true_imp_iff, isDistinct_iff, exists_and_left,
        exists_eq, and_true]
    have failed_iff : (∃ error, (ofLines context lines).result = .error error) ↔
        ¬IsUnique (numberedParts lines) := by
      rw [← unique_iff]
      cases (ofLines context lines).result <;> simp
    rw [failed_iff]
    constructor
    · intro repeated
      by_contra none
      rw [not_or, not_not, not_exists] at none
      exact repeated ⟨none.1, fun part listed => by simpa [listed] using none.2 part⟩
    · rintro (parameters | ⟨part, listed, subparameters⟩) unique
      · exact parameters unique.parameters
      · exact subparameters (unique.subparameters part listed)
  · intro name header repetition
    obtain ⟨place, first⟩ := repetition.exists_first
    refine ⟨place, first, ?_⟩
    rintro front line rest rfl fed fails
    obtain ⟨name', number, before, failed⟩ := lt_of_feed_fails rest fed fails
    have reported := (result_ofLines_eq_error_iff reject).mpr ⟨name, header, repetition, rfl⟩
    have same := Except.error.inj (failed.symm.trans reported)
    simp only [ParseError.duplicateName.injEq] at same
    exact Context.place_inj same.2 ▸ before

/-- The third chapter repeats the name of the first, and a name of its own two lines
before its end.  The latter is reported, at the next line that opens anything. -/
theorem reject_points_to_repeated_subparameter :
    let lines := ["lead".toList, "\ta".toList, "\t\tx".toList, "\tb".toList, "\ta".toList,
      "\t\tx".toList, "\t\t\ttext".toList, "\t\tx".toList, [], "\tc".toList]
    let header : NumberedLine := ("\t\tx".toList, 7)
    let reader := ((Reader.start ⟨none, .reject⟩).feedAll (lines.take 9)).reader
    Repetition lines "a.x".toList header ∧
      (reader.feed "\tc".toList).failure ≠ none ∧
      (ofLines ⟨none, .reject⟩ lines).result =
        .error (.duplicateName "a.x".toList " at line 8".toList) ∧
      header.2 < 9 := by
  intro lines header reader
  let part : NumberedLine × List NumberedLine :=
    (("\ta".toList, 4), [("\t\tx".toList, 5), ("\t\t\ttext".toList, 6), header, ([], 8)])
  have split : numberedParts lines =
      [(("\ta".toList, 1), [("\t\tx".toList, 2)]), (("\tb".toList, 3), [])] ++
        part :: [(("\tc".toList, 9), [])] := rfl
  have unique : IsUnique [(("\ta".toList, 1), [("\t\tx".toList, 2)]), (("\tb".toList, 3), [])] :=
    ⟨by decide, by decide⟩
  have repeats : IsFirstRepeat nameAt (subheaders part) header :=
    ⟨[("\t\tx".toList, 5)], [], rfl, by decide, by decide⟩
  have repetition : Repetition lines "a.x".toList header := .subparameter split unique repeats
  have place : (Context.mk none .reject).place header.2 = " at line 8".toList := by decide
  have fails : (reader.feed "\tc".toList).failure ≠ none := by
    have failed : (reader.feed "\tc".toList).failure =
        some (.duplicateName "a.x".toList " at line 8".toList) := rfl
    rw [failed]
    exact Option.some_ne_none _
  obtain ⟨-, points, located⟩ := reject_points_to_first_repetition none lines
  exact ⟨repetition, fails, (points _).mpr ⟨_, header, repetition, by rw [place]⟩,
    (located _ header repetition).2.2 (lines.take 9) "\tc".toList [] rfl rfl fails⟩

end Manual

end BootManual
