import BootManual.Proofs.Chapters

/-!
# The sections of a chapter

A chapter is the header of a parameter, the lines of the parameter itself, and a
section for each sub-parameter.  Sections cannot touch what the lines in front of
them say, not even if these leave a list of values open; all they do is turn a flag
into a complex parameter.  What a section describes does not depend on the chapter it
stands in.
-/

namespace BootManual

/-! ## Settling the format -/

theorem Catalogue.isEmpty_ofList (entries : List Entry) :
    (ofList entries).isEmpty = entries.isEmpty := by
  cases entries with
  | nil => rfl
  | cons entry rest =>
      have named : entry.name ∈ (ofList (entry :: rest)).slots.map Entry.name := by
        rw [slots_ofList, placeAll_cons]
        exact mem_names_placeAll (mem_names_place.mpr (.inl rfl))
      rw [isEmpty, List.isEmpty_cons, List.isEmpty_eq_false_iff]
      intro empty
      rw [empty] at named
      contradiction

/-- Sub-parameters change nothing but the format that stands for their absence. -/
theorem Commit.finished_withChildren (top : OpenParameter)
    (alone : top.children = Catalogue.empty)
    (undecided : top.draft.entry.format ≠ .flag) (children : Catalogue Entry) :
    finished (top.withChildren children) =
      { finished top with
        format :=
          if (finished top).format = .flag ∧ ¬children.isEmpty then .complex
          else (finished top).format
        children } := by
  have flushed : (top.withChildren children).draft.flush.entry =
      { top.draft.flush.entry with children } := rfl
  have format : top.draft.flush.entry.format = top.draft.entry.format := rfl
  have bare : top.draft.flush.entry.children = Catalogue.empty := alone
  rw [finished, finished, flushed, settleFormat, settleFormat, format, bare]
  cases unset : top.draft.entry.format.isUnset with
  | true =>
      cases children.isEmpty <;>
        simp [dropLeadingBreaks, Catalogue.isEmpty, Catalogue.empty]
  | false => simp [dropLeadingBreaks, format, undecided]

namespace Outline

theorem format_draftOf_ne_flag (header : Text) (own : List Text) :
    (draftOf header own).entry.format ≠ .flag := by
  rcases (Draft.continues_foldl_hear (Draft.start (entryAt header)) own).format with
    same | given
  · change (draftOf header own).entry.format = (entryAt header).format at same
    rw [same]
    rcases (Reader.entryOfText_plain (Line.classify header).headerText).2 with
      unset | ⟨hint, literal⟩
    · rw [entryAt, unset]
      exact Format.noConfusion
    · rw [entryAt, literal]
      exact Format.noConfusion
  · intro flag
    change (draftOf header own).entry.format.IsGiven at given
    rw [flag] at given
    contradiction

/-! ## Putting a chapter together -/

/-- A section is a header of a sub-parameter with lines that are no headers. -/
structure IsSection (part : Text × List Text) : Prop where
  opens : (Line.classify part.1).isNestedHeader = true
  plain : ∀ line ∈ part.2, (Line.classify line).isHeader = false

variable {header : Text} {own : List Text} {parts : List (Text × List Text)}

theorem sections_append_joinParts (plain : ∀ line ∈ own, (Line.classify line).isHeader = false)
    (isSections : ∀ part ∈ parts, IsSection part) :
    sections (own ++ joinParts parts) = (own, parts) := by
  apply cutBefore_joinParts
  · intro line inside
    exact Line.isNestedHeader_eq_false_of_plain (plain line inside)
  · intro part listed
    have isSection := isSections part listed
    exact ⟨isSection.opens,
      fun line inside => Line.isNestedHeader_eq_false_of_plain (isSection.plain line inside)⟩

/-- A header with lines that hold no further header of a parameter makes one part. -/
theorem parts_cons (opens : (Line.classify header).isTopHeader) {body : List Text}
    (quiet : ∀ line ∈ body, (Line.classify line).isTopHeader = false) :
    Outline.parts (header :: body) = [(header, body)] := by
  rw [Outline.parts, cutBefore_cons_of_forall]
  · exact opens
  · exact quiet

/-- A parameter with sections is the parameter without them, made complex if it was a
flag, and with the sub-parameters that the sections describe. -/
theorem entryOf_append_joinParts (header : Text)
    (plain : ∀ line ∈ own, (Line.classify line).isHeader = false)
    (isSections : ∀ part ∈ parts, IsSection part) :
    entryOf (header, own ++ joinParts parts) =
      { entryOf (header, own) with
        format :=
          if (entryOf (header, own)).format = .flag ∧ parts ≠ [] then .complex
          else (entryOf (header, own)).format
        children := Catalogue.ofList (parts.map subentryOf) } := by
  have alone : sections own = (own, []) := by
    have cut := sections_append_joinParts plain (List.forall_mem_nil IsSection)
    rwa [joinParts_nil, List.append_nil] at cut
  have children (sections : Catalogue Entry) :=
    Commit.finished_withChildren ⟨draftOf header own, 0⟩ (children_draftOf header own)
      (format_draftOf_ne_flag header own) sections
  have same : (Catalogue.ofList (parts.map subentryOf)).isEmpty = parts.isEmpty := by
    rw [Catalogue.isEmpty_ofList, List.isEmpty_map]
  have bare : (Catalogue.ofList []).isEmpty = true := rfl
  simp only [entryOf, childrenOf, sections_append_joinParts plain isSections, alone, children,
    same, bare, List.map_nil]
  simp

/-- A section on its own gives a parameter one sub-parameter. -/
theorem children_entryOf_section (header : Text) {part : Text × List Text}
    (isSection : IsSection part) :
    (entryOf (header, part.1 :: part.2)).children = Catalogue.ofList [subentryOf part] := by
  have joined := entryOf_append_joinParts header
    (List.forall_mem_nil fun line => (Line.classify line).isHeader = false)
    (List.forall_mem_singleton.mpr isSection)
  rw [List.nil_append, joinParts_cons, joinParts_nil, List.append_nil] at joined
  rw [joined]
  rfl

/-- A section describes its sub-parameter by its header and then line by line. -/
theorem description_subentryOf {part : Text × List Text}
    (opens : (Line.classify part.1).isNestedHeader) :
    ∃ described,
      Header.read? (Line.classify part.1).headerText = some described ∧
      (subentryOf part).description =
        (described.description ++
          part.2.flatMap fun line => (Line.classify line).addition).dropWhile (· == '\n') := by
  have starts := Line.startsName_of_nestedHeader (Line.isNestedHeader_iff.mp opens)
  rcases Header.exists_read? starts with ⟨described, found, -⟩
  have entry : entryAt part.1 = Reader.entryOfHeader described := by
    simp [entryAt, Reader.entryOfText, found]
  refine ⟨described, found, ?_⟩
  rw [subentryOf, entry]
  rfl

end Outline

/-! ## Reading a chapter -/

namespace Manual

/-- Where later entries replace earlier ones, a manual of one chapter comes to one
entry.  It has the name, the flags and the description that it would have without its
sections, and the format too, unless that is a flag and there are sections.  Its
sub-parameters are what its sections come to one by one under the same header, and a
section describes its sub-parameter by its header and then line by line. -/
theorem result_ofLines_chapter (file : Option Text) {header text : Text}
    (opens : Line.classify header = .topHeader text) {own : List Text}
    (plain : ∀ line ∈ own, (Line.classify line).isHeader = false)
    {parts : List (Text × List Text)} (isSections : ∀ part ∈ parts, Outline.IsSection part) :
    ∃ alone children,
      (ofLines ⟨file, .replace⟩ (header :: own)).result = .ok (Catalogue.ofList [alone]) ∧
      List.Forall₂
        (fun (part : Text × List Text) (child : Entry) =>
          (∃ carrier,
            (ofLines ⟨file, .replace⟩ (header :: part.1 :: part.2)).result =
              .ok (Catalogue.ofList [carrier]) ∧
            carrier.children = Catalogue.ofList [child]) ∧
          ∃ described,
            Header.read? (Line.classify part.1).headerText = some described ∧
            child.description =
              (described.description ++
                part.2.flatMap fun line => (Line.classify line).addition).dropWhile (· == '\n'))
        parts children ∧
      (ofLines ⟨file, .replace⟩ (header :: (own ++ joinParts parts))).result =
        .ok (Catalogue.ofList
          [{ alone with
             format := if alone.format = .flag ∧ parts ≠ [] then .complex else alone.format
             children := Catalogue.ofList children }]) := by
  have isHeader : (Line.classify header).isTopHeader := by rw [opens]; rfl
  have chapter {body : List Text}
      (quiet : ∀ line ∈ body, (Line.classify line).isTopHeader = false) :
      (ofLines ⟨file, .replace⟩ (header :: body)).result =
        .ok (Catalogue.ofList [Outline.entryOf (header, body)]) := by
    rw [result_ofLines_of_replace rfl, Outline.entriesOf, Outline.parts_cons isHeader quiet]
    rfl
  have ownQuiet : ∀ line ∈ own, (Line.classify line).isTopHeader = false :=
    fun line inside => Line.isTopHeader_eq_false_of_plain (plain line inside)
  have partQuiet : ∀ part ∈ parts, ∀ line ∈ part.1 :: part.2,
      (Line.classify line).isTopHeader = false := by
    intro part listed
    have isSection := isSections part listed
    rw [List.forall_mem_cons]
    exact ⟨Line.isTopHeader_eq_false_of_nested isSection.opens,
      fun line inside => Line.isTopHeader_eq_false_of_plain (isSection.plain line inside)⟩
  refine ⟨Outline.entryOf (header, own), parts.map Outline.subentryOf, chapter ownQuiet, ?_, ?_⟩
  · rw [List.forall₂_map_right_iff, List.forall₂_same]
    intro part listed
    have isSection := isSections part listed
    constructor
    · exact ⟨_, chapter (partQuiet part listed),
        Outline.children_entryOf_section header isSection⟩
    · exact Outline.description_subentryOf isSection.opens
  · rw [← Outline.entryOf_append_joinParts header plain isSections]
    apply chapter
    rw [List.forall_mem_append]
    constructor
    · exact ownQuiet
    · intro line inside
      rcases List.mem_flatMap.mp inside with ⟨part, listed, insidePart⟩
      exact partQuiet part listed line insidePart

/-- A line that would end a list of values left open is description once a section
has begun. -/
theorem result_ofLines_chapter_unfinished :
    let header := "\ta".toList
    let own := ["\t\t\t\x7b on |".toList]
    let parts := [("\t\tb=<int> Sub".toList, ["\t\t\toff \x7d".toList, [], "\t\t\t\tlast".toList])]
    Line.classify header = .topHeader "a".toList ∧
    (∀ line ∈ own, (Line.classify line).isHeader = false) ∧
    (∀ part ∈ parts, Outline.IsSection part) ∧
    ∃ alone children,
      (ofLines ⟨none, .replace⟩ (header :: own)).result = .ok (Catalogue.ofList [alone]) ∧
      List.Forall₂
        (fun (part : Text × List Text) (child : Entry) =>
          (∃ carrier,
            (ofLines ⟨none, .replace⟩ (header :: part.1 :: part.2)).result =
              .ok (Catalogue.ofList [carrier]) ∧
            carrier.children = Catalogue.ofList [child]) ∧
          ∃ described,
            Header.read? (Line.classify part.1).headerText = some described ∧
            child.description =
              (described.description ++
                part.2.flatMap fun line => (Line.classify line).addition).dropWhile (· == '\n'))
        parts children ∧
      (ofLines ⟨none, .replace⟩ (header :: (own ++ joinParts parts))).result =
        .ok (Catalogue.ofList
          [{ alone with
             format := if alone.format = .flag ∧ parts ≠ [] then .complex else alone.format
             children := Catalogue.ofList children }]) := by
  intro header own parts
  have opens : Line.classify header = .topHeader "a".toList := rfl
  have plain : ∀ line ∈ own, (Line.classify line).isHeader = false := by decide
  have isSections : ∀ part ∈ parts, Outline.IsSection part := by
    rw [List.forall_mem_singleton]
    exact ⟨rfl, by decide⟩
  exact ⟨opens, plain, isSections, result_ofLines_chapter none opens plain isSections⟩

end Manual

end BootManual
