import BootManual.Proofs.Sections
import BootManual.Proofs.WrittenHeaders
import BootManual.Proofs.WrittenLines

/-!
# Reading written manuals

What can be written in the dialect is read back from what is written: every section,
every chapter, and in the end the whole manual, whatever happens to duplicates.
-/

namespace BootManual

open Text

/-! ## Sections -/

namespace Entry

variable {entry : Entry}

/-- The description is what its lines come to without the break in front of them. -/
theorem dropWhile_describedLines (writable : IsWritableDescription entry.description) :
    (entry.describedLines.flatMap ('\n' :: ·)).dropWhile (· == '\n') = entry.description := by
  have kept : entry.description.dropWhile (· == '\n') = entry.description := by
    apply dropWhile_eq_self
    intro letter first
    rw [beq_eq_false_iff_ne]
    rintro rfl
    exact writable.head first
  unfold describedLines
  split
  · next empty =>
    rw [List.isEmpty_iff.mp empty]
    rfl
  · have nonempty : pieces '\n' entry.description ≠ [] := List.splitOn_ne_nil '\n' _
    rw [flatMap_cons nonempty, join_pieces,
      List.dropWhile_cons_of_pos (by decide), kept]

theorem mem_describedLines {line : Text} (listed : line ∈ entry.describedLines) :
    line ∈ pieces '\n' entry.description := by
  unfold describedLines at listed
  split at listed
  · contradiction
  · exact listed

end Entry

/-- What a written header opens. -/
theorem Reader.entryOfText_write {name : Text} {flags : Option (List Text)} {hint : Option Text}
    (named : IsName name) (flagged : ∀ given ∈ flags, AreWritableFlags given)
    (hinted : ∀ text ∈ hint, IsWritablePhrase text) :
    entryOfText (Header.write name flags hint) =
      entryOfHeader ⟨name, flags, hint, []⟩ := by
  rw [entryOfText, Header.read?_write named flagged hinted]
  rfl

theorem Format.writable_phrase? {format : Format}
    (writable : format = .unset ∨ ∃ text, format = .literal text ∧ IsWritablePhrase text) :
    ∀ text ∈ format.phrase?, IsWritablePhrase text := by
  rintro text given
  rcases writable with rfl | ⟨phrase, rfl, writable⟩
  · contradiction
  · rw [← Option.some.inj given]
    exact writable

namespace Outline

variable {entry : Entry}

theorem classify_writeSection (writable : entry.IsWritableSubparameter) :
    Line.classify entry.writeSection.1 =
      .nestedHeader (Header.write entry.name entry.flags entry.format.phrase?) := by
  have stripped := Header.isStripped_write writable.name writable.flags
    (Format.writable_phrase? writable.format)
  rw [Entry.writeSection, Line.classify_indented_two (Header.startsName_write writable.name _ _),
    trimEnd, dropEndWhile_eq_self stripped.last]

theorem flatMap_addition {lines : List Text} (trimmed : ∀ line ∈ lines, IsStripped isBlank line) :
    ((lines.map (Line.indented 4)).flatMap fun line => (Line.classify line).addition) =
      lines.flatMap ('\n' :: ·) := by
  induction lines with
  | nil => rfl
  | cons line rest inductionHypothesis =>
      rw [List.forall_mem_cons] at trimmed
      rw [List.map_cons, List.flatMap_cons, List.flatMap_cons, inductionHypothesis trimmed.2,
        Line.classify_indented_four trimmed.1]
      rfl

/-- A written section is read back. -/
theorem subentryOf_writeSection (writable : entry.IsWritableSubparameter) :
    subentryOf entry.writeSection = entry := by
  have hinted := Format.writable_phrase? writable.format
  have opened : entryAt entry.writeSection.1 =
      Reader.entryOfHeader ⟨entry.name, entry.flags, entry.format.phrase?, []⟩ := by
    rw [entryAt, classify_writeSection writable]
    exact Reader.entryOfText_write writable.name writable.flags hinted
  have added : (entry.writeSection.2.flatMap fun line => (Line.classify line).addition) =
      entry.describedLines.flatMap ('\n' :: ·) :=
    flatMap_addition fun line listed =>
      writable.description.trimmed line (Entry.mem_describedLines listed)
  have described := Entry.dropWhile_describedLines writable.description
  rw [subentryOf, opened, added]
  rcases entry with ⟨name, flags, format, description, children⟩
  obtain rfl : children = Catalogue.empty := writable.children
  rcases writable.format with unset | ⟨text, literal, -⟩
  · obtain rfl : format = .unset := unset
    simpa [Commit.dropLeadingBreaks, Reader.entryOfHeader, Format.phrase?] using described
  · obtain rfl : format = .literal text := literal
    simpa [Commit.dropLeadingBreaks, Reader.entryOfHeader, Format.phrase?] using described

end Outline

/-! ## Chapters -/

/-- The format that the lines of a parameter state. -/
def Format.stated : Format → Format
  | literal text => literal text
  | choice values => choice values
  | _ => unset

theorem Format.isStripped_of_mem_write {format : Format} (writable : format.IsWritable)
    {line : Text} (listed : line ∈ format.write) : IsStripped isBlank line := by
  cases format with
  | literal text =>
      rw [List.mem_singleton.mp listed]
      apply Header.isStripped_writeHint
      intro phrase given
      rw [← Option.some.inj given]
      exact writable
  | choice values =>
      rw [List.mem_singleton.mp listed]
      exact ValueList.isStripped_write values
  | _ => contradiction

/-- Lines that state a format set it, and there are none for a format that depends on
sub-parameters alone. -/
theorem Draft.foldl_hear_format {format : Format} (writable : format.IsWritable) (entry : Entry)
    (unset : entry.format = .unset) :
    (format.write.map (Line.indented 3)).foldl hear (start entry) =
      start { entry with format := format.stated } := by
  have same : { entry with format := .unset } = entry := by
    rcases entry with ⟨name, flags, format, description, children⟩
    obtain rfl : format = .unset := unset
    rfl
  cases format with
  | unset => contradiction
  | literal text =>
      have stripped := Format.isStripped_of_mem_write writable List.mem_cons_self
      rw [Format.write, List.map_singleton, List.foldl_cons, hear_indented _ stripped,
        Header.writeHint_some, absorb_directive entry writable.trimmed writable.isClear]
      rfl
  | choice values =>
      have stripped := Format.isStripped_of_mem_write writable List.mem_cons_self
      rw [Format.write, List.map_singleton, List.foldl_cons, hear_indented _ stripped,
        absorb_values entry writable]
      rfl
  | flag => exact congrArg start same.symm
  | complex => exact congrArg start same.symm

theorem Commit.settleFormat_stated (entry : Entry) (writable : entry.format.IsWritable)
    (flag : entry.format = .flag → entry.children.slots = [])
    (complex : entry.format = .complex → entry.children.slots ≠ []) :
    settleFormat { entry with format := entry.format.stated } = entry := by
  rcases entry with ⟨name, flags, format, description, children⟩
  cases format with
  | unset => contradiction
  | literal text => rfl
  | choice values => rfl
  | flag =>
      have childless : children.isEmpty = true := List.isEmpty_iff.mpr (flag rfl)
      simp [settleFormat, Format.stated, Format.isUnset, childless]
  | complex =>
      have present : children.isEmpty = false := List.isEmpty_eq_false_iff.mpr (complex rfl)
      simp [settleFormat, Format.stated, Format.isUnset, present]

namespace Outline

variable {entry : Entry}

theorem classify_writeChapter (writable : entry.IsWritable) :
    Line.classify entry.writeChapter.1 =
      .topHeader (Header.write entry.name entry.flags none) := by
  have stripped : IsStripped isBlank (Header.write entry.name entry.flags none) :=
    Header.isStripped_write writable.name writable.flags (by simp)
  rw [Entry.writeChapter, Line.classify_indented_one (Header.startsName_write writable.name _ _),
    trimEnd, dropEndWhile_eq_self stripped.last]

theorem isSection_writeSection (writable : entry.IsWritableSubparameter) :
    IsSection entry.writeSection where
  opens := by rw [classify_writeSection writable]; rfl
  plain line inside := by
    rcases List.mem_map.mp inside with ⟨text, listed, rfl⟩
    rw [Line.classify_indented_four
      (writable.description.trimmed text (Entry.mem_describedLines listed))]
    rfl

theorem isStripped_of_mem_own (writable : entry.IsWritable) {text : Text}
    (listed : text ∈ entry.format.write ++ entry.describedLines) : IsStripped isBlank text := by
  rcases List.mem_append.mp listed with inFormat | inDescription
  · exact Format.isStripped_of_mem_write writable.format inFormat
  · exact writable.description.trimmed text (Entry.mem_describedLines inDescription)

theorem isHeader_of_mem_own (writable : entry.IsWritable) {line : Text}
    (inside : line ∈ (entry.format.write ++ entry.describedLines).map (Line.indented 3)) :
    (Line.classify line).isHeader = false := by
  rcases List.mem_map.mp inside with ⟨text, listed, rfl⟩
  rw [Line.classify_indented_three (isStripped_of_mem_own writable listed)]
  rfl

theorem isSection_of_mem_sections (writable : entry.IsWritable) {part : Text × List Text}
    (listed : part ∈ entry.children.slots.map Entry.writeSection) : IsSection part := by
  rcases List.mem_map.mp listed with ⟨child, inside, rfl⟩
  exact isSection_writeSection (writable.children.each child inside)

/-- A written chapter is cut into the lines of the parameter and its sections. -/
theorem sections_writeChapter (writable : entry.IsWritable) :
    sections entry.writeChapter.2 =
      ((entry.format.write ++ entry.describedLines).map (Line.indented 3),
        entry.children.slots.map Entry.writeSection) :=
  sections_append_joinParts (fun _ => isHeader_of_mem_own writable)
    fun _ => isSection_of_mem_sections writable

/-- The sections of a written chapter are read back. -/
theorem childrenOf_writeChapter (writable : entry.IsWritable) :
    childrenOf entry.writeChapter = entry.children.slots := by
  rw [childrenOf, sections_writeChapter writable, List.map_map]
  apply map_eq_self
  intro child listed
  exact subentryOf_writeSection (writable.children.each child listed)

/-- The lines of a written parameter state its format and give its description. -/
theorem draftOf_writeChapter (writable : entry.IsWritable) :
    draftOf entry.writeChapter.1
        ((entry.format.write ++ entry.describedLines).map (Line.indented 3)) =
      Draft.start
        { entry with
          format := entry.format.stated
          description := entry.describedLines.flatMap ('\n' :: ·)
          children := Catalogue.empty } := by
  have opened : entryAt entry.writeChapter.1 =
      Reader.entryOfHeader ⟨entry.name, entry.flags, none, []⟩ := by
    rw [entryAt, classify_writeChapter writable]
    exact Reader.entryOfText_write writable.name writable.flags (by simp)
  rw [draftOf, opened, List.map_append, List.foldl_append,
    Draft.foldl_hear_format writable.format _ rfl, Draft.foldl_hear_plain]
  · rfl
  · exact fun line listed =>
      writable.description.trimmed line (Entry.mem_describedLines listed)
  · exact fun line listed => writable.plain line (Entry.mem_describedLines listed)

/-- A written chapter is read back. -/
theorem entryOf_writeChapter (writable : entry.IsWritable) :
    entryOf entry.writeChapter = entry := by
  have settled :
      Commit.settleFormat
          { entry with
            format := entry.format.stated
            description := entry.describedLines.flatMap ('\n' :: ·) } =
        { entry with description := entry.describedLines.flatMap ('\n' :: ·) } :=
    Commit.settleFormat_stated { entry with description := _ } writable.format writable.flag
      writable.complex
  rw [entryOf, childrenOf_writeChapter writable, sections_writeChapter writable,
    draftOf_writeChapter writable,
    Catalogue.ofList_slots writable.children.indexed writable.children.distinct,
    Commit.finished]
  simp only [OpenParameter.withChildren, Draft.start, Draft.flush, Option.getD_none,
    Draft.describe_nil]
  rw [settled, Commit.dropLeadingBreaks, Entry.dropWhile_describedLines writable.description]
  rcases entry with ⟨name, flags, format, description, children⟩
  rfl

/-- A written chapter opens with its header and holds no other header of a parameter. -/
theorem isPart_writeChapter (writable : entry.IsWritable) :
    IsPart (fun line => (Line.classify line).isTopHeader) entry.writeChapter where
  head := by rw [classify_writeChapter writable]; rfl
  body line inside := by
    rw [Entry.writeChapter] at inside
    rcases List.mem_append.mp inside with own | below
    · exact Line.isTopHeader_eq_false_of_plain (isHeader_of_mem_own writable own)
    · rcases List.mem_flatMap.mp below with ⟨part, listed, inPart⟩
      have isSection := isSection_of_mem_sections writable listed
      rcases List.mem_cons.mp inPart with rfl | inBody
      · exact Line.isTopHeader_eq_false_of_nested isSection.opens
      · exact Line.isTopHeader_eq_false_of_plain (isSection.plain line inBody)

variable {entries : List Entry} (writable : ∀ entry ∈ entries, entry.IsWritable)

include writable

theorem parts_joinParts_writeChapter :
    parts (joinParts (entries.map Entry.writeChapter)) = entries.map Entry.writeChapter := by
  have cut := cutBefore_joinParts (List.forall_mem_nil _)
    (List.forall_mem_map.mpr fun entry listed => isPart_writeChapter (writable entry listed))
  exact congrArg Prod.snd cut

theorem entriesOf_joinParts_writeChapter :
    entriesOf (joinParts (entries.map Entry.writeChapter)) = entries := by
  rw [entriesOf, parts_joinParts_writeChapter writable, List.map_map]
  apply map_eq_self
  intro entry listed
  exact entryOf_writeChapter (writable entry listed)

theorem isDistinct_joinParts_writeChapter (distinct : (entries.map Entry.name).Nodup) :
    IsDistinct (joinParts (entries.map Entry.writeChapter)) where
  parameters := by rwa [entriesOf_joinParts_writeChapter writable]
  subparameters := by
    rw [parts_joinParts_writeChapter writable, List.forall_mem_map]
    intro entry listed
    rw [childrenOf_writeChapter (writable entry listed)]
    exact (writable entry listed).children.distinct

end Outline

/-! ## Lines and text -/

/-- A line that comes back whole from a text in which a newline closes it. -/
structure Lines.IsWhole (line : Text) : Prop where
  oneLine : '\n' ∉ line
  last : line.getLast? ≠ some '\r'

namespace Lines

theorem splitOn_flatMap {lines : List Text} (oneLine : ∀ line ∈ lines, '\n' ∉ line) :
    (lines.flatMap (· ++ ['\n'])).splitOn '\n' = lines ++ [[]] := by
  induction lines with
  | nil => rfl
  | cons line rest inductionHypothesis =>
      rw [List.forall_mem_cons] at oneLine
      rw [List.flatMap_cons, List.append_assoc, List.singleton_append,
        List.splitOn_append_cons_self_of_not_mem oneLine.1, inductionHypothesis oneLine.2]
      rfl

/-- Lines that a newline closes are the lines of the text. -/
theorem ofText_flatMap {lines : List Text} (whole : ∀ line ∈ lines, IsWhole line) :
    ofText (lines.flatMap (· ++ ['\n'])) = lines := by
  have split := splitOn_flatMap fun line listed => (whole line listed).oneLine
  have kept : lines.map (dropReturn '\r') = lines := by
    apply map_eq_self
    intro line listed
    have last := (whole line listed).last
    simp [dropReturn, last]
  simp [ofText, cut, closed, unclosed, split, kept]

theorem isWhole_indented (tabs : Nat) {text : Text} (oneLine : '\n' ∉ text)
    (trimmed : IsStripped isBlank text) : IsWhole (Line.indented tabs text) where
  oneLine inside := by
    rcases List.mem_append.mp inside with inTabs | inText
    · exact absurd (List.eq_of_mem_replicate inTabs) (by decide)
    · exact oneLine inText
  last last := by
    rw [Line.indented, List.getLast?_append, Option.or_eq_some_iff] at last
    rcases last with inText | ⟨-, inTabs⟩
    · exact absurd (trimmed.last '\r' inText) (by decide)
    · exact absurd (List.eq_of_mem_replicate (List.mem_of_getLast? inTabs)) (by decide)

end Lines

theorem Format.newline_not_mem_write {format : Format} (writable : format.IsWritable)
    {line : Text} (listed : line ∈ format.write) : '\n' ∉ line := by
  cases format with
  | literal text =>
      rw [List.mem_singleton.mp listed]
      apply Header.newline_not_mem_writeHint
      intro phrase given
      rw [← Option.some.inj given]
      exact writable
  | choice values =>
      rw [List.mem_singleton.mp listed]
      exact ValueList.newline_not_mem_write writable
  | _ => contradiction

namespace Entry

variable {entry : Entry} {line : Text}

theorem newline_not_mem_describedLines (listed : line ∈ entry.describedLines) : '\n' ∉ line :=
  fun inside => (mem_of_mem_pieces (mem_describedLines listed) inside).2 rfl

theorem isWhole_of_mem_writeSection (writable : entry.IsWritableSubparameter)
    (inside : line ∈ entry.writeSection.1 :: entry.writeSection.2) : Lines.IsWhole line := by
  have hinted := Format.writable_phrase? writable.format
  rcases List.mem_cons.mp inside with rfl | inBody
  · exact Lines.isWhole_indented 2
      (Header.newline_not_mem_write writable.name writable.flags hinted)
      (Header.isStripped_write writable.name writable.flags hinted)
  · rcases List.mem_map.mp inBody with ⟨text, listed, rfl⟩
    exact Lines.isWhole_indented 4 (newline_not_mem_describedLines listed)
      (writable.description.trimmed text (mem_describedLines listed))

theorem isWhole_of_mem_writeChapter (writable : entry.IsWritable)
    (inside : line ∈ entry.writeChapter.1 :: entry.writeChapter.2) : Lines.IsWhole line := by
  rcases List.mem_cons.mp inside with rfl | inBody
  · exact Lines.isWhole_indented 1
      (Header.newline_not_mem_write writable.name writable.flags (by simp))
      (Header.isStripped_write writable.name writable.flags (by simp))
  · rcases List.mem_append.mp inBody with own | below
    · rcases List.mem_map.mp own with ⟨text, listed, rfl⟩
      refine Lines.isWhole_indented 3 ?_ (Outline.isStripped_of_mem_own writable listed)
      rcases List.mem_append.mp listed with inFormat | inDescription
      · exact Format.newline_not_mem_write writable.format inFormat
      · exact newline_not_mem_describedLines inDescription
    · rcases List.mem_flatMap.mp below with ⟨part, listed, inPart⟩
      rcases List.mem_map.mp listed with ⟨child, inSlots, rfl⟩
      exact isWhole_of_mem_writeSection (writable.children.each child inSlots) inPart

end Entry

/-- Parameters that can be written are read back from their manual, in order and with
all that was said about them, whatever happens to duplicates. -/
theorem Manual.result_ofText_write (context : Context) {entries : List Entry}
    (writable : ∀ entry ∈ entries, entry.IsWritable)
    (distinct : (entries.map Entry.name).Nodup) :
    (ofText context (write entries)).result = .ok (Catalogue.ofList entries) ∧
      (Catalogue.ofList entries).slots = entries := by
  have lines : Lines.ofText (write entries) = joinParts (entries.map Entry.writeChapter) := by
    apply Lines.ofText_flatMap
    intro line inside
    rcases List.mem_flatMap.mp inside with ⟨part, listed, inPart⟩
    rcases List.mem_map.mp listed with ⟨entry, inEntries, rfl⟩
    exact Entry.isWhole_of_mem_writeChapter (writable entry inEntries) inPart
  constructor
  · rw [ofText, lines, result_ofLines_eq_ok_iff, Outline.entriesOf_joinParts_writeChapter writable]
    constructor
    · intro _
      exact Outline.isDistinct_joinParts_writeChapter writable distinct
    · rfl
  · exact Catalogue.slots_ofList_of_nodup distinct

/-- Brackets inside a list of flags, a comma in the only value, a directive without its
space, and a brace in the description of a sub-parameter are all read back. -/
theorem Manual.result_ofText_write_marks :
    let child : Entry :=
      ⟨"x".toList, none, .literal "<int> or none".toList, "Two\n\x7b lines".toList, Catalogue.empty⟩
    let parameter : Entry :=
      ⟨"acpi".toList, some ["]a".toList, "b[".toList], .choice ["a,b".toList],
        "First\n\nFormat:".toList, Catalogue.ofList [child]⟩
    parameter.IsWritable ∧
      (ofText ⟨none, .reject⟩ (write [parameter])).result = .ok (Catalogue.ofList [parameter]) ∧
      (Catalogue.ofList [parameter]).slots = [parameter] := by
  intro child parameter
  have childWritable : child.IsWritableSubparameter :=
    { name := ⟨⟨'x', rfl, rfl⟩, by decide, by decide⟩
      flags := by simp [child]
      format := .inr ⟨_, rfl, ⟨by decide, by decide⟩, by decide, by decide⟩
      description := ⟨by decide, by decide⟩
      children := rfl }
  have flags : AreWritableFlags ["]a".toList, "b[".toList] :=
    { each := by
        rw [List.forall_mem_cons, List.forall_mem_singleton]
        exact ⟨⟨by decide, by decide, by decide⟩, by decide, by decide, by decide⟩
      first := by decide
      last := by decide }
  have values : AreWritableValues ["a,b".toList] :=
    { nonempty := by decide
      each := by
        rw [List.forall_mem_singleton]
        exact ⟨by decide, by decide, by simp, by decide⟩
      oneLine := by decide
      first := by decide }
  have lines : pieces '\n' parameter.description =
      ["First".toList, [], "Format:".toList] := rfl
  have writable : parameter.IsWritable :=
    { name := ⟨⟨'a', rfl, rfl⟩, by decide, by decide⟩
      flags := by
        intro given inside
        rw [← Option.some.inj inside]
        exact flags
      format := values
      flag := Format.noConfusion
      complex := Format.noConfusion
      description := ⟨by decide, by decide⟩
      plain := by
        rw [lines, List.forall_mem_cons, List.forall_mem_cons, List.forall_mem_singleton]
        exact ⟨⟨by decide, by decide⟩, ⟨by decide, by decide⟩, by decide, by decide⟩
      children := ⟨rfl, List.nodup_singleton _, List.forall_mem_singleton.mpr childWritable⟩ }
  have read := result_ofText_write ⟨none, .reject⟩ (List.forall_mem_singleton.mpr writable)
    (List.nodup_singleton _)
  exact ⟨writable, read⟩

end BootManual
