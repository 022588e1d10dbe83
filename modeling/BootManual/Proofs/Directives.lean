import BootManual.Proofs.BareHeaders
import BootManual.Proofs.Sections
import BootManual.Proofs.WrittenLines

/-!
# Where a directive stands

A format directive on a header that has no description says the same as on the line
behind the header, as long as there is no brace in it.  With a brace it is description:
the entry has the format that it would have without the directive, and the directive
stands in front of whatever else is described.
-/

namespace BootManual

open Text

/-! ## Description in front -/

/-- The entry with a text in front of its description. -/
def Entry.behind (given : Text) (entry : Entry) : Entry :=
  { entry with description := given ++ entry.description }

namespace Draft

/-- The draft with a text in front of its description. -/
def behind (given : Text) (draft : Draft) : Draft :=
  { draft with entry := draft.entry.behind given }

variable (given : Text)

theorem describe_behind (entry : Entry) (lines : List Text) :
    describe (entry.behind given) lines = (describe entry lines).behind given := by
  simp [describe, appendLines, Entry.behind]

theorem flush_behind (draft : Draft) : (draft.behind given).flush = draft.flush.behind given := by
  simp only [flush, behind, describe_behind]

theorem readValues_behind (entry : Entry) (lines : List Text) :
    readValues (entry.behind given) lines = (readValues entry lines).map id (behind given) := by
  unfold readValues
  split
  · simp [describe_behind, start, behind]
  · rfl

theorem readBraces_behind (entry : Entry) (line : Text) :
    readBraces (entry.behind given) line = (readBraces entry line).behind given := by
  unfold readBraces
  split <;> rfl

theorem absorbInner_behind (draft : Draft) (line : Text) :
    (draft.behind given).absorbInner line = (draft.absorbInner line).map id (behind given) := by
  rcases draft with ⟨entry, block⟩
  cases block with
  | none =>
      simp only [absorbInner, behind, readBraces_behind, describe_behind, start]
      split <;> rfl
  | some lines =>
      simp only [absorbInner, behind, readValues_behind, describe_behind]
      split
      · rfl
      split <;> rfl

theorem absorbContent_behind (draft : Draft) (line : Text) :
    (draft.behind given).absorbContent line =
      (draft.absorbContent line).map id (behind given) := by
  have flushed : (draft.behind given).flush.entry = draft.flush.entry.behind given :=
    congrArg entry (flush_behind given draft)
  simp only [absorbContent, flushed, readValues_behind, absorbInner_behind]
  split
  · rfl
  split <;> rfl

theorem absorb_behind (draft : Draft) (line : Text) :
    (draft.behind given).absorb line = (draft.absorb line).map id (behind given) := by
  have same : (draft.behind given).block = draft.block := rfl
  simp only [absorb, absorbContent_behind, same]
  split
  · rfl
  split <;> rfl

theorem hear_behind (draft : Draft) (line : Text) :
    (draft.behind given).hear line = (draft.hear line).behind given := by
  have described : describe (draft.behind given).entry [[]] =
      (describe draft.entry [[]]).behind given := describe_behind given draft.entry [[]]
  simp only [hear, described, absorb_behind]
  split <;> rfl

/-- Lines do not look at what is described already. -/
theorem foldl_hear_behind (draft : Draft) (lines : List Text) :
    lines.foldl hear (draft.behind given) = (lines.foldl hear draft).behind given := by
  induction lines generalizing draft with
  | nil => rfl
  | cons line rest inductionHypothesis =>
      rw [List.foldl_cons, hear_behind, inductionHypothesis, List.foldl_cons]

end Draft

namespace Commit

theorem settleFormat_behind (given : Text) (entry : Entry) :
    settleFormat (entry.behind given) = (settleFormat entry).behind given := by
  have same : (entry.behind given).format = entry.format := rfl
  simp only [settleFormat, same]
  split <;> rfl

theorem description_settleFormat (entry : Entry) :
    (settleFormat entry).description = entry.description := by
  unfold settleFormat
  split <;> rfl

/-- A visible text in front of the description stays there, and then nothing behind it
is dropped. -/
theorem finished_behind {letter : Char} (visible : (letter == '\n') = false) (rest : Text)
    (draft : Draft) (line : Nat) :
    finished ⟨draft.behind (letter :: rest), line⟩ =
      { finished ⟨draft, line⟩ with
        description := letter :: rest ++ draft.flush.entry.description } := by
  have flushed : (draft.behind (letter :: rest)).flush.entry =
      draft.flush.entry.behind (letter :: rest) :=
    congrArg Draft.entry (Draft.flush_behind (letter :: rest) draft)
  rw [finished, finished, flushed, settleFormat_behind]
  simp [dropLeadingBreaks, Entry.behind, description_settleFormat, visible]

theorem description_finished (top : OpenParameter) :
    (finished top).description = top.draft.flush.entry.description.dropWhile (· == '\n') :=
  congrArg (List.dropWhile (· == '\n')) (description_settleFormat top.draft.flush.entry)

end Commit

/-! ## One line of description -/

theorem ValueList.length_collapseDoubledBrace (line : Text) :
    (collapseDoubledBrace line).length ≤ line.length := by
  unfold collapseDoubledBrace
  split
  · next rest doubled =>
    rw [after?_eq_some_iff.mp doubled, List.length_append]
    exact Nat.succ_le_of_lt (Nat.lt_add_of_pos_left (by decide))
  · exact Nat.le_refl _

namespace Draft

theorem description_readValues (entry : Entry) (line : Text) :
    (readValues entry [line]).2.flush.entry.description = entry.description ∨
      (readValues entry [line]).2.flush.entry.description = entry.description ++ '\n' :: line := by
  unfold readValues
  split
  · right
    simp [start, flush, describe, appendLines]
  · left
    rw [flush_start]
    rfl

/-- A line that a draft takes in leaves the description as it is or is added to it. -/
theorem description_absorbContent (entry : Entry) (line : Text) :
    ((start entry).absorbContent line).2.flush.entry.description = entry.description ∨
      ((start entry).absorbContent line).2.flush.entry.description =
        entry.description ++ '\n' :: line := by
  have added : (describe entry [line]).description = entry.description ++ '\n' :: line := by
    simp [describe, appendLines]
  simp only [absorbContent, flush_start]
  split
  · exact description_readValues entry line
  split
  · exact .inr added
  · simp only [absorbInner, start]
    split
    · left
      unfold readBraces
      split <;> simp [flush, describe, appendLines]
    · right
      rw [← added]
      exact congrArg Entry.description (congrArg Draft.entry (flush_start (describe entry [line])))

/-- A directive with a brace adds at most what stands behind its words. -/
theorem length_absorb_directive {entry : Entry} (bare : entry.description = [])
    {directive : Text} (braced : directive.any isBrace) :
    ((start entry).absorb (Header.formatDirective ++ directive)).2.flush.entry.description.length ≤
      directive.length + 1 := by
  have behind : after? Header.formatDirective (Header.formatDirective ++ directive) =
      some directive := after?_eq_some_iff.mpr rfl
  have shorter : (ValueList.collapseDoubledBrace (trimStart directive)).length ≤
      directive.length :=
    (ValueList.length_collapseDoubledBrace _).trans (List.dropWhile_sublist _).length_le
  simp only [absorb, behind, braced, Bool.not_true, Bool.and_false]
  rcases description_absorbContent entry
      (ValueList.collapseDoubledBrace (trimStart directive)) with same | added
  · rw [if_neg Bool.false_ne_true, same, bare]
    exact Nat.zero_le _
  · rw [if_neg Bool.false_ne_true, added, bare]
    exact Nat.succ_le_succ shorter

end Draft

namespace Outline

/-! ## Directives in a chapter -/

/-- The lines up to the next header of a parameter. -/
def lead (lines : List Text) : List Text :=
  (cutBefore (fun line => (Line.classify line).isTopHeader) lines).1

theorem entriesOf_cons {header : Text} (opens : (Line.classify header).isTopHeader)
    (rest : List Text) :
    entriesOf (header :: rest) = entryOf (header, lead rest) :: entriesOf rest := by
  rw [entriesOf, parts, cutBefore_cons_of_pos]
  · rfl
  · exact opens

theorem lead_cons {line : Text} (quiet : (Line.classify line).isTopHeader = false)
    (rest : List Text) : lead (line :: rest) = line :: lead rest := by
  rw [lead, cutBefore_cons_of_neg]
  · rfl
  · exact quiet

theorem entriesOf_cons_of_quiet {line : Text} (quiet : (Line.classify line).isTopHeader = false)
    (rest : List Text) : entriesOf (line :: rest) = entriesOf rest := by
  rw [entriesOf, parts, cutBefore_cons_of_neg]
  · rfl
  · exact quiet

theorem sections_cons {line : Text} (quiet : (Line.classify line).isNestedHeader = false)
    (body : List Text) :
    sections (line :: body) = (line :: (sections body).1, (sections body).2) := by
  rw [sections, cutBefore_cons_of_neg]
  · rfl
  · exact quiet

theorem entryAt_indented {text : Text} (starts : Line.startsName text) :
    entryAt (Line.indented 1 text) = Reader.entryOfText text := by
  rw [entryAt, Line.classify_indented_one starts, Reader.entryOfText, Line.headerText,
    Header.read?_trimEnd starts, ← Reader.entryOfText]

variable {text directive : Text}

/-- A directive gives the entry of a bare header its format or its description. -/
theorem entryAt_directive (bare : Header.IsBare text) (phrase : IsPhrase directive) :
    (entryAt (Line.indented 1 text)).description = [] ∧
      entryAt (Line.indented 1 (text ++ ' ' :: (Header.formatDirective ++ directive))) =
        if directive.any isBrace then
          (entryAt (Line.indented 1 text)).behind (Header.formatDirective ++ directive)
        else
          { entryAt (Line.indented 1 text) with format := .literal directive } := by
  rcases bare.read?_spec with ⟨header, undescribed, alone, added⟩
  have starts := bare.startsName
  rw [entryAt_indented starts, entryAt_indented (Header.startsName_append starts _),
    Reader.entryOfText, Reader.entryOfText, alone, added directive phrase]
  constructor
  · exact undescribed
  · change Reader.entryOfHeader (header.withDirective directive) = _
    unfold Header.withDirective
    cases directive.any isBrace with
    | true => simp [Reader.entryOfHeader, Entry.behind, undescribed]
    | false => rfl

/-- A parameter put together from its draft and its sub-parameters. -/
def assemble (draft : Draft) (children : List Entry) : Entry :=
  Commit.finished (OpenParameter.withChildren ⟨draft, 0⟩ (Catalogue.ofList children))

theorem entryOf_cons (header : Text) {line : Text} (plain : (Line.classify line).isHeader = false)
    (body : List Text) :
    entryOf (header, line :: body) =
      assemble (draftOf header (line :: (sections body).1)) (childrenOf (header, body)) := by
  have cut := sections_cons (Line.isNestedHeader_eq_false_of_plain plain) body
  rw [entryOf, childrenOf, cut]
  rfl

theorem assemble_behind {letter : Char} (visible : (letter == '\n') = false) (rest : Text)
    (draft : Draft) (children : List Entry) :
    assemble (draft.behind (letter :: rest)) children =
      { assemble draft children with
        description := letter :: rest ++ draft.flush.entry.description } :=
  Commit.finished_behind visible rest
    (OpenParameter.withChildren ⟨draft, 0⟩ (Catalogue.ofList children)).draft 0

end Outline

/-! ## Directives in a manual -/

namespace Manual

open Outline

section

variable {text directive : Text} (bare : Header.IsBare text) (phrase : IsPhrase directive)

include bare phrase

/-- Without a brace, the header and the line behind it come to the same. -/
theorem entryOf_directive (unbraced : IsClear isBrace directive) (body : List Text) :
    entryOf (Line.indented 1 (text ++ ' ' :: (Header.formatDirective ++ directive)), body) =
      entryOf (Line.indented 1 text,
        Line.indented 3 (Header.formatDirective ++ directive) :: body) := by
  have stripped := Header.isStripped_directive phrase
  have plain : (Line.classify (Line.indented 3 (Header.formatDirective ++ directive))).isHeader =
      false := by
    rw [Line.classify_indented_three stripped]
    rfl
  have opened := (entryAt_directive bare phrase).2
  rw [unbraced.any_eq_false] at opened
  have heard : (Draft.start (entryAt (Line.indented 1 text))).hear
      (Line.indented 3 (Header.formatDirective ++ directive)) =
        Draft.start { entryAt (Line.indented 1 text) with format := .literal directive } := by
    rw [Draft.hear_indented _ stripped, Draft.absorb_directive _ phrase.trimmed unbraced]
  rw [entryOf_cons _ plain, draftOf, List.foldl_cons, heard, entryOf, draftOf, opened]
  rfl

/-- With a brace, the directive stands in front of the description. -/
theorem entryOf_braced (braced : directive.any isBrace) (body : List Text) :
    entryOf (Line.indented 1 (text ++ ' ' :: (Header.formatDirective ++ directive)), body) =
      { entryOf (Line.indented 1 text, body) with
        description := Header.formatDirective ++ directive ++
          (draftOf (Line.indented 1 text) (sections body).1).flush.entry.description } := by
  have opened := (entryAt_directive bare phrase).2
  rw [braced, if_pos rfl] at opened
  have drafted : draftOf
      (Line.indented 1 (text ++ ' ' :: (Header.formatDirective ++ directive))) (sections body).1 =
        (draftOf (Line.indented 1 text) (sections body).1).behind
          (Header.formatDirective ++ directive) := by
    rw [draftOf, opened, draftOf, ← Draft.foldl_hear_behind]
    rfl
  rw [entryOf, drafted]
  exact assemble_behind rfl _ _ _

/-- A directive with a brace is longer in the description than anything that the line
behind the header can add. -/
theorem length_description_directive (braced : directive.any isBrace) :
    (entryOf (Line.indented 1 text,
        [Line.indented 3 (Header.formatDirective ++ directive)])).description.length <
      (entryOf (Line.indented 1 (text ++ ' ' :: (Header.formatDirective ++ directive)),
        [])).description.length := by
  have stripped := Header.isStripped_directive phrase
  have plain : (Line.classify (Line.indented 3 (Header.formatDirective ++ directive))).isHeader =
      false := by
    rw [Line.classify_indented_three stripped]
    rfl
  have heard : draftOf (Line.indented 1 text)
      [Line.indented 3 (Header.formatDirective ++ directive)] =
        ((Draft.start (entryAt (Line.indented 1 text))).absorb
          (Header.formatDirective ++ directive)).2 :=
    Draft.hear_indented _ stripped
  have behind := Draft.length_absorb_directive (entryAt_directive bare phrase).1 braced
  rw [← heard] at behind
  have kept : (entryOf (Line.indented 1 text,
      [Line.indented 3 (Header.formatDirective ++ directive)])).description.length ≤
        directive.length + 1 := by
    rw [entryOf_cons _ plain, assemble, Commit.description_finished]
    exact (List.dropWhile_sublist _).length_le.trans behind
  have given : Header.formatDirective.length = 8 := rfl
  rw [entryOf_braced bare phrase braced, List.length_append, List.length_append, given]
  omega

end

/-- A directive on a header line that has no description says the same as on the line
behind it, whatever follows, exactly if it has no brace.  With a brace, the header line
comes to what it does without the directive, but for the description: the directive is
put in front of all that the lines add to it. -/
theorem directive_agrees_iff (file : Option Text) {text directive : Text}
    (bare : Header.IsBare text) (phrase : IsPhrase directive) :
    let read := fun lines => (ofLines ⟨file, .replace⟩ lines).result
    let given := "Format: ".toList ++ directive
    let header := Line.indented 1 text
    let inline := Line.indented 1 (text ++ ' ' :: given)
    ((∀ rest, read (inline :: rest) = read (header :: Line.indented 3 given :: rest)) ↔
      '\x7b' ∉ directive ∧ '\x7d' ∉ directive) ∧
    (¬('\x7b' ∉ directive ∧ '\x7d' ∉ directive) → ∀ rest, ∃ alone added others,
      read rest = .ok (Catalogue.ofList others) ∧
      read (header :: rest) = .ok (Catalogue.ofList (alone :: others)) ∧
      alone.description = added.dropWhile (· == '\n') ∧
      read (inline :: rest) =
        .ok (Catalogue.ofList ({ alone with description := given ++ added } :: others))) := by
  intro read given header inline
  have spelled : given = Header.formatDirective ++ directive := rfl
  clear_value given
  subst spelled
  rw [← isClear_isBrace_iff]
  have result (lines : List Text) : read lines = .ok (Catalogue.ofList (entriesOf lines)) :=
    result_ofLines_of_replace rfl lines
  have starts := bare.startsName
  have opens : (Line.classify header).isTopHeader := by
    rw [Line.classify_indented_one starts]
    rfl
  have opensInline : (Line.classify inline).isTopHeader := by
    rw [Line.classify_indented_one (Header.startsName_append starts _)]
    rfl
  have quiet :
      (Line.classify (Line.indented 3 (Header.formatDirective ++ directive))).isTopHeader =
        false := by
    rw [Line.classify_indented_three (Header.isStripped_directive phrase)]
    rfl
  constructor
  · constructor
    · intro agree
      by_contra mixed
      have same := (agree []).symm
      rw [result, result, entriesOf_cons opens, entriesOf_cons opensInline, lead_cons quiet] at same
      have slots := congrArg Catalogue.slots (Except.ok.inj same)
      have entries : entryOf (header, [Line.indented 3 (Header.formatDirective ++ directive)]) =
          entryOf (inline, []) :=
        List.head_eq_of_cons_eq slots
      have shorter := length_description_directive bare phrase (any_of_not_isClear mixed)
      rw [entries] at shorter
      exact Nat.lt_irrefl _ shorter
    · intro unbraced rest
      rw [result, result, entriesOf_cons opensInline, entriesOf_cons opens, lead_cons quiet,
        entryOf_directive bare phrase unbraced, entriesOf_cons_of_quiet quiet]
  · intro mixed rest
    refine ⟨entryOf (header, lead rest),
      (draftOf header (sections (lead rest)).1).flush.entry.description, entriesOf rest,
      result rest, ?_, Commit.description_finished _, ?_⟩
    · rw [result, entriesOf_cons opens]
    · rw [result, entriesOf_cons opensInline,
        entryOf_braced bare phrase (any_of_not_isClear mixed)]

/-- The directive wins over a hint in either place, and white space around the flags
makes no difference. -/
theorem directive_agrees_behind_flags :
    let text := "acpi=off".toList ++ " \t".toList ++ "[HW,ACPI]".toList ++ "  ".toList
    let directive := "<on | off>".toList
    let given := "Format: ".toList ++ directive
    let read := fun lines => (ofLines ⟨none, .replace⟩ lines).result
    Header.IsBare text ∧ IsPhrase directive ∧ ('\x7b' ∉ directive ∧ '\x7d' ∉ directive) ∧
      ∀ rest, read (Line.indented 1 (text ++ ' ' :: given) :: rest) =
        read (Line.indented 1 text :: Line.indented 3 given :: rest) := by
  intro text directive given read
  have naming : Header.IsNaming "acpi=off".toList := ⟨⟨'a', rfl, rfl⟩, by decide, by decide⟩
  have bare : Header.IsBare
      ("acpi=off".toList ++ " \t".toList ++ "[HW,ACPI]".toList ++ "  ".toList) :=
    .flagged naming (by decide) (by decide) (by decide) (by decide) (by decide) (by decide)
  have phrase : IsPhrase directive := ⟨by decide, by decide⟩
  have unbraced : '\x7b' ∉ directive ∧ '\x7d' ∉ directive := by decide
  have agrees := (directive_agrees_iff none bare phrase).1.mpr unbraced
  exact ⟨bare, phrase, unbraced, agrees⟩

/-- Values in braces are a choice on the line behind the header, and description on the
header. -/
theorem directive_with_values :
    let directive := "Format: \x7b on | off \x7d".toList
    let described : Entry := ⟨"a".toList, none, .flag, directive, Catalogue.empty⟩
    let chosen : Entry :=
      ⟨"a".toList, none, .choice ["on".toList, "off".toList], [], Catalogue.empty⟩
    let onHeader :=
      (ofLines ⟨none, .replace⟩ ["\ta Format: \x7b on | off \x7d".toList]).result
    let behindHeader :=
      (ofLines ⟨none, .replace⟩ ["\ta".toList, "\t\t\tFormat: \x7b on | off \x7d".toList]).result
    onHeader = .ok (Catalogue.ofList [described]) ∧
      behindHeader = .ok (Catalogue.ofList [chosen]) ∧ onHeader ≠ behindHeader := by
  intro directive described chosen onHeader behindHeader
  have onHeaderRead : onHeader = .ok (Catalogue.ofList [described]) := rfl
  have behindHeaderRead : behindHeader = .ok (Catalogue.ofList [chosen]) := rfl
  have differ : onHeader ≠ behindHeader := by
    rw [onHeaderRead, behindHeaderRead]
    intro same
    have slots := congrArg Catalogue.slots (Except.ok.inj same)
    have formats := congrArg Entry.format (List.head_eq_of_cons_eq slots)
    contradiction
  exact ⟨onHeaderRead, behindHeaderRead, differ⟩

end Manual

end BootManual
