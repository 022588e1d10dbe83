import BootManual.Proofs.Chapters
import BootManual.Proofs.Dialect
import BootManual.Proofs.Readings

/-!
# What the marker of a format tells

A choice is marked by a word of its own, and a phrase is marked by itself.  The word is
not reserved: a manual may give it as a phrase, and then a format without values bears
the marker of a choice.  Nothing else can go wrong.  A choice always has values, and
every phrase comes from a line that gives it, whatever blocks are open around that line
and whatever lines come after it.
-/

namespace BootManual

namespace Format

theorem phrase?_eq_some_iff {format : Format} {phrase : Text} :
    format.phrase? = some phrase ↔ format = .literal phrase := by
  cases format <;> simp [phrase?]

/-- In a sound format, values and the marker of a choice go together unless that marker
is a phrase. -/
theorem marker_eq_iff {format : Format} (sound : format.IsSound) :
    (format.values ≠ [] ↔ format.marker = "enum".toList) ↔ format ≠ .literal "enum".toList := by
  cases format with
  | unset => decide
  | literal text =>
      constructor
      · intro together same
        exact together.mpr (literal.inj same) rfl
      · intro different
        exact ⟨fun listed => absurd rfl listed,
          fun marked => absurd (congrArg literal marked) different⟩
  | choice listed => exact ⟨fun _ => Format.noConfusion, fun _ => ⟨fun _ => rfl, fun _ => sound.1⟩⟩
  | flag => decide
  | complex => decide

end Format

/-! ## Lines that give a phrase -/

/-- The phrase that a line gives as a format where a parameter is open and no block. -/
def Line.phrase? : Line → Option Text
  | topHeader text => (Reader.entryOfText text).format.phrase?
  | nestedHeader text => (Reader.entryOfText text).format.phrase?
  | continuation .three text => ((Draft.start default).absorb text).2.entry.format.phrase?
  | _ => none

namespace Draft

variable {draft : Draft} {entry : Entry} {line phrase : Text}

theorem phrase?_readValues {lines : List Text}
    (given : (readValues entry lines).2.entry.format.phrase? = some phrase) :
    entry.format.phrase? = some phrase := by
  unfold readValues at given
  split at given
  · exact given
  · contradiction

/-- Braces hold the same phrase for every entry. -/
theorem phrase?_readBraces (given : (readBraces entry line).format.phrase? = some phrase)
    (other : Entry) :
    entry.format.phrase? = some phrase ∨
      (readBraces other line).format.phrase? = some phrase := by
  unfold readBraces at given ⊢
  split at given
  · exact .inl given
  · exact .inr given

theorem phrase?_absorbInner
    (given : (draft.absorbInner line).2.entry.format.phrase? = some phrase) (other : Entry) :
    draft.entry.format.phrase? = some phrase ∨
      draft.block = none ∧
        ((start other).absorbInner line).2.entry.format.phrase? = some phrase := by
  unfold absorbInner at given
  split at given
  · split at given
    · exact .inl (phrase?_readValues given)
    split at given
    · exact .inl given
    · exact .inl given
  · next closed =>
    split at given
    · next braced =>
      have alike : (start other).absorbInner line =
          (.format, start (readBraces other line)) := if_pos braced
      rw [alike]
      exact (phrase?_readBraces given other).imp_right fun found => ⟨closed, found⟩
    · exact .inl given

theorem phrase?_absorbContent
    (given : (draft.absorbContent line).2.entry.format.phrase? = some phrase) (other : Entry) :
    draft.entry.format.phrase? = some phrase ∨
      draft.block = none ∧
        ((start other).absorbContent line).2.entry.format.phrase? = some phrase := by
  unfold absorbContent at given ⊢
  dsimp only at given ⊢
  split at given
  · have kept : draft.flush.entry.format.phrase? = some phrase := phrase?_readValues given
    exact .inl kept
  · next unlisted =>
    rw [if_neg unlisted]
    split at given
    · exact .inl given
    · next unopened =>
      rw [if_neg unopened]
      exact phrase?_absorbInner given other

/-- A phrase was there before the line, or is what the line gives to any other entry
without a block. -/
theorem phrase?_absorb (given : (draft.absorb line).2.entry.format.phrase? = some phrase)
    (other : Entry) :
    draft.entry.format.phrase? = some phrase ∨
      ((start other).absorb line).2.entry.format.phrase? = some phrase := by
  unfold absorb at given ⊢
  split at given
  · exact (phrase?_absorbContent given other).imp_right And.right
  · have alone : (start other).block = none := rfl
    rw [alone]
    split at given
    · next plain =>
      rw [Bool.and_eq_true] at plain
      exact .inr (by rw [plain.2]; exact given)
    · next braced =>
      rcases phrase?_absorbContent given other with kept | ⟨closed, found⟩
      · exact .inl kept
      · rw [closed] at braced
        exact .inr (by rw [if_neg braced]; exact found)

/-- A phrase was there before the line or is given by it. -/
theorem phrase?_hear (given : (draft.hear line).entry.format.phrase? = some phrase) :
    draft.entry.format.phrase? = some phrase ∨ (Line.classify line).phrase? = some phrase := by
  unfold hear at given
  split at given
  · exact .inl given
  · next role =>
    rw [role]
    exact phrase?_absorb given default
  · exact .inl given

theorem phrase?_foldl_hear {lines : List Text}
    (given : (lines.foldl hear draft).entry.format.phrase? = some phrase) :
    draft.entry.format.phrase? = some phrase ∨
      ∃ line ∈ lines, (Line.classify line).phrase? = some phrase := by
  induction lines generalizing draft with
  | nil => exact .inl given
  | cons line rest inductionHypothesis =>
      rcases inductionHypothesis given with heard | ⟨later, inside, found⟩
      · rcases phrase?_hear heard with kept | found
        · exact .inl kept
        · exact .inr ⟨line, List.mem_cons_self, found⟩
      · exact .inr ⟨later, List.mem_cons_of_mem line inside, found⟩

end Draft

/-! ## Manuals that give a phrase -/

/-- The formats that stand for the presence or absence of sub-parameters are no phrases. -/
theorem Commit.phrase?_finished (top : OpenParameter) :
    (finished top).format.phrase? = top.draft.entry.format.phrase? := by
  change (settleFormat top.draft.flush.entry).format.phrase? = top.draft.flush.entry.format.phrase?
  unfold settleFormat
  split
  · next unset =>
    rw [(Format.isUnset_iff _).mp unset]
    split <;> rfl
  · rfl

namespace Outline

variable {part : Text × List Text} {phrase : Text}

theorem phrase?_entryAt {header : Text} (opens : (Line.classify header).isHeader) :
    (entryAt header).format.phrase? = (Line.classify header).phrase? := by
  rw [entryAt]
  cases role : Line.classify header with
  | topHeader text => rfl
  | nestedHeader text => rfl
  | _ => rw [role] at opens; contradiction

/-- The phrase of a parameter is given by a line of its part. -/
theorem exists_line_of_entryOf (opens : (Line.classify part.1).isTopHeader)
    (given : (entryOf part).format.phrase? = some phrase) :
    ∃ line ∈ part.1 :: part.2, (Line.classify line).phrase? = some phrase := by
  rw [entryOf, Commit.phrase?_finished] at given
  rcases Draft.phrase?_foldl_hear given with opened | ⟨line, inside, found⟩
  · have isHeader : (Line.classify part.1).isHeader := Bool.or_eq_true_iff.mpr (.inl opens)
    have found := (phrase?_entryAt isHeader).symm.trans opened
    exact ⟨part.1, List.mem_cons_self, found⟩
  · exact ⟨line, List.mem_cons_of_mem _ (mem_of_mem_lead inside), found⟩

/-- The phrase of a sub-parameter is given by its header. -/
theorem exists_line_of_childrenOf {child : Entry} (listed : child ∈ childrenOf part)
    (given : child.format.phrase? = some phrase) :
    ∃ line ∈ part.2, (Line.classify line).phrase? = some phrase := by
  rcases List.mem_map.mp listed with ⟨section', inSections, rfl⟩
  have opens := ((cutBefore_spec _ part.2).2.2 section' inSections).head
  have isHeader : (Line.classify section'.1).isHeader := Bool.or_eq_true_iff.mpr (.inr opens)
  have found := (phrase?_entryAt isHeader).symm.trans given
  exact ⟨section'.1, mem_of_mem_cutBefore inSections List.mem_cons_self, found⟩

theorem children_entryOf (part : Text × List Text) :
    (entryOf part).children = Catalogue.ofList (childrenOf part) := by
  rw [entryOf, Commit.finished, Commit.settleFormat]
  split <;> rfl

end Outline

namespace Manual

/-- Whatever a manual comes to, a phrase in it, at either level, is given by one of its
lines. -/
theorem exists_line_of_literal {context : Context} {text : Text} {entries : Catalogue Entry}
    (read : (ofText context text).result = .ok entries) {entry : Entry}
    (listed : entry ∈ Entry.walkAll entries.slots) {phrase : Text}
    (given : entry.format = .literal phrase) :
    ∃ line ∈ Lines.ofText text, (Line.classify line).phrase? = some phrase := by
  have given? : entry.format.phrase? = some phrase := Format.phrase?_eq_some_iff.mpr given
  have holds := holds_of_ofText read
  have collected := (result_ofLines_eq_ok_iff.mp read).2
  have fromPart {top : Entry} (inSlots : top ∈ entries.slots) :
      ∃ part ∈ Outline.parts (Lines.ofText text), Outline.entryOf part = top := by
    rw [collected] at inSlots
    exact List.mem_map.mp (Catalogue.mem_of_mem_slots_ofList inSlots)
  rcases Entry.mem_slots_or_children holds listed with inSlots | ⟨top, inSlots, inChildren⟩
  · rcases fromPart inSlots with ⟨part, inParts, rfl⟩
    have opens := ((cutBefore_spec _ (Lines.ofText text)).2.2 part inParts).head
    rcases Outline.exists_line_of_entryOf opens given? with ⟨line, inside, found⟩
    exact ⟨line, mem_of_mem_cutBefore inParts inside, found⟩
  · rcases fromPart inSlots with ⟨part, inParts, rfl⟩
    rw [Outline.children_entryOf] at inChildren
    have inPart := Catalogue.mem_of_mem_slots_ofList inChildren
    rcases Outline.exists_line_of_childrenOf inPart given? with ⟨line, inside, found⟩
    exact ⟨line, mem_of_mem_cutBefore inParts (List.mem_cons_of_mem _ inside), found⟩

/-- An entry that was read has values exactly if its format bears the marker of a
choice, unless that word is a phrase that a line of the manual gives.  For an entry
whose format is that phrase, and for no other, the marker misleads. -/
theorem marker_tells_choice (context : Context) (text : Text) {entries : Catalogue Entry}
    (read : (ofText context text).result = .ok entries) {entry : Entry}
    (listed : entry ∈ Entry.walkAll entries.slots) :
    ((∀ line ∈ Lines.ofText text, (Line.classify line).phrase? ≠ some "enum".toList) →
      (entry.values ≠ [] ↔ entry.format.marker = "enum".toList)) ∧
    ((entry.values ≠ [] ↔ entry.format.marker = "enum".toList) ↔
      entry.format ≠ .literal "enum".toList) := by
  have sound := (Entry.isSound_of_mem_walkAll (holds_of_ofText read) listed).format
  have told := Format.marker_eq_iff sound
  constructor
  · intro notGiven
    apply told.mpr
    intro literal
    rcases exists_line_of_literal read listed literal with ⟨line, inside, found⟩
    exact notGiven line inside found
  · exact told

/-- A sub-parameter without values behind a parameter with a list over two lines, in a
manual that mentions the word `enum` but does not give it as a format. -/
theorem marker_tells_choice_mentioned :
    let text := "\ta\tAn enum\n\t\t\t\x7b on |\n\t\t\toff \x7d\n\t\tb=<enum>\n\t\t\tenum\n".toList
    let child : Entry := ⟨"b".toList, none, .literal "<enum>".toList, "enum".toList, Catalogue.empty⟩
    let parent : Entry := ⟨"a".toList, none, .choice ["on".toList, "off".toList],
      "An enum".toList, Catalogue.ofList [child]⟩
    let entries := Catalogue.ofList [parent]
    (ofText Context.plain text).result = .ok entries ∧
      (∀ line ∈ Lines.ofText text, (Line.classify line).phrase? ≠ some "enum".toList) ∧
      child ∈ Entry.walkAll entries.slots ∧
      (child.values ≠ [] ↔ child.format.marker = "enum".toList) ∧
      parent ∈ Entry.walkAll entries.slots ∧
      (parent.values ≠ [] ↔ parent.format.marker = "enum".toList) := by
  intro text child parent entries
  have read : (ofText Context.plain text).result = .ok entries := rfl
  have notGiven : ∀ line ∈ Lines.ofText text,
      (Line.classify line).phrase? ≠ some "enum".toList := by decide
  have parentListed : parent ∈ Entry.walkAll entries.slots := List.mem_cons_self
  have childListed : child ∈ Entry.walkAll entries.slots :=
    List.mem_cons_of_mem parent List.mem_cons_self
  have childTold := (marker_tells_choice Context.plain text read childListed).1 notGiven
  have parentTold := (marker_tells_choice Context.plain text read parentListed).1 notGiven
  exact ⟨read, notGiven, childListed, childTold, parentListed, parentTold⟩

/-- A hint that is the marker of a choice: the entry bears the marker and has no
values. -/
theorem marker_of_hint :
    let entry : Entry := ⟨"a".toList, none, .literal "enum".toList, [], Catalogue.empty⟩
    (ofText Context.plain "\ta=enum\n".toList).result = .ok (Catalogue.ofList [entry]) ∧
      entry ∈ Entry.walkAll (Catalogue.ofList [entry]).slots ∧
      ¬(entry.values ≠ [] ↔ entry.format.marker = "enum".toList) := by
  intro entry
  refine ⟨rfl, ?_, by decide⟩
  exact List.mem_cons_self

end Manual

end BootManual
