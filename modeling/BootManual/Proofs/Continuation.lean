import BootManual.Draft
import BootManual.Proofs.Roles
import BootManual.Proofs.Shape

/-!
# What continuation lines do

A continuation line adds to the description of a parameter or gives it a format.
It leaves the name, the flags and the sub-parameters alone, and a format that it
gives is a phrase or a list of values, whatever the block that it completes holds.
-/

namespace BootManual

open Text

/-! ## Values -/

namespace ValueList

/-- Everything that is read from a list of values is a value. -/
theorem isValue_of_mem_read {lines : List Text} {value : Text} (listed : value ∈ read lines) :
    IsValue value := by
  obtain ⟨given, nonempty⟩ := List.mem_filter.mp listed
  obtain ⟨piece, pieceListed, rfl⟩ := List.mem_map.mp given
  obtain ⟨trimmed, bare⟩ := isStripped_isMargin_iff.mp (isStripped_strip isMargin piece)
  refine ⟨by simpa using nonempty, trimmed, bare, ?_⟩
  intro bar
  obtain ⟨line, lineListed, cut⟩ := List.mem_flatMap.mp pieceListed
  have found := mem_of_mem_pieces cut (mem_of_mem_strip bar)
  have inLine : '|' ∈ line := mem_of_mem_strip (mem_of_mem_strip found.1)
  have separated : separator lines = '|' := by
    have barred : lines.any (fun line => line.contains '|') :=
      List.any_eq_true.mpr ⟨line, lineListed, by simpa using inLine⟩
    rw [separator, if_pos barred]
  exact found.2 separated.symm

end ValueList

/-- A format that a line can give: a phrase, or at least one value. -/
inductive Format.IsGiven : Format → Prop where
  | literal {text : Text} (phrase : IsPhrase text) : IsGiven (.literal text)
  | choice {values : List Text} (nonempty : values ≠ []) (each : ∀ value ∈ values, IsValue value) :
      IsGiven (.choice values)

theorem Format.IsGiven.isSound {format : Format} (given : format.IsGiven) : format.IsSound := by
  cases given with
  | literal phrase => exact phrase
  | choice nonempty each => exact ⟨nonempty, each⟩

/-- What continuation lines may make of an entry. -/
structure Entry.Continues (before after : Entry) : Prop where
  name : after.name = before.name
  flags : after.flags = before.flags
  children : after.children = before.children
  format : after.format = before.format ∨ after.format.IsGiven

namespace Entry.Continues

theorem refl (entry : Entry) : entry.Continues entry :=
  ⟨rfl, rfl, rfl, .inl rfl⟩

theorem trans {before between after : Entry} (first : before.Continues between)
    (second : between.Continues after) : before.Continues after where
  name := second.name.trans first.name
  flags := second.flags.trans first.flags
  children := second.children.trans first.children
  format := by
    rcases second.format with same | given
    · rcases first.format with unchanged | given
      · exact .inl (same.trans unchanged)
      · exact .inr (same ▸ given)
    · exact .inr given

end Entry.Continues

namespace Draft

open Entry (Continues)

theorem continues_describe (entry : Entry) (lines : List Text) :
    entry.Continues (describe entry lines) :=
  ⟨rfl, rfl, rfl, .inl rfl⟩

theorem continues_flush (draft : Draft) : draft.entry.Continues draft.flush.entry :=
  continues_describe draft.entry _

/-- A format may be given at any time. -/
theorem continues_format (entry : Entry) {format : Format} (given : format.IsGiven) :
    entry.Continues { entry with format } :=
  ⟨rfl, rfl, rfl, .inr given⟩

theorem continues_readValues (entry : Entry) (lines : List Text) :
    entry.Continues (readValues entry lines).2.entry := by
  unfold readValues
  split
  · exact continues_describe entry lines
  · next values nonempty =>
    refine continues_format entry (.choice ?_ ?_)
    · exact fun empty => nonempty empty
    · exact fun value listed => ValueList.isValue_of_mem_read listed

theorem continues_readBraces (entry : Entry) (line : Text) :
    entry.Continues (readBraces entry line) := by
  unfold readBraces
  split
  · exact Continues.refl entry
  · next inner nonempty =>
    exact continues_format entry (.literal ⟨fun empty => nonempty empty, isStripped_trim _⟩)

theorem continues_absorbInner (draft : Draft) (line : Text) :
    draft.entry.Continues (draft.absorbInner line).2.entry := by
  unfold absorbInner
  split
  · split
    · exact continues_readValues draft.entry _
    split
    · exact Continues.refl draft.entry
    · exact continues_describe draft.entry [line]
  · split
    · exact continues_readBraces draft.entry line
    · exact continues_describe draft.entry [line]

theorem continues_absorbContent (draft : Draft) (line : Text) :
    draft.entry.Continues (draft.absorbContent line).2.entry := by
  simp only [absorbContent]
  split
  · exact (continues_flush draft).trans (continues_readValues draft.flush.entry [line])
  split
  · exact continues_flush draft
  · exact continues_absorbInner draft line

/-- A trimmed line changes nothing but the description and, if it gives one, the
format. -/
theorem continues_absorb (draft : Draft) {line : Text} (trimmed : IsStripped isBlank line) :
    draft.entry.Continues (draft.absorb line).2.entry := by
  unfold absorb
  split
  · exact continues_absorbContent draft _
  · next rest directive =>
    split
    · obtain rfl := after?_eq_some_iff.mp directive
      refine continues_format draft.entry (.literal ⟨?_, isStripped_trim rest⟩)
      cases last : rest.getLast? with
      | none =>
          obtain rfl := List.getLast?_eq_none_iff.mp last
          have visible := trimmed.last ' ' (by decide)
          contradiction
      | some letter =>
          exact trim_ne_nil (List.mem_of_getLast? last)
            (trimmed.last letter (by simp [last]))
    · exact continues_absorbContent draft _

/-! ## Lines of a parameter -/

/-- The draft after a line that is no header, as long as no sub-parameter is open. -/
def hear (draft : Draft) (line : Text) : Draft :=
  match Line.classify line with
  | .blank => { draft with entry := describe draft.entry [[]] }
  | .continuation .three text => (draft.absorb text).2
  | _ => draft

theorem continues_hear (draft : Draft) (line : Text) :
    draft.entry.Continues (draft.hear line).entry := by
  unfold hear
  split
  · exact continues_describe draft.entry [[]]
  · next role => exact continues_absorb draft (Line.isStripped_of_continuation role)
  · exact Continues.refl draft.entry

theorem continues_foldl_hear (draft : Draft) (lines : List Text) :
    draft.entry.Continues (lines.foldl hear draft).entry := by
  induction lines generalizing draft with
  | nil => exact Continues.refl draft.entry
  | cons line rest inductionHypothesis =>
      exact (continues_hear draft line).trans (inductionHypothesis (draft.hear line))

end Draft

end BootManual
