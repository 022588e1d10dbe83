import BootManual.Proofs.Outline
import BootManual.Proofs.Soundness

/-!
# What was read

Whatever a manual is read into keeps the invariant of its reader.  So the entries of a
catalogue that was read are its parameters and their sub-parameters, and there is
nothing below these.
-/

namespace BootManual

/-- Reading to the end gives well-formed parameters. -/
theorem Reader.holds_of_outcome {context : Context} {entries after : Catalogue Entry}
    {state : State} (holds : entries.Holds Entry.IsParameter) (sound : state.IsSound)
    {lines : List NumberedLine} (ended : outcome context entries state lines = .ok after) :
    after.Holds Entry.IsParameter := by
  induction lines generalizing entries state with
  | nil => exact Commit.holds_close ended holds sound
  | cons line rest inductionHypothesis =>
      obtain ⟨next, advanced, ended⟩ := except_bind_eq_ok_iff.mp ended
      have reader : IsSound ⟨context, state, entries, line.2⟩ := ⟨holds, sound⟩
      obtain ⟨nextHolds, nextSound⟩ := isSound_advance reader advanced
      exact inductionHypothesis nextHolds nextSound ended

theorem Manual.holds_of_ofText {context : Context} {text : Text} {entries : Catalogue Entry}
    (read : (ofText context text).result = .ok entries) : entries.Holds Entry.IsParameter := by
  rw [ofText, ofLines, Reader.result_conclude_feedAll] at read
  have sound := Reader.isSound_start context
  exact Reader.holds_of_outcome sound.entries sound.state read

namespace Entry

theorem mem_walkAll_iff {entry : Entry} {entries : List Entry} :
    entry ∈ walkAll entries ↔ ∃ top ∈ entries, entry ∈ walk top := by
  induction entries with
  | nil => simp [walkAll]
  | cons first rest inductionHypothesis =>
      rw [walkAll, List.mem_append, inductionHypothesis, List.exists_mem_cons_iff]

theorem walk_eq_cons (entry : Entry) : entry.walk = entry :: walkAll entry.children.slots := by
  obtain ⟨name, flags, format, description, ⟨slots, index⟩⟩ := entry
  rw [walk]

/-- What stands in a well-formed catalogue is a parameter or a sub-parameter of one. -/
theorem mem_slots_or_children {entries : Catalogue Entry} (holds : entries.Holds IsParameter)
    {entry : Entry} (listed : entry ∈ walkAll entries.slots) :
    entry ∈ entries.slots ∨ ∃ top ∈ entries.slots, entry ∈ top.children.slots := by
  rcases mem_walkAll_iff.mp listed with ⟨top, inSlots, below⟩
  rw [walk_eq_cons, List.mem_cons] at below
  rcases below with rfl | below
  · exact .inl inSlots
  · rcases mem_walkAll_iff.mp below with ⟨child, inChildren, below⟩
    have subparameter := (holds.each top inSlots).children.each child inChildren
    rw [walk_eq_cons, subparameter.children] at below
    have same : entry = child := List.mem_singleton.mp below
    exact .inr ⟨top, inSlots, same ▸ inChildren⟩

/-- Every entry of a well-formed catalogue is sound, at either level. -/
theorem isSound_of_mem_walkAll {entries : Catalogue Entry} (holds : entries.Holds IsParameter)
    {entry : Entry} (listed : entry ∈ walkAll entries.slots) : entry.IsSound := by
  rcases mem_slots_or_children holds listed with inSlots | ⟨top, inSlots, inChildren⟩
  · exact (holds.each entry inSlots).toIsSound
  · exact ((holds.each top inSlots).children.each entry inChildren).toIsSound

/-- The names of parameters and of sub-parameters begin as names do. -/
theorem startsName_of_mem_walkAll {entries : Catalogue Entry} (holds : entries.Holds IsParameter)
    {entry : Entry} (listed : entry ∈ walkAll entries.slots) : Line.startsName entry.name :=
  (isSound_of_mem_walkAll holds listed).name.startsName

end Entry

end BootManual
