import BootManual.Proofs.Steps

/-!
# Every result is well formed

A reader keeps an invariant: the committed parameters have their final shape, and
the open entries lack nothing but the settling of their formats and descriptions.
Every line keeps it, whatever its role and whether or not it fails, so what is
handed out in the end is well formed.
-/

namespace BootManual

/-- The shape of a parameter that is being read.  Nothing is asked of its block. -/
structure Draft.IsSound (draft : Draft) : Prop where
  entry : draft.entry.IsSound
  pending : draft.entry.format = .unset ∨ draft.entry.format.IsGiven
  children : draft.entry.children.Holds Entry.IsSubparameter

/-- The shape of a sub-parameter that is being read. -/
structure OpenSubparameter.IsSound (sub : OpenSubparameter) : Prop where
  entry : sub.entry.IsSound
  unsetOrLiteral : sub.entry.format = .unset ∨ ∃ text, sub.entry.format = .literal text
  children : sub.entry.children = Catalogue.empty

/-- The shape of what is open. -/
def State.IsSound : State → Prop
  | idle => True
  | parameter top => top.draft.IsSound
  | subparameter top sub => top.draft.IsSound ∧ sub.IsSound

/-- The invariant of a reader. -/
structure Reader.IsSound (reader : Reader) : Prop where
  entries : reader.entries.Holds Entry.IsParameter
  state : reader.state.IsSound

/-! ## Open entries -/

theorem Entry.IsSound.continue {before after : Entry} (sound : before.IsSound)
    (change : before.Continues after) : after.IsSound where
  name := change.name ▸ sound.name
  flags := change.flags ▸ sound.flags
  format := by
    rcases change.format with same | given
    · exact same ▸ sound.format
    · exact given.isSound

theorem Draft.IsSound.continue {before after : Draft} (sound : before.IsSound)
    (change : before.entry.Continues after.entry) : after.IsSound where
  entry := sound.entry.continue change
  pending := by
    rcases change.format with same | given
    · exact same ▸ sound.pending
    · exact .inr given
  children := change.children ▸ sound.children

theorem Draft.isSound_start {text : Text} (starts : Line.startsName text) :
    (Draft.start (Reader.entryOfText text)).IsSound where
  entry := Reader.isSound_entryOfText starts
  pending := by
    have sound := (Reader.isSound_entryOfText starts).format
    change (Reader.entryOfText text).format = .unset ∨ (Reader.entryOfText text).format.IsGiven
    rcases (Reader.entryOfText_plain text).2 with unset | ⟨hint, literal⟩
    · exact .inl unset
    · rw [literal] at sound ⊢
      exact .inr (.literal sound)
  children := by
    change (Reader.entryOfText text).children.Holds _
    rw [(Reader.entryOfText_plain text).1]
    exact Catalogue.holds_empty _

namespace OpenSubparameter.IsSound

theorem entryOfText {text : Text} (starts : Line.startsName text) (line : Nat) :
    IsSound ⟨Reader.entryOfText text, line⟩ :=
  ⟨Reader.isSound_entryOfText starts, (Reader.entryOfText_plain text).2,
    (Reader.entryOfText_plain text).1⟩

theorem describe {sub : OpenSubparameter} (sound : sub.IsSound) (text : Text) :
    (Reader.describeSubparameter sub text).IsSound :=
  ⟨sound.entry.continue (Draft.continues_describe sub.entry [text]), sound.unsetOrLiteral,
    sound.children⟩

theorem hear {sub : OpenSubparameter} (sound : sub.IsSound) (line : Text) :
    (sub.hear line).IsSound := by
  unfold OpenSubparameter.hear
  split
  · exact sound.describe []
  · exact sound.describe _
  · exact sound

end OpenSubparameter.IsSound

theorem State.IsSound.hear {state : State} (sound : state.IsSound) (line : Text) :
    (state.hear line).IsSound := by
  cases state with
  | idle => trivial
  | parameter top => exact Draft.IsSound.continue sound (Draft.continues_hear top.draft line)
  | subparameter top sub => exact ⟨sound.1, sound.2.hear line⟩

/-! ## Committing -/

namespace Commit

theorem head?_dropLeadingBreaks (entry : Entry) :
    (dropLeadingBreaks entry).description.head? ≠ some '\n' := by
  intro first
  have inside : '\n' ∈ (entry.description.dropWhile (· == '\n')).head? := first
  have other := Text.head?_dropWhile inside
  contradiction

theorem isSubparameter_dropLeadingBreaks {sub : OpenSubparameter} (sound : sub.IsSound) :
    (dropLeadingBreaks sub.entry).IsSubparameter where
  name := sound.entry.name
  flags := sound.entry.flags
  format := sound.entry.format
  unsetOrLiteral := sound.unsetOrLiteral
  description := head?_dropLeadingBreaks sub.entry
  children := sound.children

/-- Settling the format of a sound draft gives the format of a parameter. -/
theorem settleFormat_spec {entry : Entry} (sound : entry.format.IsSound)
    (pending : entry.format = .unset ∨ entry.format.IsGiven) :
    (settleFormat entry).format.IsSound ∧ (settleFormat entry).format ≠ .unset ∧
      ((settleFormat entry).format = .flag → entry.children.slots = []) ∧
      ((settleFormat entry).format = .complex → entry.children.slots ≠ []) := by
  unfold settleFormat
  rcases pending with unset | given
  · rw [unset]
    cases empty : entry.children.isEmpty with
    | true =>
        have childless : entry.children.slots = [] := List.isEmpty_iff.mp empty
        simp [Format.isUnset, Format.IsSound, childless]
    | false =>
        have present : entry.children.slots ≠ [] := by
          intro childless
          rw [Catalogue.isEmpty, childless] at empty
          contradiction
        simp [Format.isUnset, Format.IsSound, present]
  · cases format : entry.format <;> rw [format] at given sound <;> cases given <;>
      simpa [Format.isUnset, format] using sound

theorem isParameter_finished {top : OpenParameter} (sound : top.draft.IsSound) :
    (finished top).IsParameter := by
  have flushed : top.draft.flush.IsSound := sound.continue (Draft.continues_flush top.draft)
  obtain ⟨format, settled, flag, complex⟩ := settleFormat_spec flushed.entry.format flushed.pending
  have name : (finished top).name = top.draft.flush.entry.name := name_finished top
  have flags : (finished top).flags = top.draft.flush.entry.flags := by
    simp only [finished, settleFormat]
    split <;> rfl
  have children : (finished top).children = top.draft.flush.entry.children := by
    simp only [finished, settleFormat]
    split <;> rfl
  exact
    { name := name ▸ flushed.entry.name
      flags := flags ▸ flushed.entry.flags
      format := format
      settled := settled
      flag := children ▸ flag
      complex := children ▸ complex
      description := head?_dropLeadingBreaks _
      children := children ▸ flushed.children }

theorem isSound_closeSubparameter {context : Context} {top after : OpenParameter}
    {sub : OpenSubparameter} (closed : closeSubparameter context top sub = .ok after)
    (topSound : top.draft.IsSound) (subSound : sub.IsSound) : after.draft.IsSound := by
  obtain ⟨children, accepted, rfl⟩ := except_map_eq_ok_iff.mp closed
  obtain rfl := eq_insert_of_accept accepted
  exact
    { entry := ⟨topSound.entry.name, topSound.entry.flags, topSound.entry.format⟩
      pending := topSound.pending
      children := topSound.children.insert (isSubparameter_dropLeadingBreaks subSound) }

theorem holds_close {context : Context} {entries after : Catalogue Entry} {state : State}
    (closed : close context entries state = .ok after)
    (holds : entries.Holds Entry.IsParameter) (sound : state.IsSound) :
    after.Holds Entry.IsParameter := by
  cases state with
  | idle =>
      obtain rfl := Except.ok.inj closed
      exact holds
  | parameter top =>
      obtain rfl := eq_insert_of_accept closed
      exact holds.insert (isParameter_finished sound)
  | subparameter top sub =>
      obtain ⟨between, closedSub, closedTop⟩ := except_bind_eq_ok_iff.mp closed
      obtain rfl := eq_insert_of_accept closedTop
      exact holds.insert
        (isParameter_finished (isSound_closeSubparameter closedSub sound.1 sound.2))

end Commit

/-! ## Lines -/

namespace Reader

theorem isSound_openSubparameter {context : Context} {count : Nat} {text : Text}
    {state after : State}
    (opened : state.openSubparameter context count (entryOfText text) = .ok after)
    (starts : Line.startsName text) (sound : state.IsSound) : after.IsSound := by
  have subSound := OpenSubparameter.IsSound.entryOfText starts count
  cases state with
  | idle =>
      obtain rfl := Except.ok.inj opened
      exact sound
  | parameter top =>
      obtain rfl := Except.ok.inj opened
      exact ⟨sound, subSound⟩
  | subparameter top sub =>
      obtain ⟨between, closed, rfl⟩ := except_map_eq_ok_iff.mp opened
      exact ⟨Commit.isSound_closeSubparameter closed sound.1 sound.2, subSound⟩

/-- A line that succeeds keeps the invariant. -/
theorem isSound_advance {reader : Reader} (sound : reader.IsSound) {line : Text}
    {entries : Catalogue Entry} {state : State}
    (advanced : (reader.advance line).result = .ok (entries, state)) :
    entries.Holds Entry.IsParameter ∧ state.IsSound := by
  cases advances_of_result advanced with
  | topHeader role closed =>
      exact ⟨Commit.holds_close closed sound.entries sound.state,
        Draft.isSound_start (Line.startsName_of_topHeader role)⟩
  | nestedHeader role opened =>
      exact ⟨sound.entries,
        isSound_openSubparameter opened (Line.startsName_of_nestedHeader role) sound.state⟩
  | heard role => exact ⟨sound.entries, sound.state.hear line⟩

/-- Every line keeps the invariant, also one that fails. -/
theorem isSound_feed {reader : Reader} (sound : reader.IsSound) (line : Text) :
    (reader.feed line).reader.IsSound := by
  cases advanced : (reader.advance line).result with
  | error error =>
      rw [feed_of_error advanced]
      exact ⟨sound.entries, trivial⟩
  | ok next =>
      rw [feed_of_ok advanced]
      obtain ⟨holds, open'⟩ := isSound_advance sound advanced
      exact ⟨holds, open'⟩

/-- Feed lines one after another and go on when one of them fails. -/
def feedEach (reader : Reader) (lines : List Text) : Reader :=
  lines.foldl (fun reader line => (reader.feed line).reader) reader

theorem isSound_start (context : Context) : (start context).IsSound :=
  ⟨Catalogue.holds_empty _, trivial⟩

theorem isSound_feedEach {reader : Reader} (sound : reader.IsSound) (lines : List Text) :
    (reader.feedEach lines).IsSound := by
  induction lines generalizing reader with
  | nil => exact sound
  | cons line rest inductionHypothesis => exact inductionHypothesis (isSound_feed sound line)

/-- Whatever lines a reader was fed, and whichever of them failed, the catalogue
that it hands out holds well-formed parameters under distinct names. -/
theorem holds_isParameter_of_finish (context : Context) (lines : List Text)
    {catalogue : Catalogue Entry}
    (finished : ((start context).feedEach lines).finish.result = .ok catalogue) :
    catalogue.Holds Entry.IsParameter := by
  have sound := isSound_feedEach (isSound_start context) lines
  rw [finish_eq, Commit.result_everything] at finished
  exact Commit.holds_close finished sound.entries sound.state

/-- A second parameter of one name fails at the header behind it, which is lost, and
reading goes on. -/
theorem holds_isParameter_after_duplicate :
    let lines := ["\ta=<int>".toList, "\t\tb [X,Y]".toList, "\ta".toList, "\tlost".toList,
      "\tc".toList, "\t\t\t\x7b on | \"off\",".toList, "\t\t\t\x7d".toList]
    let child : Entry :=
      ⟨"b".toList, some ["X".toList, "Y".toList], .unset, [], Catalogue.empty⟩
    let catalogue := Catalogue.ofList
      [⟨"a".toList, none, .literal "<int>".toList, [], Catalogue.ofList [child]⟩,
        ⟨"c".toList, none, .choice ["on".toList, "off".toList], [], Catalogue.empty⟩]
    ((start ⟨none, .reject⟩).feedEach lines).finish.result = .ok catalogue ∧
      catalogue.Holds Entry.IsParameter := by
  intro lines child catalogue
  have finished :
      ((start ⟨none, .reject⟩).feedEach lines).finish.result = .ok catalogue := rfl
  exact ⟨finished, holds_isParameter_of_finish ⟨none, .reject⟩ lines finished⟩

end Reader

end BootManual
