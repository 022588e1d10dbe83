import BootManual.Proofs.CatalogueOrder
import BootManual.Proofs.Continuation
import BootManual.Proofs.Turns

/-!
# What a line does to a reader

A reader writes records while it works, but what it makes of a line does not depend
on them.  This module says, records aside, what committing comes to and what a line
of each role does: a header line closes what it ends and opens an entry that is
never malformed, and any other line is heard by the innermost open entry.
-/

namespace BootManual

section

variable {Error First Second : Type}

theorem except_map_eq_ok_iff {use : First → Second} {first : Except Error First}
    {second : Second} :
    first.map use = .ok second ↔ ∃ value, first = .ok value ∧ use value = second := by
  cases first with
  | error error => simp [Except.map]
  | ok value => simp [Except.map]

theorem except_map_bind {Third : Type} (use : First → Second) (first : Except Error First)
    (next : Second → Except Error Third) :
    first.map use >>= next = first >>= fun value => next (use value) := by
  cases first <;> rfl

theorem except_bind_eq_ok_iff {next : First → Except Error Second}
    {first : Except Error First} {second : Second} :
    first >>= next = .ok second ↔ ∃ value, first = .ok value ∧ next value = .ok second := by
  cases first with
  | error error => simp [bind, Except.bind]
  | ok value => simp [bind, Except.bind]

theorem except_map_eq_error_iff {use : First → Second} {first : Except Error First}
    {error : Error} : first.map use = .error error ↔ first = .error error := by
  cases first <;> simp [Except.map]

theorem except_bind_eq_error_iff {next : First → Except Error Second}
    {first : Except Error First} {error : Error} :
    first >>= next = .error error ↔
      first = .error error ∨ ∃ value, first = .ok value ∧ next value = .error error := by
  cases first <;> simp [bind, Except.bind]

end

namespace Attempt

variable {First Second : Type}

theorem result_bind (first : Attempt First) (second : First → Attempt Second) :
    (first >>= second).result = first.result >>= fun value => (second value).result := by
  cases outcome : first.result with
  | ok value => rw [bind_of_ok outcome]; rfl
  | error error => rw [bind_of_error outcome]; rfl

@[simp]
theorem result_note (line : Nat) (notice : Notice) : (note line notice).result = .ok () :=
  rfl

@[simp]
theorem result_fail (error : ParseError) : (fail error : Attempt First).result = .error error :=
  rfl

end Attempt

/-! ## Committing -/

/-- The open parameter with other sub-parameters. -/
def OpenParameter.withChildren (top : OpenParameter) (children : Catalogue Entry) :
    OpenParameter :=
  { top with draft := { top.draft with entry := { top.draft.entry with children } } }

namespace Commit

open Attempt

/-- Insert an entry unless its name is taken and duplicates are rejected.  The
label and the line are those that the error names. -/
def accept (context : Context) (label : Text) (line : Nat) (entries : Catalogue Entry)
    (entry : Entry) : Except ParseError (Catalogue Entry) :=
  if context.duplicates = .reject ∧ entries.contains entry.name then
    .error (.duplicateName label (context.place line))
  else
    .ok (entries.insert entry)

/-- An open parameter after its open sub-parameter has been committed. -/
def closeSubparameter (context : Context) (top : OpenParameter) (sub : OpenSubparameter) :
    Except ParseError OpenParameter :=
  (accept context (qualify top.name sub.entry.name) sub.line top.children
    (dropLeadingBreaks sub.entry)).map top.withChildren

/-- The catalogue after an open parameter has been committed. -/
def closeParameter (context : Context) (entries : Catalogue Entry) (top : OpenParameter) :
    Except ParseError (Catalogue Entry) :=
  accept context top.name top.line entries (finished top)

/-- The catalogue after everything open has been committed. -/
def close (context : Context) (entries : Catalogue Entry) :
    State → Except ParseError (Catalogue Entry)
  | .idle => .ok entries
  | .parameter top => closeParameter context entries top
  | .subparameter top sub => do
    let top ← closeSubparameter context top sub
    closeParameter context entries top

theorem eq_insert_of_accept {context : Context} {label : Text} {line : Nat}
    {entries after : Catalogue Entry} {entry : Entry}
    (accepted : accept context label line entries entry = .ok after) :
    after = entries.insert entry := by
  unfold accept at accepted
  split at accepted
  · contradiction
  · exact (Except.ok.inj accepted).symm

@[simp]
theorem name_finished (top : OpenParameter) : (finished top).name = top.name := by
  simp only [finished, settleFormat]
  split <;> rfl

theorem result_duplicate (context : Context) (name : Text) (line : Nat) :
    (duplicate context name line).result =
      if context.duplicates = .reject then .error (.duplicateName name (context.place line))
      else .ok () := by
  unfold duplicate
  cases context.duplicates <;> simp [ParseError.locate]

/-- Checking a name and then inserting the entry is accepting it. -/
theorem result_check_bind {Value : Type} (context : Context) (label : Text) (line : Nat)
    (entries : Catalogue Entry) (entry : Entry) (use : Catalogue Entry → Value) :
    (do
      if entries.contains entry.name then
        duplicate context label line
      pure (use (entries.insert entry)) : Attempt Value).result =
      (accept context label line entries entry).map use := by
  cases taken : entries.contains entry.name with
  | false => simp [accept, taken, Except.map]
  | true =>
      simp only [if_true, result_bind, result_duplicate, accept, taken, and_true]
      split <;> rfl

theorem result_subparameter (context : Context) (line : Nat) (top : OpenParameter)
    (sub : OpenSubparameter) :
    (subparameter context line top sub).result = closeSubparameter context top sub := by
  rw [subparameter, note_bind]
  exact result_check_bind context (qualify top.name sub.entry.name) sub.line top.children
    (dropLeadingBreaks sub.entry) top.withChildren

theorem result_parameter (context : Context) (line : Nat) (entries : Catalogue Entry)
    (top : OpenParameter) :
    (parameter context line entries top).result =
      (closeParameter context entries top).map fun _ => finished top := by
  have checked := result_check_bind context (finished top).name top.line entries (finished top)
    fun _ => finished top
  rw [closeParameter, ← name_finished, parameter]
  split
  · rw [note_bind, note_bind]
    exact checked
  · rw [note_bind]
    exact checked

theorem result_insertion (context : Context) (line : Nat) (entries : Catalogue Entry)
    (top : OpenParameter) :
    (insertion context line entries top).result = closeParameter context entries top := by
  rw [insertion, result_bind, result_parameter]
  cases closed : closeParameter context entries top with
  | error error => rfl
  | ok after => exact congrArg Except.ok (eq_insert_of_accept closed).symm

theorem result_everything (context : Context) (line : Nat) (entries : Catalogue Entry)
    (state : State) : (everything context line entries state).result =
      close context entries state := by
  cases state with
  | idle => rfl
  | parameter top => exact result_insertion context line entries top
  | subparameter top sub =>
      rw [everything, result_bind, result_subparameter, close]
      simp only [result_insertion]

end Commit

/-! ## Opening -/

namespace Reader

/-- The entry that the text of a header describes. -/
def entryOfText (text : Text) : Entry :=
  ((Header.read? text).map entryOfHeader).getD default

theorem isSound_entryOfHeader {header : Header} (sound : header.IsSound) :
    (entryOfHeader header).IsSound := by
  refine ⟨sound.name, sound.flags, ?_⟩
  cases hint : header.hint with
  | none => simp [entryOfHeader, hint, Format.IsSound]
  | some text =>
      simpa [entryOfHeader, hint, Format.IsSound] using sound.hint text hint

/-- An entry is never malformed when it is opened: its header begins with a letter
or a digit. -/
theorem result_openEntry (context : Context) (line : Nat) {text : Text}
    (starts : Line.startsName text) :
    (openEntry context line text).result = .ok (entryOfText text) := by
  obtain ⟨header, found, -⟩ := Header.exists_read? starts
  simp [openEntry, entryOfText, found]

theorem isSound_entryOfText {text : Text} (starts : Line.startsName text) :
    (entryOfText text).IsSound := by
  obtain ⟨header, found, sound⟩ := Header.exists_read? starts
  simpa [entryOfText, found] using isSound_entryOfHeader sound

/-- Before anything is known about it, an entry has no sub-parameters and at most a
literal format. -/
theorem entryOfText_plain (text : Text) :
    (entryOfText text).children = Catalogue.empty ∧
      ((entryOfText text).format = .unset ∨ ∃ hint, (entryOfText text).format = .literal hint) := by
  unfold entryOfText
  cases Header.read? text with
  | none => exact ⟨rfl, .inl rfl⟩
  | some header =>
      cases hint : header.hint with
      | none => simp [entryOfHeader, hint]
      | some text => simp [entryOfHeader, hint]

end Reader

namespace State

/-- The open entries after the header of a sub-parameter, whose entry and line are
given.  Outside any parameter the header is ignored. -/
def openSubparameter (context : Context) (line : Nat) (entry : Entry) :
    State → Except ParseError State
  | .idle => .ok .idle
  | .parameter top => .ok (.subparameter top ⟨entry, line⟩)
  | .subparameter top sub =>
    (Commit.closeSubparameter context top sub).map fun top => .subparameter top ⟨entry, line⟩

end State

/-! ## Hearing -/

/-- The open sub-parameter after a line that is no header. -/
def OpenSubparameter.hear (sub : OpenSubparameter) (line : Text) : OpenSubparameter :=
  match Line.classify line with
  | .blank => Reader.describeSubparameter sub []
  | .continuation _ text => Reader.describeSubparameter sub text
  | _ => sub

/-- The open entries after a line that is no header: the innermost one hears it. -/
def State.hear (line : Text) : State → State
  | .idle => .idle
  | .parameter top => .parameter { top with draft := top.draft.hear line }
  | .subparameter top sub => .subparameter top (sub.hear line)

/-! ## Lines -/

namespace Reader

open Attempt

variable {reader : Reader} {line : Text}

/-- The header of a parameter closes everything that is open. -/
theorem result_advance_of_topHeader {text : Text} (role : Line.classify line = .topHeader text) :
    (reader.advance line).result =
      (Commit.close reader.context reader.entries reader.state).map fun entries =>
        (entries, .parameter ⟨Draft.start (entryOfText text), reader.count⟩) := by
  have opened := result_openEntry reader.context reader.count (Line.startsName_of_topHeader role)
  unfold advance
  simp only [role, result_bind, Commit.result_everything, openParameter, opened, result_note,
    result_pure]
  rfl

/-- The header of a sub-parameter closes the sub-parameter that is open. -/
theorem result_advance_of_nestedHeader {text : Text}
    (role : Line.classify line = .nestedHeader text) :
    (reader.advance line).result =
      (reader.state.openSubparameter reader.context reader.count (entryOfText text)).map
        fun state => (reader.entries, state) := by
  have opened := result_openEntry reader.context reader.count
    (Line.startsName_of_nestedHeader role)
  unfold advance
  cases reader.state with
  | idle => simp only [role]; rfl
  | parameter top =>
      simp only [role, route, result_bind, openSubparameter, opened, result_note, result_pure]
      rfl
  | subparameter top sub =>
      simp only [role, route, result_bind, Commit.result_subparameter, openSubparameter, opened,
        result_note, result_pure, State.openSubparameter]
      cases Commit.closeSubparameter reader.context top sub <;> rfl

theorem result_extendParameter (count : Nat) (top : OpenParameter) (text : Text) :
    (extendParameter count top text).result =
      .ok (.parameter { top with draft := (top.draft.absorb text).2 }) := by
  simp only [extendParameter, result_bind]
  cases noticeOf (top.draft.absorb text).1 (top.draft.absorb text).2.entry <;> rfl

theorem result_route_ignored (context : Context) (count : Nat) (raw : Text) (state : State) :
    (route context count raw .ignored state).result = .ok state := by
  cases state <;> simp only [route] <;> split <;> rfl

/-- What is routed to the innermost open entry is heard by it. -/
theorem result_route (context : Context) (count : Nat) (state : State)
    (role : (Line.classify line).isHeader = false) :
    (route context count line (Line.classify line) state).result = .ok (state.hear line) := by
  cases kind : Line.classify line with
  | topHeader text => simp [kind, Line.isHeader, Line.isTopHeader] at role
  | nestedHeader text => simp [kind, Line.isHeader, Line.isNestedHeader] at role
  | blank =>
      cases state with
      | idle => rfl
      | parameter top => simp only [State.hear, Draft.hear, kind]; rfl
      | subparameter top sub => simp only [State.hear, OpenSubparameter.hear, kind]; rfl
  | continuation depth text =>
      cases state with
      | idle => cases depth <;> rfl
      | parameter top =>
          cases depth with
          | three =>
              simp only [State.hear, Draft.hear, kind]
              exact result_extendParameter count top text
          | four => simp only [State.hear, Draft.hear, kind]; rfl
      | subparameter top sub =>
          simp only [State.hear, OpenSubparameter.hear, kind]
          cases depth <;> rfl
  | ignored =>
      rw [result_route_ignored]
      cases state with
      | idle => rfl
      | parameter top => simp only [State.hear, Draft.hear, kind]
      | subparameter top sub => simp only [State.hear, OpenSubparameter.hear, kind]

/-- Any line other than a header is heard and commits nothing. -/
theorem result_advance_of_not_isHeader (role : (Line.classify line).isHeader = false) :
    (reader.advance line).result = .ok (reader.entries, reader.state.hear line) := by
  have heard := result_route reader.context reader.count reader.state role
  unfold advance
  split
  · next text kind => simp [kind, Line.isHeader, Line.isTopHeader] at role
  · rw [result_bind, heard]
    rfl

/-- What a line that succeeds makes of the committed entries and of what is open. -/
inductive Advances (reader : Reader) (line : Text) : Catalogue Entry → State → Prop
  | topHeader {text : Text} {entries : Catalogue Entry}
      (role : Line.classify line = .topHeader text)
      (closed : Commit.close reader.context reader.entries reader.state = .ok entries) :
      Advances reader line entries (.parameter ⟨Draft.start (entryOfText text), reader.count⟩)
  | nestedHeader {text : Text} {state : State} (role : Line.classify line = .nestedHeader text)
      (opened : reader.state.openSubparameter reader.context reader.count (entryOfText text) =
        .ok state) :
      Advances reader line reader.entries state
  | heard (role : (Line.classify line).isHeader = false) :
      Advances reader line reader.entries (reader.state.hear line)

theorem advances_of_result {entries : Catalogue Entry} {state : State}
    (advanced : (reader.advance line).result = .ok (entries, state)) :
    Advances reader line entries state := by
  rcases Line.role_cases (Line.classify line) with top | nested | plain
  · rw [result_advance_of_topHeader top] at advanced
    obtain ⟨closed, closing, same⟩ := except_map_eq_ok_iff.mp advanced
    obtain ⟨rfl, rfl⟩ := Prod.mk.inj same
    exact .topHeader top closing
  · rw [result_advance_of_nestedHeader nested] at advanced
    obtain ⟨opened, opening, same⟩ := except_map_eq_ok_iff.mp advanced
    obtain ⟨rfl, rfl⟩ := Prod.mk.inj same
    exact .nestedHeader nested opening
  · rw [result_advance_of_not_isHeader plain] at advanced
    obtain ⟨rfl, rfl⟩ := Prod.mk.inj (Except.ok.inj advanced)
    exact .heard plain

end Reader

end BootManual
