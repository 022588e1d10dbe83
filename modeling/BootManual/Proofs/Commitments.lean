import BootManual.Proofs.Accounts
import BootManual.Proofs.Failures
import BootManual.Proofs.Insertions
import Mathlib.Data.Set.Subsingleton

/-!
# What a line commits

Committed parameters are final.  Only the header of a parameter commits anything, and
what it commits is the one parameter that is open.  Its name is new, or the entry of that
name is replaced in its place and a warning says so.  A line that fails has committed
nothing by then, so the reader goes on as if nothing had been open.
-/

namespace BootManual

/-- The parameter that is open, whether or not a sub-parameter is open in it. -/
def State.top? : State → Option OpenParameter
  | idle => none
  | parameter top => some top
  | subparameter top _ => some top

namespace Catalogue

variable {catalogue : Catalogue Entry}

/-- The slots whose entries are no longer the same. -/
def changedSlots (before after : Catalogue Entry) : Set Nat :=
  {slot | ∃ entry, before.slots[slot]? = some entry ∧ after.slots[slot]? ≠ some entry}

theorem changedSlots_self (catalogue : Catalogue Entry) : changedSlots catalogue catalogue = ∅ := by
  rw [Set.eq_empty_iff_forall_notMem]
  rintro slot ⟨entry, found, changed⟩
  exact changed found

/-- An insertion changes a slot only under the name of the entry. -/
theorem name_of_mem_changedSlots (indexed : catalogue.IsIndexed) (distinct : catalogue.names.Nodup)
    {entry : Entry} {slot : Nat} (changed : slot ∈ changedSlots catalogue (catalogue.insert entry)) :
    catalogue.names[slot]? = some entry.name := by
  obtain ⟨old, found, changed⟩ := changed
  rw [getElem?_slots_insert indexed distinct entry found] at changed
  have same : old.name = entry.name := by
    by_contra different
    rw [if_neg different] at changed
    exact changed rfl
  rw [names, List.getElem?_map, found, Option.map_some, same]

/-- A name that is not taken is inserted without a change to any slot. -/
theorem changedSlots_insert_of_new (indexed : catalogue.IsIndexed)
    (distinct : catalogue.names.Nodup) {entry : Entry} (new : entry.name ∉ catalogue.names) :
    changedSlots catalogue (catalogue.insert entry) = ∅ := by
  rw [Set.eq_empty_iff_forall_notMem]
  intro slot changed
  exact new (List.mem_of_getElem? (name_of_mem_changedSlots indexed distinct changed))

end Catalogue

namespace Commit

variable {context : Context} {entries after : Catalogue Entry} {state : State}

/-- Closing commits the open parameter, if there is one, and nothing else. -/
theorem close_eq_ok_cases (indexed : entries.IsIndexed)
    (closed : close context entries state = .ok after) :
    (state.top? = none ∧ after = entries) ∨
      ∃ top entry, state.top? = some top ∧ entry.name = top.name ∧
        after = entries.insert entry ∧
        (context.duplicates = .reject → top.name ∉ entries.names) := by
  cases state with
  | idle => exact .inl ⟨rfl, (Except.ok.inj closed).symm⟩
  | parameter top =>
      obtain ⟨fresh, rfl⟩ := (accept_eq_ok_iff indexed).mp closed
      rw [name_finished] at fresh
      exact .inr ⟨top, finished top, rfl, name_finished top, rfl, fresh⟩
  | subparameter top sub =>
      obtain ⟨between, closedSub, closedTop⟩ := except_bind_eq_ok_iff.mp closed
      obtain ⟨children, -, rfl⟩ := except_map_eq_ok_iff.mp closedSub
      obtain ⟨fresh, rfl⟩ := (accept_eq_ok_iff indexed).mp closedTop
      rw [name_finished] at fresh
      exact .inr ⟨top, finished (top.withChildren children), rfl, name_finished _, rfl, fresh⟩

/-- If the name of the open parameter is taken, closing it is warned about. -/
theorem mem_closingWarnings {top : OpenParameter} (isOpen : state.top? = some top)
    (taken : entries.contains top.name = true) :
    ⟨.duplicateName top.name, top.line + 1⟩ ∈ closingWarnings entries state := by
  have due : (⟨.duplicateName top.name, top.line + 1⟩ : Record) ∈
      warning (entries.contains top.name) top.name top.line := by
    rw [taken]
    exact List.mem_singleton_self _
  cases state with
  | idle => contradiction
  | parameter top' =>
      obtain rfl := Option.some.inj isOpen
      exact due
  | subparameter top' sub =>
      obtain rfl := Option.some.inj isOpen
      exact List.mem_append_right _ due

end Commit

namespace Reader

variable {reader : Reader} {line : Text}

theorem entries_feed_of_not_topHeader (other : ∀ text, Line.classify line ≠ .topHeader text) :
    (reader.feed line).reader.entries = reader.entries := by
  cases advanced : (reader.advance line).result with
  | error error => rw [feed_of_error advanced]
  | ok next =>
      obtain ⟨entries, state⟩ := next
      rw [feed_of_ok advanced]
      cases advances_of_result advanced with
      | topHeader role closed => exact absurd role (other _)
      | nestedHeader role opened => rfl
      | heard role => rfl

/-- A line that fails leaves the reader as it was, except that nothing is open. -/
theorem reader_feed_of_failure {error : ParseError}
    (failed : (reader.feed line).failure = some error) :
    (reader.feed line).reader = { reader with state := .idle } := by
  rw [feed_of_error (failure_feed_eq_some_iff.mp failed)]

/-- Everything that a line can do to the catalogue: nothing, or it inserts one entry under
the name of the open parameter.  That name is new if duplicates are rejected, and warned
about if it is not. -/
theorem entries_feed_cases (indexed : reader.entries.IsIndexed) (line : Text) :
    (reader.feed line).reader.entries = reader.entries ∨
      ∃ top entry, reader.state.top? = some top ∧ entry.name = top.name ∧
        (reader.feed line).reader.entries = reader.entries.insert entry ∧
        (reader.context.duplicates = .reject → top.name ∉ reader.entries.names) ∧
        (reader.context.duplicates = .replace → top.name ∈ reader.entries.names →
          ⟨.duplicateName top.name, top.line + 1⟩ ∈ (reader.feed line).log) := by
  cases advanced : (reader.advance line).result with
  | error error =>
      rw [feed_of_error advanced]
      exact .inl rfl
  | ok next =>
      obtain ⟨entries, state⟩ := next
      rw [feed_of_ok advanced]
      cases advances_of_result advanced with
      | nestedHeader role opened => exact .inl rfl
      | heard role => exact .inl rfl
      | topHeader role closed =>
          rcases Commit.close_eq_ok_cases indexed closed with ⟨-, same⟩ | found
          · exact .inl same
          · obtain ⟨top, entry, isOpen, named, inserted, fresh⟩ := found
            refine .inr ⟨top, entry, isOpen, named, inserted, fresh, ?_⟩
            intro replace known
            obtain ⟨⟨file, duplicates⟩, before, committed, count⟩ := reader
            obtain rfl : duplicates = .replace := replace
            have reports := reports_advance_of_topHeader file role committed before count
            have warned := Commit.mem_closingWarnings isOpen
              ((Catalogue.contains_iff indexed top.name).mpr known)
            rw [← reports.warnings] at warned
            exact List.mem_of_mem_filter warned

theorem exists_names_feed (indexed : reader.entries.IsIndexed) (line : Text) :
    ∃ added, (reader.feed line).reader.entries.names = reader.entries.names ++ added ∧
      added.length ≤ 1 := by
  rcases entries_feed_cases indexed line with same | ⟨top, entry, -, -, inserted, -, -⟩
  · exact ⟨[], by rw [same, List.append_nil], Nat.zero_le 1⟩
  · rw [inserted, Catalogue.names_insert indexed]
    split
    · exact ⟨[], (List.append_nil _).symm, Nat.zero_le 1⟩
    · exact ⟨[entry.name], rfl, Nat.le_refl 1⟩

section

variable (indexed : reader.entries.IsIndexed) (distinct : reader.entries.names.Nodup)

include indexed distinct

theorem changedSlots_feed_of_reject (reject : reader.context.duplicates = .reject)
    (line : Text) :
    Catalogue.changedSlots reader.entries (reader.feed line).reader.entries = ∅ := by
  rcases entries_feed_cases indexed line with
    same | ⟨top, entry, -, named, inserted, fresh, -⟩
  · rw [same, Catalogue.changedSlots_self]
  · rw [inserted]
    exact Catalogue.changedSlots_insert_of_new indexed distinct (named ▸ fresh reject)

/-- Every slot that a line changes holds the entry named like the open parameter, and a
warning says so. -/
theorem warned_of_mem_changedSlots (replace : reader.context.duplicates = .replace)
    {slot : Nat}
    (changed : slot ∈ Catalogue.changedSlots reader.entries (reader.feed line).reader.entries) :
    ∃ top, reader.state.top? = some top ∧ reader.entries.names[slot]? = some top.name ∧
      ⟨.duplicateName top.name, top.line + 1⟩ ∈ (reader.feed line).log := by
  rcases entries_feed_cases indexed line with
    same | ⟨top, entry, isOpen, named, inserted, -, warned⟩
  · rw [same, Catalogue.changedSlots_self] at changed
    contradiction
  · rw [inserted] at changed
    have found := Catalogue.name_of_mem_changedSlots indexed distinct changed
    rw [named] at found
    exact ⟨top, isOpen, found, warned replace (List.mem_of_getElem? found)⟩

theorem subsingleton_changedSlots (replace : reader.context.duplicates = .replace) :
    (Catalogue.changedSlots reader.entries
      (reader.feed line).reader.entries).Subsingleton := by
  intro slot changed other otherChanged
  obtain ⟨top, isOpen, found, -⟩ := warned_of_mem_changedSlots indexed distinct replace changed
  obtain ⟨top', isOpen', found', -⟩ :=
    warned_of_mem_changedSlots indexed distinct replace otherChanged
  obtain rfl := Option.some.inj (isOpen.symm.trans isOpen')
  have bound := (List.getElem?_eq_some_iff.mp found).1
  exact (List.getElem?_inj bound distinct).mp (found.trans found'.symm)

end

/-- Committed parameters are stable.  Whatever lines a reader was fed, and whichever of
them failed, the next line keeps the committed names and adds at most one behind them.
If duplicates are rejected, no committed entry changes.  If later entries replace earlier
ones, at most one does, the one named like the open parameter, and the line warns of that
name.  Only the header of a parameter changes the catalogue at all.  A line that fails has
committed nothing and leaves a reader of the same catalogue and the same count in which
nothing is open. -/
theorem feed_keeps_committed (context : Context) (lines : List Text) (line : Text) :
    let reader := (start context).feedEach lines
    let fed := reader.feed line
    let changed := Catalogue.changedSlots reader.entries fed.reader.entries
    (∃ added, fed.reader.entries.names = reader.entries.names ++ added ∧ added.length ≤ 1) ∧
    (context.duplicates = .reject → changed = ∅) ∧
    (context.duplicates = .replace →
      changed.Subsingleton ∧
      ∀ slot ∈ changed, ∃ top, reader.state.top? = some top ∧
        reader.entries.names[slot]? = some top.name ∧
        ∃ record ∈ fed.log, record.notice.level = .warn ∧ record.notice.message =
          "duplicate parameter ".toList ++ top.name ++ ", keeping the later one".toList) ∧
    (fed.reader.entries ≠ reader.entries → ∃ text, Line.classify line = .topHeader text) ∧
    ∀ error, fed.failure = some error →
      fed.reader = ⟨context, .idle, reader.entries, reader.count⟩ := by
  intro reader fed changed
  have sound : reader.IsSound := isSound_feedEach (isSound_start context) lines
  have sameContext : reader.context = context := context_feedEach (start context) lines
  have indexed := sound.entries.indexed
  have distinct := sound.entries.distinct
  refine ⟨exists_names_feed indexed line, ?_, ?_, ?_, ?_⟩
  · intro reject
    exact changedSlots_feed_of_reject indexed distinct (sameContext ▸ reject) line
  · intro replace
    rw [← sameContext] at replace
    refine ⟨subsingleton_changedSlots indexed distinct replace, ?_⟩
    intro slot inside
    obtain ⟨top, isOpen, found, warned⟩ :=
      warned_of_mem_changedSlots indexed distinct replace inside
    exact ⟨top, isOpen, found, _, warned, rfl, rfl⟩
  · intro different
    by_contra other
    exact different (entries_feed_of_not_topHeader (not_exists.mp other))
  · intro error failed
    rw [← sameContext]
    exact reader_feed_of_failure failed

/-- A parameter that occurs again is replaced when the header behind it is read, and a
line that closes a repeated sub-parameter fails and loses what was open. -/
theorem feed_keeps_committed_repeated :
    let replacing := (start ⟨none, .replace⟩).feedEach
      ["\ta".toList, "\tb".toList, "\ta=<int>".toList]
    let replaced := replacing.feed "\tc".toList
    let rejecting := (start ⟨none, .reject⟩).feedEach
      ["\ta".toList, "\tb".toList, "\t\tx".toList, "\t\tx".toList]
    let rejected := rejecting.feed "\tc".toList
    (0 ∈ Catalogue.changedSlots replacing.entries replaced.reader.entries ∧
      ∃ top, replacing.state.top? = some top ∧ replacing.entries.names[0]? = some top.name ∧
        ∃ record ∈ replaced.log, record.notice.level = .warn ∧ record.notice.message =
          "duplicate parameter ".toList ++ top.name ++ ", keeping the later one".toList) ∧
    rejected.failure = some (.duplicateName "b.x".toList " at line 4".toList) ∧
      rejected.reader = ⟨⟨none, .reject⟩, .idle, rejecting.entries, 4⟩ := by
  intro replacing replaced rejecting rejected
  have changed : 0 ∈ Catalogue.changedSlots replacing.entries replaced.reader.entries := by
    have before : replacing.entries.slots[0]? =
        some ⟨"a".toList, none, .flag, [], Catalogue.empty⟩ := rfl
    have after : replaced.reader.entries.slots[0]? =
        some ⟨"a".toList, none, .literal "<int>".toList, [], Catalogue.empty⟩ := rfl
    refine ⟨_, before, ?_⟩
    rw [after]
    nofun
  have failed : rejected.failure = some (.duplicateName "b.x".toList " at line 4".toList) := rfl
  obtain ⟨-, -, replaces, -, -⟩ := feed_keeps_committed ⟨none, .replace⟩
    ["\ta".toList, "\tb".toList, "\ta=<int>".toList] "\tc".toList
  obtain ⟨-, -, -, -, fails⟩ := feed_keeps_committed ⟨none, .reject⟩
    ["\ta".toList, "\tb".toList, "\t\tx".toList, "\t\tx".toList] "\tc".toList
  exact ⟨⟨changed, (replaces rfl).2 0 changed⟩, failed, fails _ failed⟩

end Reader

end BootManual
