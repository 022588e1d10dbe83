import BootManual.Proofs.Absorption
import BootManual.Proofs.Cutting

/-!
# Open value blocks

A block is opened by a line that begins with a brace, and only lines that belong to it
are put behind: a line that begins with a brace opens another block or is a list by
itself, and one that ends with a brace closes the block.  What a line comes to tells how
the draft in front of it and the draft behind it differ.  Both follow from the fates of a
line, whatever calls have been made before.
-/

namespace BootManual

namespace ValueList

variable {line : Text}

theorem opens_iff : opens line ↔ line.head? = some '\x7b' :=
  Text.startsWith_singleton_iff

theorem closes_iff : closes line ↔ line.getLast? = some '\x7d' := by
  simp [closes, Text.endsWith]

/-- The lines of a block that is open.  The first one begins with a brace and has a
separator, unless it is nothing but the brace; the others have separators and do not
begin with a brace; and no line ends with the closing brace. -/
inductive IsBlock : List Text → Prop where
  | intro {first : Text} {others : List Text} (opened : first.head? = some '\x7b')
      (unclosed : first.getLast? ≠ some '\x7d')
      (begins : ('|' ∈ first ∨ ',' ∈ first) ∨ first = ['\x7b'])
      (goesOn : ∀ line ∈ others,
        ('|' ∈ line ∨ ',' ∈ line) ∧ line.head? ≠ some '\x7b' ∧ line.getLast? ≠ some '\x7d') :
      IsBlock (first :: others)

theorem isBlock_singleton (opened : opens line) (unclosed : ¬closes line)
    (begins : hasSeparator line ∨ line = ['\x7b']) : IsBlock [line] := by
  rw [opens_iff] at opened
  rw [closes_iff] at unclosed
  rw [hasSeparator_iff] at begins
  exact .intro opened unclosed begins (List.forall_mem_nil _)

theorem IsBlock.concat {lines : List Text} (block : IsBlock lines) (unopened : ¬opens line)
    (unclosed : ¬closes line) (separated : hasSeparator line) : IsBlock (lines ++ [line]) := by
  rw [opens_iff] at unopened
  rw [closes_iff] at unclosed
  rw [hasSeparator_iff] at separated
  obtain ⟨opened, firstUnclosed, begins, goesOn⟩ := block
  refine .intro opened firstUnclosed begins (List.forall_mem_append.mpr ⟨goesOn, ?_⟩)
  exact List.forall_mem_singleton.mpr ⟨separated, unopened, unclosed⟩

end ValueList

/-! ## Steps -/

/-- What an outcome tells of the draft before a line and of the draft behind it. -/
def Outcome.Relates (before after : Draft) : Outcome → Prop
  | format => before.block = none ∧ after.block = none
  | values => after.block = none ∧ ∃ values, values ≠ [] ∧ after.entry.format = .choice values
  | blockOpened => ∃ line, after.block = some [line]
  | blockContinued =>
    before.block.isSome ∧ after.entry.format = before.entry.format ∧
      after.entry.description = before.entry.description
  | description => after.entry.format = before.entry.format

namespace Draft

open ValueList

variable {draft next : Draft} {content : Text} {outcome : Outcome}

/-- If a block is open, its lines are those of a block. -/
def HasBlock (draft : Draft) : Prop :=
  ∀ lines ∈ draft.block, IsBlock lines

theorem hasBlock_of_eq_none (free : draft.block = none) : draft.HasBlock := by
  intro lines inside
  rw [free] at inside
  contradiction

theorem hasBlock_of_eq_some {lines : List Text} (opened : draft.block = some lines)
    (block : IsBlock lines) : draft.HasBlock := by
  intro others inside
  obtain rfl := Option.some.inj (opened.symm.trans inside)
  exact block

/-- A line leaves the lines of a block, if any. -/
theorem Absorbs.hasBlock (absorbs : draft.Absorbs content outcome next) (holds : draft.HasBlock) :
    next.HasBlock := by
  cases absorbs with
  | format format free => exact hasBlock_of_eq_none rfl
  | list list found => exact hasBlock_of_eq_none rfl
  | emptyList list empty => exact hasBlock_of_eq_none rfl
  | opening opened unclosed begins =>
      exact hasBlock_of_eq_some rfl (isBlock_singleton opened unclosed begins)
  | inner block unopened unclosed separated =>
      exact hasBlock_of_eq_some rfl ((holds _ block).concat unopened unclosed separated)
  | closing block closed unlisted found => exact hasBlock_of_eq_none rfl
  | emptyClosing block closed unlisted empty => exact hasBlock_of_eq_none rfl
  | prose unlisted => exact holds

/-- The outcome of a line tells the truth. -/
theorem Absorbs.relates (absorbs : draft.Absorbs content outcome next) :
    outcome.Relates draft next := by
  cases absorbs with
  | format format free => exact ⟨free, rfl⟩
  | list list found => exact ⟨rfl, _, found, rfl⟩
  | emptyList list empty => rfl
  | opening opened unclosed begins => exact ⟨_, rfl⟩
  | inner block unopened unclosed separated =>
      exact ⟨Option.isSome_of_eq_some block, rfl, rfl⟩
  | closing block closed unlisted found => exact ⟨rfl, _, found, rfl⟩
  | emptyClosing block closed unlisted empty => rfl
  | prose unlisted => rfl

/-! ## Runs -/

/-- What a caller can do to a draft. -/
inductive Call where
  | feed (line : Text)
  | flush
  deriving DecidableEq, Repr

/-- The draft after a call. -/
def after (draft : Draft) : Call → Draft
  | .feed line => (draft.absorb line).2
  | .flush => draft.flush

/-- The draft after all calls. -/
def afterAll (draft : Draft) (calls : List Call) : Draft :=
  calls.foldl after draft

theorem HasBlock.after (holds : draft.HasBlock) (call : Call) : (draft.after call).HasBlock := by
  cases call with
  | feed line => exact (absorbs_absorb draft line).hasBlock holds
  | flush => exact hasBlock_of_eq_none rfl

theorem HasBlock.afterAll (holds : draft.HasBlock) (calls : List Call) :
    (draft.afterAll calls).HasBlock := by
  induction calls generalizing draft with
  | nil => exact holds
  | cons call rest inductionHypothesis => exact inductionHypothesis (holds.after call)

/-- Whatever calls have been made on a fresh draft, the lines of the block that is open,
if one is, are those of a block.  The outcome of any further line tells how the format,
the description and the block behind it compare with those before.  A flush leaves no
block and keeps the format, and a second one changes nothing. -/
theorem hasBlock_afterAll (entry : Entry) (calls : List Call) :
    let draft := (start entry).afterAll calls
    (∀ lines, draft.block = some lines → IsBlock lines) ∧
    (∀ line, (draft.absorb line).1.Relates draft (draft.absorb line).2) ∧
    draft.flush.block = none ∧ draft.flush.entry.format = draft.entry.format ∧
    draft.flush.flush = draft.flush := by
  intro draft
  have fresh : (start entry).HasBlock := hasBlock_of_eq_none rfl
  exact ⟨fresh.afterAll calls, fun line => (absorbs_absorb draft line).relates, rfl, rfl,
    flush_flush draft⟩

/-- A block that a second one ended, with a note and a directive in front of its last
line, which neither of them closes. -/
theorem hasBlock_afterAll_second :
    let lines := ["\x7b a,", "b, c \x7d", "\x7b on |", "a note", "\x7b", "Format: x", "off,"]
    let draft := (start (Entry.named "mode".toList)).afterAll
      (lines.map fun line => .feed line.toList)
    draft.block = some ["\x7b".toList, "off,".toList] ∧
      IsBlock ["\x7b".toList, "off,".toList] ∧
      (draft.absorb "on \x7d".toList).1 = .values ∧
      (draft.absorb "on \x7d".toList).2.block = none := by
  intro lines draft
  have opened : draft.block = some ["\x7b".toList, "off,".toList] := by decide
  have closed : (draft.absorb "on \x7d".toList).1 = .values := by decide
  obtain ⟨block, step, -⟩ := hasBlock_afterAll (Entry.named "mode".toList)
    (lines.map fun line => .feed line.toList)
  have relates : Outcome.values.Relates draft (draft.absorb "on \x7d".toList).2 :=
    closed ▸ step "on \x7d".toList
  exact ⟨opened, block _ opened, closed, relates.1⟩

end Draft

end BootManual
