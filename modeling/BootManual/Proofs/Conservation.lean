import BootManual.Proofs.Absorption
import Mathlib.Data.List.Nodup
import Mathlib.Data.List.Perm.Basic

/-!
# No line is lost or doubled

A line of a value block leaves the draft with the other lines of its block, and lines
that are in no block can overtake them: the description is a rearrangement of what was
fed.  A run is cut into portions, which are the lines by themselves and the blocks, in
the order in which they leave.  Every step is in one portion.  A portion either gave the
format, and then nothing of it is in the description, or all of it is there.
-/

namespace BootManual.Draft

/-! ## Steps -/

/-- What a run tells of one line. -/
structure Step where
  number : Nat
  content : Text
  outcome : Outcome
  /-- Whether a block was open before the line. -/
  wasOpen : Bool
  /-- Whether a block is open behind it. -/
  isOpen : Bool
  deriving DecidableEq, Repr

/-- What a line is to the value blocks. -/
inductive Part where
  /-- It is in no block. -/
  | alone
  /-- It is the first line of a block. -/
  | opening
  /-- It is a line of a block that stays open. -/
  | inner
  /-- It is the line that closes a block. -/
  | closing
  deriving DecidableEq, Repr

/-- A list by itself that ends a block has given it up; any other line that ends a block
has closed it. -/
def Step.part (step : Step) : Part :=
  match step.outcome with
  | .blockOpened => .opening
  | .blockContinued => .inner
  | .format | .values | .description =>
    if step.wasOpen && !step.isOpen && !ValueList.isList step.content then .closing
    else .alone

/-- Whether a line was never put into a block. -/
def Step.isAlone (step : Step) : Bool :=
  step.part = .alone

/-- Whether a line went into a block without closing it. -/
def Step.IsBuffered (step : Step) : Prop :=
  step.part = .opening ∨ step.part = .inner

/-- The step of a draft at a line. -/
def step (draft : Draft) (number : Nat) (line : Text) : Step :=
  let (outcome, next) := draft.absorb line
  ⟨number, content line, outcome, draft.block.isSome, next.block.isSome⟩

/-- The draft after all these lines. -/
def absorbAll (draft : Draft) (lines : List Text) : Draft :=
  lines.foldl (fun draft line => (draft.absorb line).2) draft

/-- The steps of a draft at lines numbered from a given number on. -/
def steps (draft : Draft) (number : Nat) : List Text → List Step
  | [] => []
  | line :: rest => draft.step number line :: (draft.absorb line).2.steps (number + 1) rest

/-! ## Portions -/

/-- Lines that leave a draft together. -/
inductive Portion where
  | single (step : Step)
  | block (steps : List Step)
  deriving DecidableEq, Repr

namespace Portion

/-- The lines of a portion, as steps of the draft. -/
def steps : Portion → List Step
  | single step => [step]
  | block steps => steps

@[simp]
theorem steps_single (step : Step) : (single step).steps = [step] :=
  rfl

@[simp]
theorem steps_block (lines : List Step) : (block lines).steps = lines :=
  rfl

/-- Whether the lines gave the format: a line with a format, a list by itself, or all
lines of a block that was closed with values. -/
def isConsumed : Portion → Bool
  | single step => step.outcome = .format ∨ step.outcome = .values
  | block steps => steps.getLast?.any (fun step => step.outcome = .values)

/-- The portion of the open block, if there is one, when it is given up. -/
def givenUp (pending : Option (List Step)) : List Portion :=
  (pending.map block).toList

/-- The portions that a step completes, and the steps in the block that is open behind
it, given the steps in the block before. -/
def advance (pending : Option (List Step)) (step : Step) : List Portion × Option (List Step) :=
  match step.part with
  | .opening => (givenUp pending, some [step])
  | .inner => ([], some (pending.getD [] ++ [step]))
  | .closing => ([block (pending.getD [] ++ [step])], none)
  | .alone =>
    if step.isOpen then ([single step], pending)
    else (givenUp pending ++ [single step], none)

/-- The portions of a run, the last of them what is flushed behind it. -/
def ofRun (pending : Option (List Step)) : List Step → List Portion
  | [] => givenUp pending
  | step :: rest => (advance pending step).1 ++ ofRun (advance pending step).2 rest

/-- The steps of the portions that gave the format. -/
def consumed (portions : List Portion) : List Step :=
  (portions.filter isConsumed).flatMap steps

/-- The steps of the other portions, portion by portion. -/
def kept (portions : List Portion) : List Step :=
  (portions.filter (fun portion => !portion.isConsumed)).flatMap steps

end Portion

open Portion

/-! ## Every step is in one portion -/

namespace Portion

variable {pending : Option (List Step)}

@[simp]
theorem flatMap_steps_givenUp (pending : Option (List Step)) :
    (givenUp pending).flatMap steps = pending.getD [] := by
  cases pending <;> simp [givenUp]

/-- What a step completes and leaves open is what was open, and the step. -/
theorem advance_perm (pending : Option (List Step)) (step : Step) :
    ((advance pending step).1.flatMap steps ++ (advance pending step).2.getD []).Perm
      (pending.getD [] ++ [step]) := by
  unfold advance
  cases step.part with
  | opening => simp
  | inner => simp
  | closing => simp
  | alone =>
      dsimp only
      split_ifs
      · exact List.perm_append_comm
      · simp

theorem ofRun_perm (pending : Option (List Step)) (run : List Step) :
    ((ofRun pending run).flatMap steps).Perm (pending.getD [] ++ run) := by
  induction run generalizing pending with
  | nil => simp [ofRun]
  | cons step rest inductionHypothesis =>
      rw [ofRun, List.flatMap_append, ← List.singleton_append, ← List.append_assoc]
      refine ((inductionHypothesis (advance pending step).2).append_left _).trans ?_
      rw [← List.append_assoc]
      exact (advance_perm pending step).append_right rest

/-! ## A portion keeps the order of its steps -/

theorem steps_of_mem_givenUp {portion : Portion} (listed : portion ∈ givenUp pending) :
    portion.steps = pending.getD [] := by
  cases pending with
  | none => contradiction
  | some lines =>
      obtain rfl := List.mem_singleton.mp listed
      rfl

theorem sublist_of_mem_advance {portion : Portion} {step : Step}
    (listed : portion ∈ (advance pending step).1) :
    portion.steps.Sublist (pending.getD [] ++ [step]) := by
  unfold advance at listed
  cases part : step.part with
  | opening =>
      rw [part] at listed
      rw [steps_of_mem_givenUp listed]
      exact List.sublist_append_left _ _
  | inner => simp [part] at listed
  | closing =>
      obtain rfl : portion = block (pending.getD [] ++ [step]) := by simpa [part] using listed
      exact List.Sublist.refl _
  | alone =>
      have either : portion = single step ∨ portion ∈ givenUp pending := by
        by_cases remains : step.isOpen <;> simp [part, remains] at listed <;> tauto
      rcases either with rfl | given
      · exact List.sublist_append_right _ _
      · rw [steps_of_mem_givenUp given]
        exact List.sublist_append_left _ _

theorem sublist_advance (pending : Option (List Step)) (step : Step) :
    ((advance pending step).2.getD []).Sublist (pending.getD [] ++ [step]) := by
  unfold advance
  cases step.part with
  | opening => simp
  | inner => simp
  | closing => simp
  | alone =>
      dsimp only
      split_ifs <;> simp

theorem sublist_of_mem_ofRun {portion : Portion} {run : List Step}
    (listed : portion ∈ ofRun pending run) :
    portion.steps.Sublist (pending.getD [] ++ run) := by
  induction run generalizing pending with
  | nil => rw [steps_of_mem_givenUp listed, List.append_nil]
  | cons step rest inductionHypothesis =>
      rw [← List.singleton_append, ← List.append_assoc]
      rcases List.mem_append.mp listed with completed | later
      · exact (sublist_of_mem_advance completed).trans (List.sublist_append_left _ rest)
      · exact (inductionHypothesis later).trans ((sublist_advance pending step).append_right rest)

/-! ## Lines that are in no block stay in order -/

/-- Every line of the open block went into it and has not closed it. -/
def IsPending (pending : Option (List Step)) : Prop :=
  ∀ step ∈ pending.getD [], step.IsBuffered

theorem isPending_none : IsPending none :=
  nofun

theorem IsPending.advance (buffered : IsPending pending) (step : Step) :
    IsPending (advance pending step).2 := by
  unfold Portion.advance
  cases part : step.part with
  | opening => exact List.forall_mem_singleton.mpr (.inl part)
  | inner =>
      exact List.forall_mem_append.mpr ⟨buffered, List.forall_mem_singleton.mpr (.inr part)⟩
  | closing => exact isPending_none
  | alone =>
      dsimp only
      split_ifs
      · exact buffered
      · exact isPending_none

theorem IsPending.filter_isAlone (buffered : IsPending pending) :
    (pending.getD []).filter Step.isAlone = [] := by
  refine List.filter_eq_nil_iff.mpr fun step listed alone => ?_
  have part : step.part = .alone := of_decide_eq_true alone
  rcases buffered step listed with opening | inner <;> simp_all

theorem IsPending.filter_isAlone_advance (buffered : IsPending pending) (step : Step) :
    ((Portion.advance pending step).1.flatMap steps).filter Step.isAlone =
      [step].filter Step.isAlone := by
  have notAlone := buffered.filter_isAlone
  unfold Portion.advance
  cases part : step.part with
  | opening => simp [notAlone, Step.isAlone, part]
  | inner => simp [Step.isAlone, part]
  | closing => simp [notAlone]
  | alone =>
      dsimp only
      split_ifs
      · simp
      · simp [notAlone]

theorem IsPending.filter_isAlone_ofRun (buffered : IsPending pending) (run : List Step) :
    ((ofRun pending run).flatMap steps).filter Step.isAlone = run.filter Step.isAlone := by
  induction run generalizing pending with
  | nil => simpa [ofRun] using buffered.filter_isAlone
  | cons step rest inductionHypothesis =>
      rw [ofRun, List.flatMap_append, List.filter_append, buffered.filter_isAlone_advance,
        inductionHypothesis (buffered.advance step), ← List.filter_append,
        List.singleton_append]

end Portion

/-! ## What is kept -/

namespace Portion

theorem kept_append (first second : List Portion) :
    kept (first ++ second) = kept first ++ kept second := by
  simp [kept]

theorem kept_consumed_perm (portions : List Portion) :
    (consumed portions ++ kept portions).Perm (portions.flatMap steps) := by
  rw [consumed, kept, ← List.flatMap_append]
  exact (List.filter_append_perm isConsumed portions).flatMap_right steps

theorem flatMap_filter {Item Value : Type} (keep : Item → Bool) (values : Item → List Value)
    (items : List Item) :
    (items.filter keep).flatMap values =
      items.flatMap (fun item => if keep item then values item else []) := by
  induction items with
  | nil => rfl
  | cons item rest inductionHypothesis =>
      by_cases keeps : keep item <;> simp [keeps, inductionHypothesis]

theorem mem_consumed {portions : List Portion} {portion : Portion} {step : Step}
    (listed : portion ∈ portions) (gave : portion.isConsumed) (inside : step ∈ portion.steps) :
    step ∈ consumed portions :=
  List.mem_flatMap.mpr ⟨portion, List.mem_filter.mpr ⟨listed, gave⟩, inside⟩

theorem mem_kept {portions : List Portion} {portion : Portion} {step : Step}
    (listed : portion ∈ portions) (spared : ¬portion.isConsumed)
    (inside : step ∈ portion.steps) : step ∈ kept portions :=
  List.mem_flatMap.mpr ⟨portion, List.mem_filter.mpr ⟨listed, by simpa using spared⟩, inside⟩

/-- If no step is in two portions, the steps that are kept are those that are not
consumed. -/
theorem kept_eq_filter {portions : List Portion} (distinct : (portions.flatMap steps).Nodup) :
    kept portions =
      (portions.flatMap steps).filter (fun step => step ∉ consumed portions) := by
  have apart := (List.nodup_append.mp
    ((kept_consumed_perm portions).nodup_iff.mpr distinct)).2.2
  rw [kept, flatMap_filter, List.filter_flatMap]
  apply List.flatMap_congr
  intro portion listed
  by_cases gave : portion.isConsumed
  · have nothing : portion.steps.filter (fun step => step ∉ consumed portions) = [] := by
      rw [List.filter_eq_nil_iff]
      intro step inside
      simpa using mem_consumed listed gave inside
    rw [nothing]
    simp [gave]
  · have whole : portion.steps.filter (fun step => step ∉ consumed portions) =
        portion.steps := by
      rw [List.filter_eq_self]
      intro step inside
      -- Only a second portion could have consumed the step.
      have spared : step ∉ consumed portions := fun given =>
        apart step given step (mem_kept listed gave inside) rfl
      simpa using spared
    rw [whole]
    simp [gave]

theorem isInfix_kept {portions : List Portion} {portion : Portion} (listed : portion ∈ portions)
    (spared : ¬portion.isConsumed) : portion.steps <:+: kept portions := by
  refine List.infix_of_mem_flatten (List.mem_map_of_mem (List.mem_filter.mpr ⟨listed, ?_⟩))
  simpa using spared

@[simp]
theorem kept_singleton (portion : Portion) :
    kept [portion] = if portion.isConsumed then [] else portion.steps := by
  by_cases gave : portion.isConsumed <;> simp [kept, gave]

theorem outcome_ne_values_of_isBuffered {step : Step} (buffered : step.IsBuffered) :
    step.outcome ≠ .values := by
  intro gave
  have neither : step.part = .closing ∨ step.part = .alone := by
    rw [Step.part, gave]
    split_ifs <;> simp
  rcases buffered with part | part <;> simp [part] at neither

/-- Nothing of a block that is given up gave the format. -/
theorem IsPending.kept_givenUp {pending : Option (List Step)} (buffered : IsPending pending) :
    kept (givenUp pending) = pending.getD [] := by
  cases pending with
  | none => rfl
  | some lines =>
      have spared : ¬isConsumed (block lines) := by
        intro gave
        obtain ⟨step, last, values⟩ := (Option.any_eq_true _ _).mp gave
        exact outcome_ne_values_of_isBuffered (buffered step (List.mem_of_getLast? last))
          (of_decide_eq_true values)
      rw [givenUp, Option.map_some, Option.toList_some, kept_singleton, if_neg spared]
      rfl

end Portion

/-! ## The description -/

/-- The steps are those of the open block. -/
def Holds (draft : Draft) (pending : Option (List Step)) : Prop :=
  draft.block = pending.map (List.map Step.content)

theorem Holds.getD {draft : Draft} {pending : Option (List Step)} (holds : draft.Holds pending) :
    draft.block.getD [] = (pending.getD []).map Step.content := by
  cases pending <;> simp_all [Holds]

theorem appendLines_append (text : Text) (first second : List Text) :
    appendLines text (first ++ second) = appendLines (appendLines text first) second := by
  simp [appendLines]

/-- A step leaves the block that its portions leave open, and adds to the description what
is kept of the portions that it completes. -/
theorem Absorbs.advance {draft next : Draft} {content : Text} {outcome : Outcome}
    (absorbs : draft.Absorbs content outcome next) {pending : Option (List Step)}
    (holds : draft.Holds pending) (buffered : IsPending pending) (number : Nat) :
    let step : Step := ⟨number, content, outcome, draft.block.isSome, next.block.isSome⟩
    next.Holds (Portion.advance pending step).2 ∧
      next.entry.description = appendLines draft.entry.description
        ((kept (Portion.advance pending step).1).map Step.content) := by
  have lines_eq := holds.getD
  have givenUp := buffered.kept_givenUp
  cases absorbs with
  | format format free =>
      -- A format is read only where no block is open, so there is nothing to give up.
      obtain rfl : pending = none := Option.map_eq_none_iff.mp (holds.symm.trans free)
      simp [Portion.advance, Step.part, free, start, Holds, Portion.givenUp, isConsumed]
  | list list found =>
      simp [Portion.advance, Step.part, list, start, Holds, kept_append, givenUp, flush, describe,
        isConsumed, lines_eq]
  | emptyList list empty =>
      simp [Portion.advance, Step.part, list, start, Holds, kept_append, givenUp, flush, describe,
        isConsumed, lines_eq, appendLines_append]
  | opening opened unclosed begins =>
      simp [Portion.advance, Step.part, Holds, givenUp, flush, describe, lines_eq]
  | inner block unopened unclosed separated =>
      simp [Portion.advance, Step.part, Holds, ← lines_eq, block, kept]
  | closing block closed unlisted found =>
      simp [Portion.advance, Step.part, Holds, block, unlisted, start, isConsumed]
  | emptyClosing block closed unlisted empty =>
      simp [Portion.advance, Step.part, Holds, ← lines_eq, block, unlisted, start, isConsumed,
        describe]
  | prose unlisted =>
      -- A block that is open stays open, and the line leaves before the lines of the block.
      cases before : draft.block with
      | none =>
          obtain rfl : pending = none := Option.map_eq_none_iff.mp (holds.symm.trans before)
          simp [Portion.advance, Step.part, Holds, Portion.givenUp, isConsumed, describe]
      | some lines =>
          have same : some lines = pending.map (List.map Step.content) := before.symm.trans holds
          simpa [Portion.advance, Step.part, isConsumed, describe, Holds] using same

theorem description_absorbAll {draft : Draft} {pending : Option (List Step)}
    (holds : draft.Holds pending) (buffered : IsPending pending) (number : Nat)
    (lines : List Text) :
    (draft.absorbAll lines).flush.entry.description = appendLines draft.entry.description
      ((kept (ofRun pending (draft.steps number lines))).map Step.content) := by
  induction lines generalizing draft pending number with
  | nil =>
      change appendLines draft.entry.description (draft.block.getD []) = _
      rw [steps, ofRun, buffered.kept_givenUp, holds.getD]
  | cons line rest inductionHypothesis =>
      obtain ⟨holdsNext, described⟩ := (absorbs_absorb draft line).advance holds buffered number
      change (((draft.absorb line).2).absorbAll rest).flush.entry.description = _
      rw [steps, ofRun, kept_append, List.map_append, appendLines_append,
        inductionHypothesis holdsNext (buffered.advance _) (number + 1), described]
      rfl

theorem steps_eq_zipIdx (draft : Draft) (number : Nat) (lines : List Text) :
    (draft.steps number lines).map (fun step => (step.content, step.number)) =
      (lines.map content).zipIdx number := by
  induction lines generalizing draft number with
  | nil => rfl
  | cons line rest inductionHypothesis =>
      rw [steps, List.map_cons, List.map_cons, List.zipIdx_cons, inductionHypothesis]
      rfl

theorem nodup_steps (draft : Draft) (number : Nat) (lines : List Text) :
    (draft.steps number lines).Nodup := by
  have numbers : (draft.steps number lines).map Step.number = List.range' number lines.length := by
    have numbered := congrArg (List.map Prod.snd) (steps_eq_zipIdx draft number lines)
    simpa [List.zipIdx_map_snd, Function.comp_def] using numbered
  exact List.Nodup.of_map Step.number (numbers ▸ List.nodup_range')

/-- The description behind a run has every line that gave no format, once.  Lines that
were in no block are there in the order in which they were fed.  The lines of a block
stand together, and in that order too. -/
theorem lines_conserved (entry : Entry) (lines : List Text) :
    let run := (start entry).steps 0 lines
    let portions := ofRun none run
    run.map (fun step => (step.content, step.number)) = (lines.map content).zipIdx ∧
    ∃ order : List Step,
      ((start entry).absorbAll lines).flush.entry.description =
        entry.description ++ order.flatMap (fun step => '\n' :: step.content) ∧
      order.Perm (run.filter (fun step => step ∉ consumed portions)) ∧
      order.filter Step.isAlone =
        run.filter (fun step => step.isAlone ∧ step ∉ consumed portions) ∧
      ∀ portion ∈ portions, ¬portion.isConsumed →
        portion.steps <:+: order ∧ portion.steps.Sublist run := by
  intro run portions
  have everyStep : (portions.flatMap Portion.steps).Perm run := ofRun_perm none run
  have spared : kept portions =
      (portions.flatMap Portion.steps).filter (fun step => step ∉ consumed portions) :=
    kept_eq_filter (everyStep.nodup_iff.mpr (nodup_steps (start entry) 0 lines))
  refine ⟨steps_eq_zipIdx (start entry) 0 lines, kept portions, ?_, ?_, ?_, ?_⟩
  · have free : (start entry).Holds none := rfl
    rw [description_absorbAll free isPending_none 0 lines, appendLines, List.flatMap_map]
    rfl
  · rw [spared]
    exact everyStep.filter _
  · calc
      (kept portions).filter Step.isAlone
        = ((portions.flatMap Portion.steps).filter Step.isAlone).filter
            (fun step => step ∉ consumed portions) := by rw [spared, List.filter_comm]
      _ = (run.filter Step.isAlone).filter (fun step => step ∉ consumed portions) := by
          rw [isPending_none.filter_isAlone_ofRun]
      _ = run.filter (fun step => step.isAlone ∧ step ∉ consumed portions) := by
          simp [List.filter_filter, and_comm]
  · exact fun portion listed left =>
      ⟨isInfix_kept listed left, sublist_of_mem_ofRun listed⟩

/-- A note overtakes the block that it stands in.  The block is given up for a second one,
whose lines become the format. -/
theorem lines_conserved_overtaken :
    let entry : Entry := .named "mode".toList
    let lines := ["\x7b on |", "a note", "| off,", "\x7b x,", "y \x7d"].map String.toList
    let run := (start entry).steps 0 lines
    let portions := ofRun none run
    let block : List Step :=
      [⟨0, "\x7b on |".toList, .blockOpened, false, true⟩,
        ⟨2, "| off,".toList, .blockContinued, true, true⟩]
    ((start entry).absorbAll lines).flush.entry.description =
        "\na note\n\x7b on |\n| off,".toList ∧
      Portion.block block ∈ portions ∧ ¬(Portion.block block).isConsumed ∧
      ∃ order : List Step,
        ((start entry).absorbAll lines).flush.entry.description =
          entry.description ++ order.flatMap (fun step => '\n' :: step.content) ∧
        order.Perm (run.filter (fun step => step ∉ consumed portions)) ∧
        block <:+: order ∧ block.Sublist run := by
  intro entry lines run portions block
  have listed : Portion.block block ∈ portions := by decide
  have spared : ¬(Portion.block block).isConsumed := by decide
  obtain ⟨-, order, described, complete, -, together⟩ := lines_conserved entry lines
  exact ⟨rfl, listed, spared, order, described, complete, together _ listed spared⟩

end BootManual.Draft
