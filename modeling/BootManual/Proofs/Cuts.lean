import Mathlib.Data.List.Basic

/-!
# Cutting a list in front of items

A list is cut in front of every item that passes a test: into a lead, in which none
does, and parts, each of which begins with one that does and holds no other.  The
list determines the cut and the cut determines the list.
-/

namespace BootManual

/-- A function that leaves every item alone leaves the list alone. -/
theorem map_eq_self {Item : Type} {use : Item → Item} {items : List Item}
    (same : ∀ item ∈ items, use item = item) : items.map use = items :=
  (List.map_congr_left same).trans (List.map_id items)

/-- What stands before the first item that passes the test, and every such item with
what follows it. -/
def cutBefore {Item : Type} (test : Item → Bool) :
    List Item → List Item × List (Item × List Item)
  | [] => ([], [])
  | item :: rest =>
    let cut := cutBefore test rest
    if test item then ([], (item, cut.1) :: cut.2) else (item :: cut.1, cut.2)

/-- The items of parts in their order. -/
def joinParts {Item : Type} (parts : List (Item × List Item)) : List Item :=
  parts.flatMap fun part => part.1 :: part.2

variable {Item Other : Type} {test : Item → Bool}

/-- A part begins with an item that passes the test and holds no other. -/
structure IsPart (test : Item → Bool) (part : Item × List Item) : Prop where
  head : test part.1 = true
  body : ∀ item ∈ part.2, test item = false

@[simp]
theorem joinParts_nil : joinParts ([] : List (Item × List Item)) = [] :=
  rfl

@[simp]
theorem joinParts_cons (part : Item × List Item) (parts : List (Item × List Item)) :
    joinParts (part :: parts) = part.1 :: (part.2 ++ joinParts parts) := by
  simp [joinParts]

theorem cutBefore_cons_of_pos {item : Item} (passes : test item) (rest : List Item) :
    cutBefore test (item :: rest) =
      ([], (item, (cutBefore test rest).1) :: (cutBefore test rest).2) := by
  simp only [cutBefore, if_pos passes]

theorem cutBefore_cons_of_neg {item : Item} (fails : test item = false) (rest : List Item) :
    cutBefore test (item :: rest) =
      (item :: (cutBefore test rest).1, (cutBefore test rest).2) := by
  simp only [cutBefore, fails, Bool.false_eq_true, if_false]

/-- A cut loses nothing, no item of the lead passes the test, and parts are parts. -/
theorem cutBefore_spec (test : Item → Bool) (items : List Item) :
    (cutBefore test items).1 ++ joinParts (cutBefore test items).2 = items ∧
      (∀ item ∈ (cutBefore test items).1, test item = false) ∧
      ∀ part ∈ (cutBefore test items).2, IsPart test part := by
  induction items with
  | nil => simp [cutBefore]
  | cons item rest inductionHypothesis =>
      obtain ⟨joined, lead, parts⟩ := inductionHypothesis
      cases passes : test item with
      | true =>
          rw [cutBefore_cons_of_pos passes]
          refine ⟨by simp [joined], by simp, ?_⟩
          intro part listed
          rcases List.mem_cons.mp listed with rfl | later
          · exact ⟨passes, lead⟩
          · exact parts part later
      | false =>
          rw [cutBefore_cons_of_neg passes]
          refine ⟨by simp [joined], ?_, parts⟩
          intro other inside
          rcases List.mem_cons.mp inside with rfl | later
          · exact passes
          · exact lead other later

theorem mem_of_mem_cutBefore {items : List Item} {part : Item × List Item}
    (listed : part ∈ (cutBefore test items).2) {item : Item} (inside : item ∈ part.1 :: part.2) :
    item ∈ items := by
  rw [← (cutBefore_spec test items).1]
  apply List.mem_append_right
  exact List.mem_flatMap.mpr ⟨part, listed, inside⟩

theorem mem_of_mem_lead {items : List Item} {item : Item}
    (inside : item ∈ (cutBefore test items).1) : item ∈ items := by
  rw [← (cutBefore_spec test items).1]
  exact List.mem_append_left _ inside

/-- The parts hold everything from the first item that passes the test. -/
theorem joinParts_cutBefore (test : Item → Bool) (items : List Item) :
    joinParts (cutBefore test items).2 = items.dropWhile fun item => !test item := by
  induction items with
  | nil => rfl
  | cons item rest inductionHypothesis =>
      cases passes : test item with
      | true =>
          rw [List.dropWhile_cons_of_neg (by simp [passes]), cutBefore_cons_of_pos passes,
            joinParts_cons, (cutBefore_spec test rest).1]
      | false =>
          rw [List.dropWhile_cons_of_pos (by simp [passes]), cutBefore_cons_of_neg passes,
            inductionHypothesis]

/-- The parts begin with the items that pass the test. -/
theorem map_fst_cutBefore (test : Item → Bool) (items : List Item) :
    (cutBefore test items).2.map Prod.fst = items.filter test := by
  induction items with
  | nil => rfl
  | cons item rest inductionHypothesis =>
      cases passes : test item with
      | true =>
          rw [cutBefore_cons_of_pos passes, List.filter_cons_of_pos passes,
            ← inductionHypothesis]
          rfl
      | false =>
          have fails : ¬test item = true := by simp [passes]
          rw [cutBefore_cons_of_neg passes, List.filter_cons_of_neg fails, inductionHypothesis]

/-- A lead in front of a list that is cut joins its lead. -/
theorem cutBefore_append {lead : List Item} (fails : ∀ item ∈ lead, test item = false)
    (rest : List Item) :
    cutBefore test (lead ++ rest) = (lead ++ (cutBefore test rest).1, (cutBefore test rest).2) := by
  induction lead with
  | nil => rfl
  | cons item others inductionHypothesis =>
      rw [List.forall_mem_cons] at fails
      rw [List.cons_append, cutBefore_cons_of_neg fails.1, inductionHypothesis fails.2]
      rfl

/-- A lead and parts are what their items are cut into. -/
theorem cutBefore_joinParts {lead : List Item} (fails : ∀ item ∈ lead, test item = false)
    {parts : List (Item × List Item)} (isParts : ∀ part ∈ parts, IsPart test part) :
    cutBefore test (lead ++ joinParts parts) = (lead, parts) := by
  have bare : cutBefore test (joinParts parts) = ([], parts) := by
    induction parts with
    | nil => rfl
    | cons part others inductionHypothesis =>
        rw [List.forall_mem_cons] at isParts
        rw [joinParts_cons, cutBefore_cons_of_pos isParts.1.head,
          cutBefore_append isParts.1.body, inductionHypothesis isParts.2]
        simp
  rw [cutBefore_append fails, bare, List.append_nil]

/-- An item that passes the test makes one part with others that do not. -/
theorem cutBefore_cons_of_forall {item : Item} (passes : test item) {rest : List Item}
    (fails : ∀ other ∈ rest, test other = false) :
    cutBefore test (item :: rest) = ([], [(item, rest)]) := by
  have whole := cutBefore_append fails []
  rw [List.append_nil] at whole
  rw [cutBefore_cons_of_pos passes, whole]
  simp [cutBefore]

/-- Lists can be cut apart in front of an item that passes the test. -/
theorem cutBefore_append_cons (front : List Item) {item : Item} (passes : test item)
    (rest : List Item) :
    cutBefore test (front ++ item :: rest) =
      ((cutBefore test front).1,
        (cutBefore test front).2 ++ (cutBefore test (item :: rest)).2) := by
  obtain ⟨joined, lead, parts⟩ := cutBefore_spec test front
  obtain ⟨joinedRest, -, partsRest⟩ := cutBefore_spec test (item :: rest)
  have noLead : (cutBefore test (item :: rest)).1 = [] := by
    rw [cutBefore_cons_of_pos passes]
  rw [noLead, List.nil_append] at joinedRest
  calc
    cutBefore test (front ++ item :: rest) =
        cutBefore test ((cutBefore test front).1 ++
          joinParts ((cutBefore test front).2 ++ (cutBefore test (item :: rest)).2)) := by
          rw [joinParts, List.flatMap_append, ← joinParts, ← joinParts, ← List.append_assoc,
            joined, joinedRest]
    _ = _ := cutBefore_joinParts lead (List.forall_mem_append.mpr ⟨parts, partsRest⟩)

/-- Cutting what a function makes of a list makes the parts of what the function
makes of the items. -/
theorem cutBefore_map (test : Other → Bool) (use : Item → Other) (items : List Item) :
    cutBefore test (items.map use) =
      ((cutBefore (test ∘ use) items).1.map use,
        (cutBefore (test ∘ use) items).2.map fun part => (use part.1, part.2.map use)) := by
  induction items with
  | nil => rfl
  | cons item rest inductionHypothesis =>
      rw [List.map_cons]
      cases passes : (test ∘ use) item with
      | true =>
          have mapped : test (use item) = true := passes
          rw [cutBefore_cons_of_pos mapped, inductionHypothesis, cutBefore_cons_of_pos passes]
          rfl
      | false =>
          have mapped : test (use item) = false := passes
          rw [cutBefore_cons_of_neg mapped, inductionHypothesis, cutBefore_cons_of_neg passes]
          rfl

end BootManual
