import BootManual.Format
import BootManual.Text.Lines

/-!
# Entries

An entry documents one parameter.  Its sub-parameters are entries too and form a
catalogue: the entries in the order in which their names first appeared, and an
index from each name to the slot that holds its entry.  The index repeats what
the slots say; operations on catalogues keep the two in step, and equality
compares both.
-/

namespace BootManual

/-- Items in slots, and the slot of each name. -/
structure Catalogue (Item : Type) where
  slots : List Item
  index : List (Text × Nat)
  deriving DecidableEq, Repr

/-- The catalogue without items. -/
def Catalogue.empty {Item : Type} : Catalogue Item :=
  ⟨[], []⟩

/-- One documented parameter or sub-parameter. -/
structure Entry where
  name : Text
  /-- The tags in brackets behind the name.  A header without brackets has none,
  which is not the same as an empty list. -/
  flags : Option (List Text)
  format : Format
  description : Text
  children : Catalogue Entry
  deriving Repr

namespace Entry

/-- The entry of which nothing but the name is known. -/
def named (name : Text) : Entry :=
  ⟨name, none, .unset, [], Catalogue.empty⟩

instance : Inhabited Entry := ⟨named []⟩

/-- The first line of the description that is not blank, trimmed. -/
def summary (entry : Entry) : Option Text :=
  ((Lines.ofText entry.description).map Text.trim).find? (fun line => !line.isEmpty)

/-- The listed values of the format. -/
def values (entry : Entry) : List Text :=
  entry.format.values

mutual

/-- An entry and everything below it, each parent before its children. -/
def walk : Entry → List Entry
  | ⟨name, flags, format, description, ⟨slots, index⟩⟩ =>
    ⟨name, flags, format, description, ⟨slots, index⟩⟩ :: walkAll slots

/-- Entries and everything below them, each parent before its children. -/
def walkAll : List Entry → List Entry
  | [] => []
  | entry :: rest => walk entry ++ walkAll rest

end

/-! ## Equality -/

mutual

/-- Whether two entries agree in every field, sub-parameters included. -/
def same : Entry → Entry → Bool
  | ⟨name, flags, format, description, ⟨slots, index⟩⟩,
    ⟨name', flags', format', description', ⟨slots', index'⟩⟩ =>
    decide (name = name') && decide (flags = flags') && decide (format = format') &&
      decide (description = description') && sameSlots slots slots' && decide (index = index')

/-- Whether two lists of entries agree place by place. -/
def sameSlots : List Entry → List Entry → Bool
  | [], [] => true
  | entry :: rest, entry' :: rest' => same entry entry' && sameSlots rest rest'
  | _, _ => false

end

mutual

theorem eq_of_same : ∀ first second : Entry, same first second = true → first = second
  | ⟨_, _, _, _, ⟨slots, _⟩⟩, ⟨_, _, _, _, ⟨slots', _⟩⟩, agree => by
    simp only [same, Bool.and_eq_true, decide_eq_true_eq] at agree
    obtain ⟨⟨⟨⟨⟨rfl, rfl⟩, rfl⟩, rfl⟩, agreeSlots⟩, rfl⟩ := agree
    rw [eq_of_sameSlots slots slots' agreeSlots]

theorem eq_of_sameSlots :
    ∀ first second : List Entry, sameSlots first second = true → first = second
  | [], [], _ => rfl
  | entry :: rest, entry' :: rest', agree => by
    simp only [sameSlots, Bool.and_eq_true] at agree
    rw [eq_of_same entry entry' agree.1, eq_of_sameSlots rest rest' agree.2]

end

mutual

theorem same_self : ∀ entry : Entry, same entry entry = true
  | ⟨_, _, _, _, ⟨slots, _⟩⟩ => by
    simp [same, sameSlots_self slots]

theorem sameSlots_self : ∀ entries : List Entry, sameSlots entries entries = true
  | [] => rfl
  | entry :: rest => by
    simp [sameSlots, same_self entry, sameSlots_self rest]

end

/-- Two entries are the same exactly when they are equal. -/
theorem same_iff {first second : Entry} : same first second = true ↔ first = second :=
  ⟨eq_of_same first second, fun equal => equal ▸ same_self first⟩

instance : DecidableEq Entry := fun _ _ => decidable_of_iff _ same_iff

end Entry

end BootManual
