import BootManual.Entry
import BootManual.Text.Indent

/-!
# Listings

A listing shows entries for people: a block of five labelled fields and an empty
line for each entry, then the blocks of its sub-parameters, one step further to
the right.  A description keeps its own lines, which move to the right as well.
-/

namespace BootManual.Listing

/-- How many columns sub-parameters stand to the right of their parameter. -/
def step : Nat :=
  4

/-- A label, and the value behind it if it is not empty. -/
def field (label : String) (value : Text) : Text :=
  label.toList ++ ':' :: (if value.isEmpty then [] else ' ' :: value) ++ ['\n']

/-- Texts with a comma and a space between neighbours. -/
def series (texts : List Text) : Text :=
  Text.join ", ".toList texts

/-- The block of one entry without its sub-parameters. -/
def block (entry : Entry) : Text :=
  field "Name" entry.name ++ field "Format" entry.format.marker ++
    field "Flags" (series (entry.flags.getD [])) ++ field "Values" (series entry.values) ++
    field "Desc" entry.description ++ ['\n']

mutual

/-- The listing of an entry at a depth. -/
def ofEntry (depth : Nat) : Entry → Text
  | ⟨name, flags, format, description, ⟨slots, index⟩⟩ =>
    Text.indent (step * depth) (block ⟨name, flags, format, description, ⟨slots, index⟩⟩) ++
      ofEntries (depth + 1) slots

/-- The listing of entries at a depth. -/
def ofEntries (depth : Nat) : List Entry → Text
  | [] => []
  | entry :: rest => ofEntry depth entry ++ ofEntries depth rest

end

/-- The listing of a catalogue. -/
def render (catalogue : Catalogue Entry) : Text :=
  ofEntries 0 catalogue.slots

theorem ofEntry_eq (depth : Nat) (entry : Entry) :
    ofEntry depth entry =
      Text.indent (step * depth) (block entry) ++ ofEntries (depth + 1) entry.children.slots := by
  obtain ⟨name, flags, format, description, ⟨slots, index⟩⟩ := entry
  rw [ofEntry]

end BootManual.Listing
