import BootManual.Entry

/-!
# Catalogues

A catalogue keeps entries in the order in which their names were first inserted.
Inserting under a name that is present replaces the entry in its slot, so the
order does not change and no name ever occurs twice.  Lookups go through the
index; `Catalogue.IsIndexed` says what the index has to be for them to be right.
-/

namespace BootManual.Catalogue

/-- The names in slot order. -/
def names (catalogue : Catalogue Entry) : List Text :=
  catalogue.slots.map Entry.name

/-- How many entries there are. -/
def size {Item : Type} (catalogue : Catalogue Item) : Nat :=
  catalogue.slots.length

/-- Whether there is no entry. -/
def isEmpty {Item : Type} (catalogue : Catalogue Item) : Bool :=
  catalogue.slots.isEmpty

/-- The slot that the index gives for a name. -/
def slot? {Item : Type} (catalogue : Catalogue Item) (name : Text) : Option Nat :=
  catalogue.index.lookup name

/-- Whether the index knows the name. -/
def contains {Item : Type} (catalogue : Catalogue Item) (name : Text) : Bool :=
  (catalogue.slot? name).isSome

/-- The item in the slot of a name. -/
def get? {Item : Type} (catalogue : Catalogue Item) (name : Text) : Option Item :=
  (catalogue.slot? name).bind fun slot => catalogue.slots[slot]?

/-- Put an entry under its name: in the slot of that name if there is one, else in a
new last slot.  The entry that stood in the slot is handed out. -/
def exchange (catalogue : Catalogue Entry) (entry : Entry) : Option Entry × Catalogue Entry :=
  match catalogue.slot? entry.name with
  | some slot =>
    (catalogue.slots[slot]?, { catalogue with slots := catalogue.slots.set slot entry })
  | none =>
    (none,
      { slots := catalogue.slots ++ [entry]
        index := catalogue.index ++ [(entry.name, catalogue.slots.length)] })

/-- The catalogue with an entry put under its name. -/
def insert (catalogue : Catalogue Entry) (entry : Entry) : Catalogue Entry :=
  (catalogue.exchange entry).2

/-- The catalogue after inserting the entries in order. -/
def insertAll (catalogue : Catalogue Entry) (entries : List Entry) : Catalogue Entry :=
  entries.foldl insert catalogue

/-- The catalogue that holds the entries, a later one replacing an earlier one of
the same name. -/
def ofList (entries : List Entry) : Catalogue Entry :=
  empty.insertAll entries

/-- The index sends every name to the slot that holds its entry, and lists the
names in slot order. -/
def IsIndexed (catalogue : Catalogue Entry) : Prop :=
  catalogue.index = catalogue.names.zipIdx

instance (catalogue : Catalogue Entry) : Decidable catalogue.IsIndexed :=
  inferInstanceAs (Decidable (_ = _))

@[simp]
theorem insertAll_nil (catalogue : Catalogue Entry) : catalogue.insertAll [] = catalogue :=
  rfl

@[simp]
theorem insertAll_cons (catalogue : Catalogue Entry) (entry : Entry) (rest : List Entry) :
    catalogue.insertAll (entry :: rest) = (catalogue.insert entry).insertAll rest :=
  rfl

theorem insertAll_append (catalogue : Catalogue Entry) (entries rest : List Entry) :
    catalogue.insertAll (entries ++ rest) = (catalogue.insertAll entries).insertAll rest :=
  List.foldl_append ..

/-! ## The index -/

/-- Looking a name up among numbered names finds its number. -/
theorem lookup_zipIdx (names : List Text) (name : Text) (start : Nat) :
    (names.zipIdx start).lookup name = (names.idxOf? name).map (· + start) := by
  induction names generalizing start with
  | nil => rfl
  | cons first rest inductionHypothesis =>
    rw [List.zipIdx_cons, List.lookup_cons, List.idxOf?_cons, inductionHypothesis]
    by_cases same : name = first
    · subst same
      simp
    · have different : (first == name) = false := by simpa using fun equal => same equal.symm
      have different' : (name == first) = false := by simpa using same
      rw [different, different']
      cases rest.idxOf? name <;> simp
      omega

/-- In an indexed catalogue the index finds the place of a name among the names. -/
theorem slot?_eq {catalogue : Catalogue Entry} (indexed : catalogue.IsIndexed) (name : Text) :
    catalogue.slot? name = catalogue.names.idxOf? name := by
  rw [slot?, indexed, lookup_zipIdx]
  simp

theorem isIndexed_empty : (empty : Catalogue Entry).IsIndexed :=
  rfl

/-- Inserting under a name that is present leaves the names as they are. -/
theorem names_insert_of_slot {catalogue : Catalogue Entry} (indexed : catalogue.IsIndexed)
    {entry : Entry} {slot : Nat} (found : catalogue.slot? entry.name = some slot) :
    (catalogue.insert entry).names = catalogue.names := by
  have placed := found
  rw [slot?_eq indexed, List.idxOf?_eq_some_iff] at placed
  obtain ⟨inside, same, _⟩ := placed
  simp only [insert, exchange, found, names, List.map_set]
  apply List.ext_getElem?
  intro place
  rw [List.getElem?_set]
  split
  · next equal =>
    subst equal
    refine (if_pos inside).trans ?_
    exact (List.getElem?_eq_some_iff.mpr ⟨inside, same⟩).symm
  · rfl

/-- Inserting under a new name puts that name behind the others. -/
theorem names_insert_of_new {catalogue : Catalogue Entry} {entry : Entry}
    (new : catalogue.slot? entry.name = none) :
    (catalogue.insert entry).names = catalogue.names ++ [entry.name] := by
  simp [insert, exchange, new, names]

/-- Inserting keeps the index in step with the slots. -/
theorem isIndexed_insert {catalogue : Catalogue Entry} (indexed : catalogue.IsIndexed)
    (entry : Entry) : (catalogue.insert entry).IsIndexed := by
  cases found : catalogue.slot? entry.name with
  | some slot =>
    rw [IsIndexed, names_insert_of_slot indexed found, ← indexed]
    simp only [insert, exchange, found]
  | none =>
    rw [IsIndexed, names_insert_of_new found, List.zipIdx_append, ← indexed]
    simp only [insert, exchange, found, names, List.length_map]
    simp

/-- Inserting any number of entries keeps the index in step with the slots. -/
theorem isIndexed_insertAll {catalogue : Catalogue Entry} (indexed : catalogue.IsIndexed)
    (entries : List Entry) : (catalogue.insertAll entries).IsIndexed := by
  induction entries generalizing catalogue with
  | nil => exact indexed
  | cons entry rest inductionHypothesis =>
    exact inductionHypothesis (isIndexed_insert indexed entry)

theorem isIndexed_ofList (entries : List Entry) : (ofList entries).IsIndexed :=
  isIndexed_insertAll isIndexed_empty entries

end BootManual.Catalogue
