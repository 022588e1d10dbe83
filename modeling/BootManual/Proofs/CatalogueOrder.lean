import BootManual.Proofs.Shape
import Mathlib.Data.List.Nodup

/-!
# The order of catalogues

An indexed catalogue is as good as the list of its slots: two with the same slots
are equal, and inserting an entry replaces the one of its name in the list or puts
the entry behind the others.  From the laws of that operation on lists it follows
that inserting entries one by one is the same as first collecting them in a
catalogue of their own.
-/

namespace BootManual.Catalogue

/-! ## Placing an entry in a list -/

/-- The entries with one of them in the place of the first of its name, or behind
the others. -/
def place (entry : Entry) : List Entry → List Entry
  | [] => [entry]
  | first :: rest => if first.name = entry.name then entry :: rest else first :: place entry rest

theorem mem_of_mem_place {entry other : Entry} {entries : List Entry}
    (inside : other ∈ place entry entries) : other = entry ∨ other ∈ entries := by
  induction entries with
  | nil => exact .inl (List.mem_singleton.mp inside)
  | cons first rest inductionHypothesis =>
      rw [place] at inside
      split at inside
      · rcases List.mem_cons.mp inside with same | later
        · exact .inl same
        · exact .inr (List.mem_cons_of_mem first later)
      · rcases List.mem_cons.mp inside with rfl | later
        · exact .inr List.mem_cons_self
        · rcases inductionHypothesis later with same | found
          · exact .inl same
          · exact .inr (List.mem_cons_of_mem first found)

theorem place_of_not_mem {entry : Entry} {entries : List Entry}
    (new : entry.name ∉ entries.map Entry.name) : place entry entries = entries ++ [entry] := by
  induction entries with
  | nil => rfl
  | cons first rest inductionHypothesis =>
      rw [List.map_cons, List.mem_cons, not_or] at new
      rw [place, if_neg (Ne.symm new.1), inductionHypothesis new.2, List.cons_append]

/-- Placing an entry keeps the names, or adds a new one behind them. -/
theorem map_name_place (entry : Entry) (entries : List Entry) :
    (place entry entries).map Entry.name =
      if entry.name ∈ entries.map Entry.name then entries.map Entry.name
      else entries.map Entry.name ++ [entry.name] := by
  induction entries with
  | nil => simp [place]
  | cons first rest inductionHypothesis =>
      rw [place]
      by_cases same : first.name = entry.name
      · simp [same]
      · rw [if_neg same, List.map_cons, inductionHypothesis]
        by_cases known : entry.name ∈ rest.map Entry.name
        · rw [if_pos known, List.map_cons, if_pos (List.mem_cons_of_mem _ known)]
        · have new : entry.name ∉ (first :: rest).map Entry.name := by
            rw [List.map_cons, List.mem_cons, not_or]
            exact ⟨Ne.symm same, known⟩
          rw [if_neg known, if_neg new, List.map_cons, List.cons_append]

theorem mem_names_place {entry : Entry} {entries : List Entry} {name : Text} :
    name ∈ (place entry entries).map Entry.name ↔
      name = entry.name ∨ name ∈ entries.map Entry.name := by
  rw [map_name_place]
  split
  · next known =>
    constructor
    · exact .inr
    · rintro (rfl | found)
      · exact known
      · exact found
  · simp [or_comm]

/-- The later of two entries of one name wins. -/
theorem place_place_of_name_eq {earlier later : Entry} (same : earlier.name = later.name)
    (entries : List Entry) : place later (place earlier entries) = place later entries := by
  induction entries with
  | nil => simp [place, same]
  | cons first rest inductionHypothesis =>
      simp only [place]
      by_cases taken : first.name = earlier.name
      · simp [taken, same, place]
      · rw [if_neg taken, if_neg (same ▸ taken), place, if_neg (same ▸ taken),
          inductionHypothesis]

/-- An entry whose name is taken can be placed before or after another one. -/
theorem place_comm {entry other : Entry} (different : entry.name ≠ other.name)
    {entries : List Entry} (known : entry.name ∈ entries.map Entry.name) :
    place entry (place other entries) = place other (place entry entries) := by
  induction entries with
  | nil => simp at known
  | cons first rest inductionHypothesis =>
      rw [List.map_cons, List.mem_cons] at known
      by_cases isEntry : first.name = entry.name
      · have notOther : first.name ≠ other.name := fun same => different (isEntry.symm.trans same)
        rw [place, if_neg notOther, place, if_pos isEntry, place, if_pos isEntry, place,
          if_neg different]
      · have later : entry.name ∈ rest.map Entry.name := by
          rcases known with same | later
          · exact absurd same.symm isEntry
          · exact later
        by_cases isOther : first.name = other.name
        · rw [place, if_pos isOther, place, if_neg (Ne.symm different), place, if_neg isEntry,
            place, if_pos isOther]
        · rw [place, if_neg isOther, place, if_neg isEntry, place, if_neg isEntry, place,
            if_neg isOther, inductionHypothesis later]

/-! ## Placing entries one by one -/

/-- The entries with others placed among them in order. -/
def placeAll (base entries : List Entry) : List Entry :=
  entries.foldl (fun placed entry => place entry placed) base

theorem placeAll_cons (base : List Entry) (entry : Entry) (rest : List Entry) :
    placeAll base (entry :: rest) = placeAll (place entry base) rest :=
  rfl

theorem mem_names_placeAll {base entries : List Entry} {name : Text}
    (known : name ∈ base.map Entry.name) : name ∈ (placeAll base entries).map Entry.name := by
  induction entries generalizing base with
  | nil => exact known
  | cons entry rest inductionHypothesis =>
      exact inductionHypothesis (mem_names_place.mpr (.inr known))

/-- An entry whose name is taken can be placed before or after others that do not
bear its name. -/
theorem place_placeAll {entry : Entry} {base entries : List Entry}
    (known : entry.name ∈ base.map Entry.name) (unlike : entry.name ∉ entries.map Entry.name) :
    place entry (placeAll base entries) = placeAll (place entry base) entries := by
  induction entries generalizing base with
  | nil => rfl
  | cons other rest inductionHypothesis =>
      rw [List.map_cons, List.mem_cons, not_or] at unlike
      rw [placeAll_cons, placeAll_cons,
        inductionHypothesis (mem_names_place.mpr (.inr known)) unlike.2,
        place_comm unlike.1 known]

/-- Placing entries of distinct names and then one more is the same as placing the
entries after the one more has been placed among them. -/
theorem placeAll_place (base : List Entry) {entries : List Entry}
    (distinct : (entries.map Entry.name).Nodup) (entry : Entry) :
    placeAll base (place entry entries) = place entry (placeAll base entries) := by
  induction entries generalizing base with
  | nil => rfl
  | cons first rest inductionHypothesis =>
      rw [List.map_cons, List.nodup_cons] at distinct
      rw [place]
      by_cases same : first.name = entry.name
      · have unlike : entry.name ∉ rest.map Entry.name := same ▸ distinct.1
        have known : entry.name ∈ (place first base).map Entry.name :=
          mem_names_place.mpr (.inl same.symm)
        rw [if_pos same, placeAll_cons, placeAll_cons, place_placeAll known unlike,
          place_place_of_name_eq same]
      · rw [if_neg same, placeAll_cons, placeAll_cons, inductionHypothesis _ distinct.2]

theorem nodup_names_place {entry : Entry} {entries : List Entry}
    (distinct : (entries.map Entry.name).Nodup) :
    ((place entry entries).map Entry.name).Nodup := by
  rw [map_name_place]
  split
  · exact distinct
  · next new =>
    rw [List.nodup_append]
    refine ⟨distinct, List.nodup_singleton _, ?_⟩
    rintro name known other single rfl
    exact new (List.mem_singleton.mp single ▸ known)

/-- Entries of distinct names stand in the order in which they are placed. -/
theorem placeAll_of_nodup {base entries : List Entry}
    (distinct : ((base ++ entries).map Entry.name).Nodup) :
    placeAll base entries = base ++ entries := by
  induction entries generalizing base with
  | nil => simp [placeAll]
  | cons entry rest inductionHypothesis =>
      have new : entry.name ∉ base.map Entry.name := by
        rw [List.map_append, List.nodup_append] at distinct
        intro known
        exact distinct.2.2 _ known entry.name (by simp) rfl
      rw [placeAll_cons, place_of_not_mem new]
      rw [inductionHypothesis (by simpa using distinct)]
      simp

/-! ## Slots -/

variable {catalogue other : Catalogue Entry}

/-- Indexed catalogues with the same slots are equal. -/
theorem ext_of_slots_eq (indexed : catalogue.IsIndexed) (otherIndexed : other.IsIndexed)
    (same : catalogue.slots = other.slots) : catalogue = other := by
  obtain ⟨slots, index⟩ := catalogue
  obtain ⟨otherSlots, otherIndex⟩ := other
  obtain rfl : slots = otherSlots := same
  rw [IsIndexed] at indexed otherIndexed
  exact congrArg (Catalogue.mk slots) (indexed.trans otherIndexed.symm)

theorem contains_iff (indexed : catalogue.IsIndexed) (name : Text) :
    catalogue.contains name ↔ name ∈ catalogue.names := by
  rw [contains, slot?_eq indexed]
  simp

/-- The index tells where an entry is placed. -/
theorem place_of_idxOf? {entry : Entry} {entries : List Entry} {slot : Nat}
    (found : (entries.map Entry.name).idxOf? entry.name = some slot) :
    place entry entries = entries.set slot entry := by
  induction entries generalizing slot with
  | nil => simp at found
  | cons first rest inductionHypothesis =>
      rw [List.map_cons, List.idxOf?_cons] at found
      rw [place]
      by_cases same : first.name = entry.name
      · obtain rfl : slot = 0 := by simpa [same] using found.symm
        rw [if_pos same, List.set_cons_zero]
      · rw [if_neg (by simpa using same)] at found
        obtain ⟨before, earlier, rfl⟩ := Option.map_eq_some_iff.mp found
        rw [if_neg same, inductionHypothesis earlier, List.set_cons_succ]

/-- Inserting an entry places it among the slots. -/
theorem slots_insert (indexed : catalogue.IsIndexed) (entry : Entry) :
    (catalogue.insert entry).slots = place entry catalogue.slots := by
  have place? := slot?_eq indexed entry.name
  cases found : catalogue.slot? entry.name with
  | some slot =>
      rw [found] at place?
      simp only [insert, exchange, found]
      exact (place_of_idxOf? place?.symm).symm
  | none =>
      rw [found] at place?
      have new : entry.name ∉ catalogue.slots.map Entry.name :=
        List.idxOf?_eq_none_iff.mp place?.symm
      simp only [insert, exchange, found]
      exact (place_of_not_mem new).symm

theorem slots_insertAll (indexed : catalogue.IsIndexed) (entries : List Entry) :
    (catalogue.insertAll entries).slots = placeAll catalogue.slots entries := by
  induction entries generalizing catalogue with
  | nil => rfl
  | cons entry rest inductionHypothesis =>
      rw [insertAll_cons, inductionHypothesis (isIndexed_insert indexed entry),
        slots_insert indexed, placeAll_cons]

theorem slots_ofList (entries : List Entry) : (ofList entries).slots = placeAll [] entries :=
  slots_insertAll isIndexed_empty entries

theorem ofList_concat (entries : List Entry) (entry : Entry) :
    ofList (entries ++ [entry]) = (ofList entries).insert entry := by
  rw [ofList, insertAll_append, insertAll_cons, insertAll_nil, ofList]

theorem mem_slots_insert (indexed : catalogue.IsIndexed) {entry inserted : Entry}
    (inside : inserted ∈ (catalogue.insert entry).slots) :
    inserted = entry ∨ inserted ∈ catalogue.slots := by
  rw [slots_insert indexed] at inside
  exact mem_of_mem_place inside

theorem mem_of_mem_slots_ofList {entries : List Entry} {entry : Entry}
    (inside : entry ∈ (ofList entries).slots) : entry ∈ entries := by
  induction entries using List.reverseRecOn with
  | nil => exact inside
  | append_singleton entries last inductionHypothesis =>
      rw [ofList_concat] at inside
      rcases mem_slots_insert (isIndexed_ofList entries) inside with rfl | known
      · exact List.mem_concat_self
      · exact List.mem_append_left _ (inductionHypothesis known)

theorem size_eq_length_names (catalogue : Catalogue Entry) :
    catalogue.size = catalogue.names.length :=
  (List.length_map _).symm

theorem names_insert (indexed : catalogue.IsIndexed) (entry : Entry) :
    (catalogue.insert entry).names =
      if entry.name ∈ catalogue.names then catalogue.names
      else catalogue.names ++ [entry.name] := by
  rw [names, slots_insert indexed, map_name_place, names]

theorem size_insert (indexed : catalogue.IsIndexed) (entry : Entry) :
    (catalogue.insert entry).size =
      if catalogue.contains entry.name then catalogue.size else catalogue.size + 1 := by
  have known := contains_iff indexed entry.name
  rw [size_eq_length_names, size_eq_length_names, names_insert indexed]
  by_cases taken : entry.name ∈ catalogue.names
  · rw [if_pos taken, if_pos (known.mpr taken)]
  · rw [if_neg taken, if_neg (mt known.mp taken), List.length_append]
    rfl

/-! ## Catalogues in order -/

theorem holds_empty (property : Entry → Prop) : (empty : Catalogue Entry).Holds property :=
  ⟨isIndexed_empty, List.nodup_nil, by simp [empty]⟩

theorem Holds.insert {property : Entry → Prop} (holds : catalogue.Holds property)
    {entry : Entry} (good : property entry) : (catalogue.insert entry).Holds property where
  indexed := isIndexed_insert holds.indexed entry
  distinct := by
    rw [names, slots_insert holds.indexed]
    exact nodup_names_place holds.distinct
  each := by
    intro inserted inside
    rcases mem_slots_insert holds.indexed inside with rfl | known
    · exact good
    · exact holds.each inserted known

theorem nodup_names_ofList (entries : List Entry) : (ofList entries).names.Nodup := by
  induction entries using List.reverseRecOn with
  | nil => exact List.nodup_nil
  | append_singleton entries entry inductionHypothesis =>
      rw [ofList_concat, names, slots_insert (isIndexed_ofList entries)]
      exact nodup_names_place inductionHypothesis

/-- The names stand in the order in which they were first inserted. -/
theorem names_ofList (entries : List Entry) :
    (ofList entries).names = (entries.map Entry.name).eraseDups := by
  induction entries using List.reverseRecOn with
  | nil => rfl
  | append_singleton entries entry inductionHypothesis =>
      rw [ofList_concat, names_insert (isIndexed_ofList entries), inductionHypothesis,
        List.map_append, List.map_singleton, List.eraseDups_append]
      by_cases known : entry.name ∈ entries.map Entry.name
      · have removed : [entry.name].removeAll (entries.map Entry.name) = [] := by
          simpa [List.removeAll] using known
        rw [if_pos (List.mem_eraseDups.mpr known), removed, List.eraseDups_nil, List.append_nil]
      · have kept : [entry.name].removeAll (entries.map Entry.name) = [entry.name] := by
          simpa [List.removeAll] using known
        rw [if_neg (mt List.mem_eraseDups.mp known), kept]
        rfl

theorem mem_names_ofList {entries : List Entry} {name : Text} :
    name ∈ (ofList entries).names ↔ name ∈ entries.map Entry.name := by
  rw [names_ofList, List.mem_eraseDups]

/-- Entries of distinct names are the slots of the catalogue that holds them. -/
theorem slots_ofList_of_nodup {entries : List Entry}
    (distinct : (entries.map Entry.name).Nodup) : (ofList entries).slots = entries := by
  rw [slots_ofList, placeAll_of_nodup (by simpa using distinct), List.nil_append]

theorem ofList_slots (indexed : catalogue.IsIndexed) (distinct : catalogue.names.Nodup) :
    ofList catalogue.slots = catalogue :=
  ext_of_slots_eq (isIndexed_ofList _) indexed (slots_ofList_of_nodup distinct)

/-- Inserting entries one by one is the same as inserting the catalogue that holds
them. -/
theorem insertAll_slots_ofList (indexed : catalogue.IsIndexed) (entries : List Entry) :
    catalogue.insertAll (ofList entries).slots = catalogue.insertAll entries := by
  induction entries using List.reverseRecOn with
  | nil => rfl
  | append_singleton entries entry inductionHypothesis =>
      apply ext_of_slots_eq (isIndexed_insertAll indexed _) (isIndexed_insertAll indexed _)
      calc
        (catalogue.insertAll (ofList (entries ++ [entry])).slots).slots =
            placeAll catalogue.slots (place entry (ofList entries).slots) := by
              rw [slots_insertAll indexed, ofList_concat, slots_insert (isIndexed_ofList entries)]
        _ = place entry (placeAll catalogue.slots (ofList entries).slots) :=
              placeAll_place _ (nodup_names_ofList entries) entry
        _ = place entry (catalogue.insertAll entries).slots := by
              rw [← slots_insertAll indexed, inductionHypothesis]
        _ = (catalogue.insertAll (entries ++ [entry])).slots := by
              rw [insertAll_append, insertAll_cons, insertAll_nil,
                slots_insert (isIndexed_insertAll indexed entries)]

end BootManual.Catalogue
