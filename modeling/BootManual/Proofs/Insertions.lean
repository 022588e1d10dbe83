import BootManual.Proofs.Independence

/-!
# Catalogues as records of insertions

A catalogue that came about by insertions is determined by the entries that were
inserted.  The names stand in the order in which each was first inserted, and under
each name stands the entry that was inserted last.  The index says nothing that the
slots do not say, at any depth, so it makes no difference to equality.
-/

namespace BootManual

/-! ## Entries that differ in their indices -/

namespace Entry

mutual

/-- Whether two entries agree in every field, when of their sub-parameters only the
slots are looked at and not the index, at every depth. -/
def agree : Entry → Entry → Bool
  | ⟨name, flags, format, description, ⟨slots, _⟩⟩,
    ⟨name', flags', format', description', ⟨slots', _⟩⟩ =>
    decide (name = name') && decide (flags = flags') && decide (format = format') &&
      decide (description = description') && agreeSlots slots slots'

/-- Whether two lists of entries agree place by place, indices aside. -/
def agreeSlots : List Entry → List Entry → Bool
  | [], [] => true
  | entry :: rest, entry' :: rest' => agree entry entry' && agreeSlots rest rest'
  | _, _ => false

end

mutual

theorem agree_self : ∀ entry : Entry, agree entry entry = true
  | ⟨_, _, _, _, ⟨slots, _⟩⟩ => by
    simp [agree, agreeSlots_self slots]

theorem agreeSlots_self : ∀ entries : List Entry, agreeSlots entries entries = true
  | [] => rfl
  | entry :: rest => by
    simp [agreeSlots, agree_self entry, agreeSlots_self rest]

end

/-- An entry whose sub-parameters came about by insertions, and theirs likewise. -/
inductive IsBuilt : Entry → Prop where
  | inserting (name : Text) (flags : Option (List Text)) (format : Format) (description : Text)
      {items : List Entry} (each : ∀ item ∈ items, IsBuilt item) :
      IsBuilt ⟨name, flags, format, description, Catalogue.ofList items⟩

theorem eq_of_agreeSlots {entries others : List Entry}
    (each : ∀ entry ∈ entries, ∀ other ∈ others, agree entry other = true → entry = other)
    (alike : agreeSlots entries others = true) : entries = others := by
  induction entries generalizing others with
  | nil =>
      cases others with
      | nil => rfl
      | cons other rest => simp [agreeSlots] at alike
  | cons entry rest inductionHypothesis =>
      cases others with
      | nil => simp [agreeSlots] at alike
      | cons other others =>
          rw [agreeSlots, Bool.and_eq_true] at alike
          have first : entry = other :=
            each entry List.mem_cons_self other List.mem_cons_self alike.1
          have later : rest = others := by
            apply inductionHypothesis _ alike.2
            intro entry inside other otherInside
            exact each entry (List.mem_cons_of_mem _ inside) other
              (List.mem_cons_of_mem _ otherInside)
          rw [first, later]

/-- Where every catalogue came about by insertions, the slots determine an entry. -/
theorem IsBuilt.eq_of_agree {entry other : Entry} (built : entry.IsBuilt)
    (otherBuilt : other.IsBuilt) (alike : agree entry other = true) : entry = other := by
  induction built generalizing other with
  | @inserting name flags format description items each inductionHypothesis =>
      obtain ⟨name', flags', format', description', otherEach⟩ := otherBuilt
      rename_i others
      simp only [agree, Bool.and_eq_true, decide_eq_true_eq] at alike
      obtain ⟨⟨⟨⟨rfl, rfl⟩, rfl⟩, rfl⟩, alikeSlots⟩ := alike
      have sameSlots : (Catalogue.ofList items).slots = (Catalogue.ofList others).slots := by
        apply eq_of_agreeSlots _ alikeSlots
        intro item inside other otherInside
        exact inductionHypothesis item (Catalogue.mem_of_mem_slots_ofList inside)
          (otherEach other (Catalogue.mem_of_mem_slots_ofList otherInside))
      rw [Catalogue.ext_of_slots_eq (Catalogue.isIndexed_ofList items)
        (Catalogue.isIndexed_ofList others) sameSlots]

end Entry

namespace Catalogue

variable {catalogue : Catalogue Entry}

/-! ## The index -/

theorem mem_index_iff (indexed : catalogue.IsIndexed) {name : Text} {slot : Nat} :
    (name, slot) ∈ catalogue.index ↔
      ∃ entry, catalogue.slots[slot]? = some entry ∧ entry.name = name := by
  rw [indexed, List.mem_zipIdx_iff_getElem?, names, List.getElem?_map]
  exact Option.map_eq_some_iff

theorem slot?_eq_some_iff (indexed : catalogue.IsIndexed) (distinct : catalogue.names.Nodup)
    {name : Text} {slot : Nat} :
    catalogue.slot? name = some slot ↔ (name, slot) ∈ catalogue.index := by
  rw [slot?_eq indexed, indexed, List.mem_zipIdx_iff_getElem?, List.idxOf?_eq_some_iff,
    List.getElem?_eq_some_iff]
  constructor
  · rintro ⟨inside, found, -⟩
    exact ⟨inside, found⟩
  · rintro ⟨inside, found⟩
    refine ⟨inside, found, ?_⟩
    intro earlier before same
    have equal := distinct.getElem_inj_iff.mp (same.trans found.symm)
    exact absurd equal (Nat.ne_of_lt before)

/-! ## The entries under the names -/

/-- The last of the entries that bears the name. -/
def lastNamed (name : Text) (entries : List Entry) : Option Entry :=
  entries.reverse.find? fun entry => entry.name = name

theorem lastNamed_concat (name : Text) (entries : List Entry) (entry : Entry) :
    lastNamed name (entries ++ [entry]) =
      if entry.name = name then some entry else lastNamed name entries := by
  rw [lastNamed, List.reverse_append, List.reverse_singleton, List.singleton_append]
  by_cases same : entry.name = name
  · rw [List.find?_cons_of_pos (by simpa using same), if_pos same]
  · rw [List.find?_cons_of_neg (by simpa using same), if_neg same, lastNamed]

theorem find?_place (name : Text) (entry : Entry) (entries : List Entry) :
    ((place entry entries).find? fun other => other.name = name) =
      if entry.name = name then some entry else entries.find? fun other => other.name = name := by
  induction entries with
  | nil => by_cases same : entry.name = name <;> simp [place, same]
  | cons first rest inductionHypothesis =>
      rw [place]
      by_cases taken : first.name = entry.name
      · by_cases same : entry.name = name
        · simp [taken, same]
        · simp [taken, same]
      · rw [if_neg taken]
        by_cases found : first.name = name
        · have different : entry.name ≠ name := fun same => taken (found.trans same.symm)
          simp [found, different]
        · simp [found, inductionHypothesis]

theorem get?_insert (indexed : catalogue.IsIndexed) (entry : Entry) (name : Text) :
    (catalogue.insert entry).get? name =
      if entry.name = name then some entry else catalogue.get? name := by
  rw [get?_eq_find? (isIndexed_insert indexed entry), slots_insert indexed, find?_place,
    get?_eq_find? indexed]

/-- Under each name stands the entry that was inserted last. -/
theorem get?_ofList (entries : List Entry) (name : Text) :
    (ofList entries).get? name = lastNamed name entries := by
  induction entries using List.reverseRecOn with
  | nil => rfl
  | append_singleton entries entry inductionHypothesis =>
      rw [ofList_concat, get?_insert (isIndexed_ofList entries), inductionHypothesis,
        lastNamed_concat]

theorem contains_ofList_iff (entries : List Entry) (name : Text) :
    (ofList entries).contains name ↔ ∃ entry ∈ entries, entry.name = name := by
  rw [contains_iff (isIndexed_ofList entries), mem_names_ofList, List.mem_map]

/-! ## One more insertion -/

theorem fst_exchange (catalogue : Catalogue Entry) (entry : Entry) :
    (catalogue.exchange entry).1 = catalogue.get? entry.name := by
  rw [exchange, get?]
  cases catalogue.slot? entry.name <;> rfl

/-- The entry of the same name gives its slot to the new one, and no other entry is
touched. -/
theorem getElem?_slots_insert (indexed : catalogue.IsIndexed) (distinct : catalogue.names.Nodup)
    (entry : Entry) {slot : Nat} {old : Entry} (found : catalogue.slots[slot]? = some old) :
    (catalogue.insert entry).slots[slot]? =
      some (if old.name = entry.name then entry else old) := by
  rw [slots_insert indexed]
  by_cases known : entry.name ∈ catalogue.slots.map Entry.name
  · rw [place_of_mem known distinct, List.getElem?_map, found, Option.map_some, renew_cons]
    by_cases same : old.name = entry.name
    · rw [if_pos same, if_pos same.symm]
    · rw [if_neg same, if_neg (Ne.symm same)]
      rfl
  · have different : old.name ≠ entry.name := fun same =>
      known (same ▸ List.mem_map_of_mem (List.mem_of_getElem? found))
    rw [place_of_not_mem known, if_neg different]
    exact (List.getElem?_append_left (List.getElem?_eq_some_iff.mp found).1).trans found

/-! ## All insertions -/

/-- A catalogue holds what was inserted into it, in this order, and nothing else. -/
structure Records (catalogue : Catalogue Entry) (inserted : List Entry) : Prop where
  /-- The index holds the name of every stored entry with the slot of that entry, and
  nothing else. -/
  index : ∀ (name : Text) (slot : Nat), (name, slot) ∈ catalogue.index ↔
    ∃ entry, catalogue.slots[slot]? = some entry ∧ entry.name = name
  /-- Looking up a name finds what the index holds. -/
  lookup : ∀ name slot, catalogue.slot? name = some slot ↔ (name, slot) ∈ catalogue.index
  distinct : catalogue.names.Nodup
  /-- The names stand in the order of their first insertions. -/
  order : catalogue.names = (inserted.map Entry.name).eraseDups
  /-- A name gives the entry that was inserted last under it. -/
  last : ∀ name, catalogue.get? name = lastNamed name inserted
  known : ∀ name, catalogue.contains name ↔ ∃ entry ∈ inserted, entry.name = name

theorem records_ofList (entries : List Entry) : (ofList entries).Records entries where
  index _ _ := mem_index_iff (isIndexed_ofList entries)
  lookup _ _ := slot?_eq_some_iff (isIndexed_ofList entries) (nodup_names_ofList entries)
  distinct := nodup_names_ofList entries
  order := names_ofList entries
  last := get?_ofList entries
  known := contains_ofList_iff entries

/-- A catalogue that is built of some entries and extended by others records all of them
in order.  One more insertion hands out the entry that was found under the name before,
puts the new one into its slot or behind the others, and touches no other slot.  The slots
alone give the catalogue back, and two catalogues are equal exactly if their slots are; if
all that was inserted was itself built by insertions, indices make no difference at any
depth. -/
theorem records_insertions (items more : List Entry) :
    let catalogue := (ofList items).insertAll more
    catalogue.Records (items ++ more) ∧
    (∀ entry,
      (catalogue.exchange entry).1 = catalogue.get? entry.name ∧
      (∀ (slot : Nat) (old : Entry), catalogue.slots[slot]? = some old →
        (catalogue.exchange entry).2.slots[slot]? =
          some (if old.name = entry.name then entry else old)) ∧
      (catalogue.exchange entry).2.size =
        if catalogue.contains entry.name then catalogue.size else catalogue.size + 1) ∧
    ofList catalogue.slots = catalogue ∧
    ∀ otherItems otherMore,
      let other := (ofList otherItems).insertAll otherMore
      (catalogue = other ↔ catalogue.slots = other.slots) ∧
      ((∀ item ∈ (items ++ more) ++ (otherItems ++ otherMore), item.IsBuilt) →
        (catalogue = other ↔ Entry.agreeSlots catalogue.slots other.slots = true)) := by
  intro catalogue
  have whole (items more : List Entry) :
      (ofList items).insertAll more = ofList (items ++ more) :=
    (insertAll_append empty items more).symm
  have built : catalogue = ofList (items ++ more) := whole items more
  rw [built]
  have indexed := isIndexed_ofList (items ++ more)
  have distinct := nodup_names_ofList (items ++ more)
  refine ⟨records_ofList _, ?_, ofList_slots indexed distinct, ?_⟩
  · intro entry
    refine ⟨fst_exchange _ entry, ?_, size_insert indexed entry⟩
    intro slot old found
    exact getElem?_slots_insert indexed distinct entry found
  · intro otherItems otherMore other
    have otherBuilt : other = ofList (otherItems ++ otherMore) := whole otherItems otherMore
    rw [otherBuilt]
    have determined := ext_of_slots_eq indexed (isIndexed_ofList (otherItems ++ otherMore))
    refine ⟨⟨congrArg slots, determined⟩, ?_⟩
    intro each
    rw [List.forall_mem_append] at each
    constructor
    · intro same
      rw [same]
      exact Entry.agreeSlots_self _
    · intro alike
      apply determined
      apply Entry.eq_of_agreeSlots _ alike
      intro entry inside other otherInside
      exact (each.1 entry (mem_of_mem_slots_ofList inside)).eq_of_agree
        (each.2 other (mem_of_mem_slots_ofList otherInside))

/-- A parameter is inserted, a second one, and the first one again with a sub-parameter:
the result is the same as if the first insertion had not been. -/
theorem records_insertions_replaced :
    let child : Entry := .named "c".toList
    let first : Entry := .named "a".toList
    let second : Entry := .named "b".toList
    let again : Entry := ⟨"a".toList, none, .complex, [], ofList [child]⟩
    (∀ item ∈ [first, second, again] ++ [again, second], item.IsBuilt) ∧
      (ofList [first, second]).insertAll [again] = (ofList [again]).insertAll [second] := by
  intro child first second again
  have bare (name : Text) : (Entry.named name).IsBuilt := by
    change (Entry.mk name none .unset [] (ofList [])).IsBuilt
    exact .inserting name none .unset [] nofun
  have nested : again.IsBuilt := by
    apply Entry.IsBuilt.inserting
    intro item inside
    rw [List.mem_singleton.mp inside]
    exact bare _
  have each : ∀ item ∈ [first, second, again] ++ [again, second], item.IsBuilt := by
    simp only [List.cons_append, List.nil_append, List.forall_mem_cons]
    exact ⟨bare _, bare _, nested, nested, bare _, nofun⟩
  have alike := (records_insertions [first, second] [again]).2.2.2 [again] [second]
  exact ⟨each, (alike.2 each).mpr rfl⟩

end Catalogue

end BootManual
