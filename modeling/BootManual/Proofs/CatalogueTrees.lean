import BootManual.CatalogueTree
import BootManual.Proofs.Insertions
import BootManual.Proofs.Readings

/-!
# What a tree tells about a catalogue

The tree of a catalogue that came about by insertions has one pair for each entry, in
order, so nothing is lost where a key might have been there before.  The mapping of an
entry leaves out what there is nothing to say about, but each field stands under a key
of its own, and can be looked up.  So two catalogues have one tree exactly if they
agree, at every depth, in all that the fields say.
-/

namespace BootManual

/-- No mapping in the tree has a key twice. -/
inductive Yaml.Node.IsKeyed : Yaml.Node → Prop where
  | scalar (text : Text) : IsKeyed (.scalar text)
  | sequence (items : List Text) : IsKeyed (.sequence items)
  | mapping {pairs : List (Text × Yaml.Node)} (distinct : (pairs.map Prod.fst).Nodup)
      (each : ∀ pair ∈ pairs, IsKeyed pair.2) : IsKeyed (.mapping pairs)

/-- A value under a new key goes behind all pairs. -/
theorem Yaml.Node.insertPair_of_not_mem {key : Text} {pairs : List (Text × Yaml.Node)}
    (new : key ∉ pairs.map Prod.fst) (value : Yaml.Node) :
    insertPair key value pairs = pairs ++ [(key, value)] := by
  induction pairs with
  | nil => rfl
  | cons known rest inductionHypothesis =>
      rw [List.map_cons, List.mem_cons, not_or] at new
      rw [insertPair, if_neg (Ne.symm new.1), inductionHypothesis new.2, List.cons_append]

namespace CatalogueTree

/-! ## Names as keys -/

/-- The pair of an entry in the mapping of its catalogue. -/
def pairOf (entry : Entry) : Text × Yaml.Node :=
  (entry.name, ofEntry entry)

/-- Under distinct names no tree takes the place of another one. -/
theorem insertEntries_eq_append {pairs : List (Text × Yaml.Node)} {entries : List Entry}
    (distinct : (pairs.map Prod.fst ++ entries.map Entry.name).Nodup) :
    insertEntries pairs entries = pairs ++ entries.map pairOf := by
  induction entries generalizing pairs with
  | nil => rw [insertEntries, List.map_nil, List.append_nil]
  | cons entry rest inductionHypothesis =>
      have new : entry.name ∉ pairs.map Prod.fst := by
        intro known
        rw [List.map_cons, List.nodup_append] at distinct
        exact distinct.2.2 entry.name known entry.name List.mem_cons_self rfl
      rw [insertEntries, Yaml.Node.insertPair_of_not_mem new, inductionHypothesis]
      · rw [List.map_cons, List.append_assoc]
        rfl
      · simpa using distinct

theorem ofCatalogue_eq {catalogue : Catalogue Entry} (distinct : catalogue.names.Nodup) :
    ofCatalogue catalogue = .mapping (catalogue.slots.map pairOf) := by
  rw [ofCatalogue, insertEntries_eq_append]
  · rfl
  · exact distinct

/-! ## Fields as keys -/

/-- The pairs of the fields that have a value. -/
def present (fields : List (Text × Option Yaml.Node)) : List (Text × Yaml.Node) :=
  fields.filterMap fun field => field.2.map fun value => (field.1, value)

@[simp]
theorem present_nil : present [] = [] :=
  rfl

@[simp]
theorem present_none (key : Text) (rest : List (Text × Option Yaml.Node)) :
    present ((key, none) :: rest) = present rest :=
  rfl

@[simp]
theorem present_some (key : Text) (value : Yaml.Node) (rest : List (Text × Option Yaml.Node)) :
    present ((key, some value) :: rest) = (key, value) :: present rest :=
  rfl

theorem mem_of_mem_present {fields : List (Text × Option Yaml.Node)} {key : Text}
    {value : Yaml.Node} (listed : (key, value) ∈ present fields) : (key, some value) ∈ fields := by
  obtain ⟨⟨key', value'⟩, inside, shown⟩ := List.mem_filterMap.mp listed
  obtain ⟨_, rfl, same⟩ := Option.map_eq_some_iff.mp shown
  cases same
  exact inside

theorem keys_present_sublist (fields : List (Text × Option Yaml.Node)) :
    ((present fields).map Prod.fst).Sublist (fields.map Prod.fst) := by
  induction fields with
  | nil => exact .slnil
  | cons field rest inductionHypothesis =>
      obtain ⟨key, _ | value⟩ := field
      · exact inductionHypothesis.cons key
      · exact inductionHypothesis.cons_cons key

/-- Under distinct keys the pairs tell which fields have a value, and which one. -/
theorem eq_of_present_eq {fields others : List (Text × Option Yaml.Node)}
    (keys : fields.map Prod.fst = others.map Prod.fst) (distinct : (fields.map Prod.fst).Nodup)
    (same : present fields = present others) : fields = others := by
  induction fields generalizing others with
  | nil => exact (List.map_eq_nil_iff.mp keys.symm).symm
  | cons field rest inductionHypothesis =>
      obtain ⟨key, value⟩ := field
      obtain ⟨⟨key', value'⟩, others, rfl⟩ : ∃ other rest, others = other :: rest :=
        List.exists_cons_of_ne_nil fun empty => by simp [empty] at keys
      rw [List.map_cons, List.map_cons, List.cons.injEq] at keys
      obtain ⟨sameKey, keys⟩ := keys
      obtain rfl : key = key' := sameKey
      rw [List.map_cons, List.nodup_cons] at distinct
      -- A pair under the first key can only come from the first field.
      have elsewhere {value : Yaml.Node} {fields : List (Text × Option Yaml.Node)}
          (same : fields.map Prod.fst = rest.map Prod.fst) : (key, value) ∉ present fields := by
        intro listed
        have inside := List.mem_map_of_mem (f := Prod.fst) (mem_of_mem_present listed)
        exact distinct.1 (same ▸ inside)
      cases value with
      | none =>
          cases value' with
          | none => rw [inductionHypothesis keys distinct.2 same]
          | some value' =>
              rw [present_none, present_some] at same
              exact absurd (same ▸ List.mem_cons_self) (elsewhere rfl)
      | some value =>
          cases value' with
          | none =>
              rw [present_none, present_some] at same
              exact absurd (same ▸ List.mem_cons_self) (elsewhere keys.symm)
          | some value' =>
              rw [present_some, present_some, List.cons.injEq] at same
              rw [(Prod.mk.inj same.1).2, inductionHypothesis keys distinct.2 same.2]

/-- The fields of an entry, each with its value if the mapping of the entry has it. -/
def fieldsOf (entry : Entry) : List (Text × Option Yaml.Node) :=
  [("format".toList, some (.scalar entry.format.marker)),
    ("flags".toList, entry.flags.map .sequence),
    ("values".toList,
      if entry.format.values.isEmpty then none else some (.sequence entry.format.values)),
    ("description".toList, some (.scalar entry.description)),
    ("children".toList,
      if entry.children.slots.isEmpty then none else some (ofCatalogue entry.children))]

theorem ofEntry_eq (entry : Entry) : ofEntry entry = .mapping (present (fieldsOf entry)) := by
  obtain ⟨name, flags, format, description, ⟨slots, index⟩⟩ := entry
  rw [ofEntry, fields, fieldsOf]
  by_cases listed : format.values.isEmpty <;> by_cases nested : slots.isEmpty <;>
    cases flags <;> simp [ofCatalogue, listed, nested]

theorem nodup_keys_fieldsOf (entry : Entry) : ((fieldsOf entry).map Prod.fst).Nodup :=
  show ["format".toList, "flags".toList, "values".toList, "description".toList,
    "children".toList].Nodup by decide

/-! ## Entries that look alike -/

mutual

/-- Two entries agree in all that the mapping of an entry tells: in flags, in the word
for the format and its values, in the description and, at every depth, in the names and
the fields of sub-parameters. -/
def Alike : Entry → Entry → Prop
  | ⟨_, flags, format, description, ⟨slots, _⟩⟩,
    ⟨_, flags', format', description', ⟨slots', _⟩⟩ =>
    flags = flags' ∧ format.marker = format'.marker ∧ format.values = format'.values ∧
      description = description' ∧ AlikeSlots slots slots'

/-- Two lists hold entries of the same names in the same order, which look alike. -/
def AlikeSlots : List Entry → List Entry → Prop
  | [], [] => True
  | entry :: rest, entry' :: rest' =>
    entry.name = entry'.name ∧ Alike entry entry' ∧ AlikeSlots rest rest'
  | _, _ => False

end

theorem map_pairOf_eq_iff {entries others : List Entry}
    (each : ∀ entry ∈ entries, ∀ other ∈ others,
      ofEntry entry = ofEntry other ↔ Alike entry other) :
    entries.map pairOf = others.map pairOf ↔ AlikeSlots entries others := by
  induction entries generalizing others with
  | nil => cases others <;> simp [AlikeSlots]
  | cons entry rest inductionHypothesis =>
      cases others with
      | nil => simp [AlikeSlots]
      | cons other others =>
          have later := inductionHypothesis fun entry inside other otherInside =>
            each entry (List.mem_cons_of_mem _ inside) other (List.mem_cons_of_mem _ otherInside)
          have first := each entry List.mem_cons_self other List.mem_cons_self
          rw [List.map_cons, List.map_cons, List.cons.injEq, later, pairOf, pairOf, Prod.mk.injEq,
            first, AlikeSlots, and_assoc]

/-- Values that are shown can be told from none. -/
theorem shown_values_eq_iff {values others : List Text} :
    (if values.isEmpty then none else some (Yaml.Node.sequence values)) =
        (if others.isEmpty then none else some (Yaml.Node.sequence others)) ↔
      values = others := by
  cases values <;> cases others <;> simp

section Children

variable {entry other : Entry} (distinct : entry.children.names.Nodup)
  (otherDistinct : other.children.names.Nodup)

include distinct otherDistinct

/-- Sub-parameters that are shown can be told from none. -/
theorem shown_children_eq_iff :
    (if entry.children.slots.isEmpty then none else some (ofCatalogue entry.children)) =
        (if other.children.slots.isEmpty then none else some (ofCatalogue other.children)) ↔
      entry.children.slots.map pairOf = other.children.slots.map pairOf := by
  rw [ofCatalogue_eq distinct, ofCatalogue_eq otherDistinct]
  cases entry.children.slots <;> cases other.children.slots <;> simp

/-- The mapping of an entry tells its fields apart. -/
theorem ofEntry_eq_iff :
    ofEntry entry = ofEntry other ↔
      entry.flags = other.flags ∧ entry.format.marker = other.format.marker ∧
        entry.format.values = other.format.values ∧ entry.description = other.description ∧
          entry.children.slots.map pairOf = other.children.slots.map pairOf := by
  have fields : present (fieldsOf entry) = present (fieldsOf other) ↔
      fieldsOf entry = fieldsOf other :=
    ⟨eq_of_present_eq rfl (nodup_keys_fieldsOf entry), congrArg present⟩
  have flags : entry.flags.map Yaml.Node.sequence = other.flags.map Yaml.Node.sequence ↔
      entry.flags = other.flags :=
    (Option.map_injective fun _ _ => Yaml.Node.sequence.inj).eq_iff
  rw [ofEntry_eq, ofEntry_eq, Yaml.Node.mapping.injEq, fields, fieldsOf, fieldsOf]
  simp only [List.cons.injEq, Prod.mk.injEq, Option.some.injEq, Yaml.Node.scalar.injEq, true_and,
    and_true, flags, shown_values_eq_iff, shown_children_eq_iff distinct otherDistinct]
  exact and_left_comm

end Children

/-- Where every catalogue came about by insertions, the mapping of an entry tells all in
which entries can look alike, and nothing else. -/
theorem ofEntry_eq_iff_alike {entry other : Entry} (built : entry.IsBuilt)
    (otherBuilt : other.IsBuilt) : ofEntry entry = ofEntry other ↔ Alike entry other := by
  induction built generalizing other with
  | @inserting name flags format description items each inductionHypothesis =>
      obtain ⟨name', flags', format', description', otherEach⟩ := otherBuilt
      rename_i others
      have nested : (Catalogue.ofList items).slots.map pairOf =
          (Catalogue.ofList others).slots.map pairOf ↔
            AlikeSlots (Catalogue.ofList items).slots (Catalogue.ofList others).slots := by
        apply map_pairOf_eq_iff
        intro item inside other otherInside
        exact inductionHypothesis item (Catalogue.mem_of_mem_slots_ofList inside)
          (otherEach other (Catalogue.mem_of_mem_slots_ofList otherInside))
      rw [ofEntry_eq_iff (Catalogue.nodup_names_ofList items) (Catalogue.nodup_names_ofList others),
        nested]
      rfl

/-! ## Every depth -/

/-- What stands below an entry that was built by insertions was built so too. -/
theorem isBuilt_of_mem_walk {entry : Entry} (built : entry.IsBuilt) {below : Entry}
    (listed : below ∈ entry.walk) : below.IsBuilt := by
  induction built with
  | @inserting name flags format description items each inductionHypothesis =>
      rw [Entry.walk_eq_cons, List.mem_cons] at listed
      rcases listed with rfl | listed
      · exact .inserting name flags format description each
      · obtain ⟨item, inside, listed⟩ := Entry.mem_walkAll_iff.mp listed
        exact inductionHypothesis item (Catalogue.mem_of_mem_slots_ofList inside) listed

theorem nodup_names_children {entry : Entry} (built : entry.IsBuilt) :
    entry.children.names.Nodup := by
  cases built
  exact Catalogue.nodup_names_ofList _

theorem isKeyed_ofCatalogue {catalogue : Catalogue Entry} (distinct : catalogue.names.Nodup)
    (each : ∀ entry ∈ catalogue.slots, (ofEntry entry).IsKeyed) :
    (ofCatalogue catalogue).IsKeyed := by
  rw [ofCatalogue_eq distinct]
  apply Yaml.Node.IsKeyed.mapping
  · rw [List.map_map]
    exact distinct
  · intro pair listed
    obtain ⟨entry, inside, rfl⟩ := List.mem_map.mp listed
    exact each entry inside

/-- Where every catalogue came about by insertions, no mapping has a key twice. -/
theorem isKeyed_ofEntry {entry : Entry} (built : entry.IsBuilt) : (ofEntry entry).IsKeyed := by
  induction built with
  | @inserting name flags format description items each inductionHypothesis =>
      rw [ofEntry_eq]
      apply Yaml.Node.IsKeyed.mapping ((keys_present_sublist _).nodup (nodup_keys_fieldsOf _))
      rintro ⟨key, value⟩ shown
      have field := mem_of_mem_present shown
      simp only [fieldsOf, List.mem_cons, Prod.mk.injEq, List.not_mem_nil, or_false] at field
      rcases field with ⟨_, marker⟩ | ⟨_, listed⟩ | ⟨_, values⟩ | ⟨_, description⟩ | ⟨_, children⟩
      · exact Option.some.inj marker ▸ .scalar _
      · obtain ⟨_, _, rfl⟩ := Option.map_eq_some_iff.mp listed.symm
        exact .sequence _
      · split at values
        · contradiction
        · exact Option.some.inj values ▸ .sequence _
      · exact Option.some.inj description ▸ .scalar _
      · split at children
        · contradiction
        · rw [Option.some.inj children]
          exact isKeyed_ofCatalogue (Catalogue.nodup_names_ofList items) fun item inside =>
            inductionHypothesis item (Catalogue.mem_of_mem_slots_ofList inside)

/-- Of catalogues that came about by insertions, as have all catalogues in them, two have
one tree exactly if they hold entries of the same names in the same order, which agree in
flags, in the word for the format, in values and description and, at every depth, in
their sub-parameters.  Each catalogue, at any depth, is the mapping with one pair for
each of its entries, and no mapping has a key twice. -/
theorem ofCatalogue_faithful (items others : List Entry)
    (built : ∀ item ∈ items ++ others, item.IsBuilt) :
    let catalogue := Catalogue.ofList items
    let other := Catalogue.ofList others
    (ofCatalogue catalogue = ofCatalogue other ↔ AlikeSlots catalogue.slots other.slots) ∧
    ofCatalogue catalogue = .mapping (catalogue.slots.map pairOf) ∧
    (∀ entry ∈ Entry.walkAll catalogue.slots,
      ofEntry entry = .mapping (present (fieldsOf entry)) ∧
      ofCatalogue entry.children = .mapping (entry.children.slots.map pairOf)) ∧
    (ofCatalogue catalogue).IsKeyed := by
  intro catalogue other
  have distinct : catalogue.names.Nodup := Catalogue.nodup_names_ofList items
  have otherDistinct : other.names.Nodup := Catalogue.nodup_names_ofList others
  rw [List.forall_mem_append] at built
  have slots : ∀ entry ∈ catalogue.slots, entry.IsBuilt := fun entry inside =>
    built.1 entry (Catalogue.mem_of_mem_slots_ofList inside)
  have otherSlots : ∀ entry ∈ other.slots, entry.IsBuilt := fun entry inside =>
    built.2 entry (Catalogue.mem_of_mem_slots_ofList inside)
  refine ⟨?_, ofCatalogue_eq distinct, ?_, ?_⟩
  · rw [ofCatalogue_eq distinct, ofCatalogue_eq otherDistinct, Yaml.Node.mapping.injEq]
    apply map_pairOf_eq_iff
    intro entry inside entry' inside'
    exact ofEntry_eq_iff_alike (slots entry inside) (otherSlots entry' inside')
  · intro entry listed
    obtain ⟨top, inside, below⟩ := Entry.mem_walkAll_iff.mp listed
    have entryBuilt := isBuilt_of_mem_walk (slots top inside) below
    exact ⟨ofEntry_eq entry, ofCatalogue_eq (nodup_names_children entryBuilt)⟩
  · exact isKeyed_ofCatalogue distinct fun entry inside => isKeyed_ofEntry (slots entry inside)

/-- Three levels.  A literal that spells the word for a flag gives the tree of a flag;
an empty list of flags, deep down, does not give the tree of no flags. -/
theorem ofCatalogue_faithful_nested :
    let deep (flags : Option (List Text)) (format : Format) : Entry :=
      ⟨"a".toList, flags, format, [], Catalogue.ofList []⟩
    let middle (entry : Entry) : Entry :=
      ⟨"a".toList, none, .choice ["x".toList], [], Catalogue.ofList [entry]⟩
    let top (entry : Entry) : Entry :=
      ⟨"a".toList, none, .complex, [], Catalogue.ofList [middle entry]⟩
    let spelled := top (deep none (.literal "flag".toList))
    let plain := top (deep none .flag)
    let flagged := top (deep (some []) .flag)
    (∀ item ∈ [plain] ++ [spelled], item.IsBuilt) ∧
      (∀ item ∈ [plain] ++ [flagged], item.IsBuilt) ∧
      ofCatalogue (Catalogue.ofList [plain]) = ofCatalogue (Catalogue.ofList [spelled]) ∧
      ofCatalogue (Catalogue.ofList [plain]) ≠ ofCatalogue (Catalogue.ofList [flagged]) := by
  intro deep middle top spelled plain flagged
  have single {entry : Entry} (built : entry.IsBuilt) : ∀ item ∈ [entry], item.IsBuilt := by
    intro item inside
    rwa [List.mem_singleton.mp inside]
  have bare : ∀ item ∈ ([] : List Entry), item.IsBuilt := nofun
  have built (flags : Option (List Text)) (format : Format) : (top (deep flags format)).IsBuilt :=
    .inserting _ _ _ _ (single (.inserting _ _ _ _ (single (.inserting _ _ _ _ bare))))
  have pair (first second : Entry) (firstBuilt : first.IsBuilt) (secondBuilt : second.IsBuilt) :
      ∀ item ∈ [first] ++ [second], item.IsBuilt :=
    List.forall_mem_append.mpr ⟨single firstBuilt, single secondBuilt⟩
  have same := pair plain spelled (built _ _) (built _ _)
  have different := pair plain flagged (built _ _) (built _ _)
  refine ⟨same, different, ?_, ?_⟩
  · apply (ofCatalogue_faithful [plain] [spelled] same).1.mpr
    exact ⟨rfl, ⟨rfl, rfl, rfl, rfl, rfl, ⟨rfl, rfl, rfl, rfl, rfl, ⟨rfl, rfl, rfl, rfl, trivial⟩,
      trivial⟩, trivial⟩, trivial⟩
  · apply mt (ofCatalogue_faithful [plain] [flagged] different).1.mp
    rintro ⟨_, ⟨_, _, _, _, _, ⟨_, _, _, _, _, ⟨flags, _⟩, _⟩, _⟩, _⟩
    exact absurd flags (by decide)

end CatalogueTree

end BootManual
