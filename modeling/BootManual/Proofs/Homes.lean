import BootManual.Proofs.Filing
import BootManual.Proofs.Readings
import Mathlib.Data.List.Nodup
import Mathlib.Data.Set.Card

/-!
# What a database holds

A database in an empty directory holds documents in the directories of the entries,
and nothing else.  Two entries have one directory exactly if they stand side by side
and their names differ in nothing but characters that cut paths.  So every entry keeps
a document of its own exactly if no two neighbours have such names; otherwise documents
are counted that others have replaced.
-/

namespace BootManual

namespace Database

/-! ## Homes -/

/-- A parameter and its sub-parameters, each with the place of its directory. -/
def homesOf (top : Entry) : List (Place × Entry) :=
  ([directoryName top.name], top) ::
    top.children.slots.map fun child =>
      ([directoryName top.name, directoryName child.name], child)

/-- The entries of a catalogue at both levels, each with the place of its directory. -/
def homes (entries : Catalogue Entry) : List (Place × Entry) :=
  entries.slots.flatMap homesOf

/-- No two entries side by side have one name for their directories. -/
structure IsSeparate (entries : Catalogue Entry) : Prop where
  parameters : (entries.slots.map fun top => directoryName top.name).Nodup
  subparameters : ∀ top ∈ entries.slots,
    (top.children.slots.map fun child => directoryName child.name).Nodup

instance (entries : Catalogue Entry) : Decidable (IsSeparate entries) :=
  decidable_of_iff
    ((entries.slots.map fun top => directoryName top.name).Nodup ∧
      ∀ top ∈ entries.slots,
        (top.children.slots.map fun child => directoryName child.name).Nodup)
    ⟨fun separate => ⟨separate.1, separate.2⟩,
      fun separate => ⟨separate.parameters, separate.subparameters⟩⟩

theorem nodup_homesOf_iff (top : Entry) :
    ((homesOf top).map Prod.fst).Nodup ↔
      (top.children.slots.map fun child => directoryName child.name).Nodup := by
  have places : (homesOf top).map Prod.fst =
      [directoryName top.name] ::
        (top.children.slots.map fun child => directoryName child.name).map
          fun name => [directoryName top.name, name] := by
    simp [homesOf]
  have injective : Function.Injective fun name : Text => [directoryName top.name, name] := by
    intro first second same
    exact (List.cons.inj (List.cons.inj same).2).1
  rw [places, List.nodup_cons, List.nodup_map_iff injective]
  exact and_iff_right (by simp)

theorem disjoint_homesOf_iff (first second : Entry) :
    List.Disjoint ((homesOf first).map Prod.fst) ((homesOf second).map Prod.fst) ↔
      directoryName first.name ≠ directoryName second.name := by
  constructor
  · intro disjoint same
    have inFirst : [directoryName first.name] ∈ (homesOf first).map Prod.fst := List.mem_cons_self
    have inSecond : [directoryName second.name] ∈ (homesOf second).map Prod.fst :=
      List.mem_cons_self
    exact disjoint inFirst (same ▸ inSecond)
  · intro different place inFirst inSecond
    have head : ∀ top : Entry, place ∈ (homesOf top).map Prod.fst →
        place.head? = some (directoryName top.name) := by
      intro top inside
      simp only [homesOf, List.map_cons, List.map_map, List.mem_cons, List.mem_map] at inside
      rcases inside with rfl | ⟨child, _, rfl⟩ <;> rfl
    exact different (Option.some.inj ((head first inFirst).symm.trans (head second inSecond)))

/-- Entries have directories of their own exactly if neighbours have. -/
theorem nodup_homes_iff (entries : Catalogue Entry) :
    ((homes entries).map Prod.fst).Nodup ↔ IsSeparate entries := by
  have apart : List.Pairwise (Function.onFun List.Disjoint fun top => (homesOf top).map Prod.fst)
        entries.slots ↔ (entries.slots.map fun top => directoryName top.name).Nodup := by
    rw [List.Nodup, List.pairwise_map]
    exact List.Pairwise.iff disjoint_homesOf_iff
  rw [homes, List.map_flatMap, List.nodup_flatMap, apart]
  simp only [nodup_homesOf_iff]
  constructor
  · rintro ⟨subparameters, parameters⟩
    exact ⟨parameters, subparameters⟩
  · rintro ⟨parameters, subparameters⟩
    exact ⟨subparameters, parameters⟩

/-- The document of an entry in the tree of a database at a place. -/
def documentAt (processor : Text) (place : Place) (home : Place × Entry) : Place × List UInt8 :=
  (place ++ (home.1 ++ [documentName]), contentOf processor home.2)

theorem documentsOfEntry_eq_cons (processor : Text) (place : Place) (entry : Entry) :
    documentsOfEntry processor place entry =
      documentAt processor place ([directoryName entry.name], entry) ::
        documentsOfEntries processor (place ++ [directoryName entry.name])
          entry.children.slots := by
  obtain ⟨name, flags, format, description, ⟨slots, index⟩⟩ := entry
  rw [documentsOfEntry, documentAt, List.append_assoc]

theorem documentsOfEntries_eq_flatMap (processor : Text) (place : Place) (entries : List Entry) :
    documentsOfEntries processor place entries =
      entries.flatMap (documentsOfEntry processor place) := by
  induction entries with
  | nil => rfl
  | cons entry rest inductionHypothesis =>
      rw [documentsOfEntries, inductionHypothesis, List.flatMap_cons]

/-- Where sub-parameters have no entries below them, the homes are those of all
documents. -/
theorem documentsOfEntries_eq_map_homes (processor : Text) (place : Place)
    {entries : Catalogue Entry}
    (childless : ∀ top ∈ entries.slots, ∀ child ∈ top.children.slots, child.children.slots = []) :
    documentsOfEntries processor place entries.slots =
      (homes entries).map (documentAt processor place) := by
  rw [documentsOfEntries_eq_flatMap, homes, List.map_flatMap]
  apply List.flatMap_congr
  intro top listed
  have below : ∀ child ∈ top.children.slots,
      documentsOfEntry processor (place ++ [directoryName top.name]) child =
        [documentAt processor place
          ([directoryName top.name, directoryName child.name], child)] := by
    intro child listedBelow
    rw [documentsOfEntry_eq_cons, childless top listed child listedBelow]
    simp [documentAt, documentsOfEntries]
  rw [documentsOfEntry_eq_cons, documentsOfEntries_eq_flatMap, List.flatMap_congr below, homesOf,
    List.map_cons, List.map_map, List.map_eq_flatMap]
  rfl

/-! ## Documents in a tree -/

/-- The places in a tree where files stand that are named as documents are. -/
def documentPlaces (tree : FileTree) : Set Place :=
  {place | place.getLast? = some documentName ∧ ∃ content, tree.at? place = some (.file content)}

/-- Every entry has a file of its own, which holds its document, and there are as many
documents in the tree as a number says. -/
structure HasOwnDocuments (tree : FileTree) (processor : Text) (entries : Catalogue Entry)
    (count : Nat) : Prop where
  count : (documentPlaces tree).encard = count
  written : ∀ home ∈ homes entries,
    tree.at? (home.1 ++ [documentName]) = some (.file (contentOf processor home.2))
  apart : ((homes entries).map fun home => home.1 ++ [documentName]).Nodup

theorem nodup_map_documents_iff (entries : Catalogue Entry) :
    ((homes entries).map fun home => home.1 ++ [documentName]).Nodup ↔ IsSeparate entries := by
  have injective : Function.Injective fun home : Place => home ++ [documentName] :=
    fun _ _ same => List.append_cancel_right same
  have mapped : (((homes entries).map Prod.fst).map fun home => home ++ [documentName]).Nodup ↔
      ((homes entries).map Prod.fst).Nodup := List.nodup_map_iff injective
  rw [List.map_map] at mapped
  exact mapped.trans (nodup_homes_iff entries)

theorem lookup_eq_some_of_nodup {pairs : List (Place × List UInt8)} {place : Place}
    {content : List UInt8} (distinct : (pairs.map Prod.fst).Nodup)
    (listed : (place, content) ∈ pairs) : pairs.lookup place = some content := by
  rw [List.lookup_eq_some_iff]
  obtain ⟨front, rest, rfl⟩ := List.append_of_mem listed
  refine ⟨front, rest, rfl, ?_⟩
  intro pair inFront
  rw [List.map_append, List.map_cons, List.nodup_append] at distinct
  have different := distinct.2.2 pair.1 (List.mem_map_of_mem inFront) place List.mem_cons_self
  exact bne_iff_ne.mpr different.symm

theorem exists_lookup_iff {pairs : List (Place × List UInt8)} {place : Place} :
    (∃ content, pairs.lookup place = some content) ↔ place ∈ pairs.map Prod.fst := by
  rw [← Option.isSome_iff_exists, List.lookup_isSome_iff]
  constructor
  · rintro ⟨pair, listed, same⟩
    exact List.mem_map.mpr ⟨pair, listed, (beq_iff_eq.mp same).symm⟩
  · intro listed
    obtain ⟨pair, listed, same⟩ := List.mem_map.mp listed
    exact ⟨pair, listed, beq_iff_eq.mpr same.symm⟩

section Tree

variable {tree : FileTree} {processor : Text} {entries : Catalogue Entry} {place : Place}
  (held : ∀ below content, tree.at? below = some (.file content) ↔
    ((homes entries).map (documentAt processor place)).reverse.lookup (place ++ below) =
      some content)

include held

/-- The documents in the tree stand in the directories of the entries. -/
theorem documentPlaces_eq :
    documentPlaces tree =
      ((homes entries).map fun home => home.1 ++ [documentName]).toFinset := by
  ext below
  simp only [documentPlaces, Set.mem_ofPred_eq, held, exists_lookup_iff, List.map_reverse,
    List.mem_reverse, List.map_map, List.coe_toFinset]
  constructor
  · rintro ⟨_, listed⟩
    obtain ⟨home, inHomes, same⟩ := List.mem_map.mp listed
    exact List.mem_map.mpr ⟨home, inHomes, List.append_cancel_left same⟩
  · intro listed
    obtain ⟨home, inHomes, rfl⟩ := List.mem_map.mp listed
    exact ⟨List.getLast?_concat, List.mem_map.mpr ⟨home, inHomes, rfl⟩⟩

/-- If no two neighbours share a directory, all that was written is there. -/
theorem hasOwnDocuments_of_isSeparate (separate : IsSeparate entries) :
    HasOwnDocuments tree processor entries (homes entries).length := by
  have apart := (nodup_map_documents_iff entries).mpr separate
  refine ⟨?_, ?_, apart⟩
  · rw [documentPlaces_eq held, Set.encard_coe_eq_coe_finsetCard,
      List.toFinset_card_of_nodup apart, List.length_map]
  · intro home listed
    rw [held]
    apply lookup_eq_some_of_nodup
    · rw [List.map_reverse, List.nodup_reverse, List.map_map]
      have mapped := (List.nodup_map_iff (List.append_right_injective place)).mpr apart
      rwa [List.map_map] at mapped
    · exact List.mem_reverse.mpr (List.mem_map_of_mem listed)

/-- If two entries share a directory, fewer documents are left than were written. -/
theorem encard_documentPlaces_lt (shared : ¬ IsSeparate entries) :
    (documentPlaces tree).encard < (homes entries).length := by
  have notApart := mt (nodup_map_documents_iff entries).mp shared
  rw [documentPlaces_eq held, Set.encard_coe_eq_coe_finsetCard, Nat.cast_lt,
    ← List.length_map (fun home : Place × Entry => home.1 ++ [documentName])]
  refine lt_of_le_of_ne (List.toFinset_card_le _) ?_
  intro same
  exact notApart (Multiset.toFinset_card_eq_card_iff_nodup.mp same)

end Tree

/-! ## Databases of manuals -/

/-- What is read from a manual and written into an empty directory without a failure
leaves a document of its own for every entry, as many as are counted, exactly if no two
parameters, and no two sub-parameters of one parameter, have names that give their
directories the same name.  Otherwise fewer documents are left than are counted. -/
theorem documents_of_write (context : Context) (text : Text) {entries : Catalogue Entry}
    (read : (Manual.ofText context text).result = .ok entries) (files : FileSystem)
    (processor directory : Text)
    (empty : files.find (files.route directory (Path.names directory)) = .ok (.directory []))
    (done : (write files processor directory entries).failure = none) :
    let written := write files processor directory entries
    ∃ tree, written.files.find (written.files.route directory (Path.names directory)) = .ok tree ∧
      (IsSeparate entries →
        HasOwnDocuments tree processor entries (documentCount written.finished)) ∧
      (¬ IsSeparate entries → (documentPlaces tree).encard < documentCount written.finished) := by
  intro written
  have holds := Manual.holds_of_ofText read
  have childless : ∀ top ∈ entries.slots, ∀ child ∈ top.children.slots,
      child.children.slots = [] := by
    intro top inSlots child inChildren
    rw [((holds.each top inSlots).children.each child inChildren).children]
    rfl
  obtain ⟨place, leads, stands⟩ := FileSystem.exists_leadsTo empty rfl
  have gains := gains_write (fun entry => Entry.startsName_of_mem_walkAll holds) leads done
  obtain ⟨tree, found, standsAfter⟩ := (leads.gains gains).exists_tree
  have count : documentCount written.finished = (homes entries).length := by
    rw [documentCount_finished_write place done, documentsOfEntries_eq_map_homes _ _ childless,
      List.length_map]
  have held : ∀ below content, tree.at? below = some (.file content) ↔
      ((homes entries).map (documentAt processor place)).reverse.lookup (place ++ below) =
        some content := by
    intro below content
    have nothing : files.content? (place ++ below) = none := by
      rw [Option.eq_none_iff_forall_ne_some]
      intro content known
      rw [FileSystem.content?_append_eq_some_iff stands] at known
      cases below with
      | nil => simp at known
      | cons name rest => contradiction
    rw [← FileSystem.content?_append_eq_some_iff standsAfter, gains.content, nothing, Option.or_none,
      documentsOfEntries_eq_map_homes _ _ childless]
  refine ⟨tree, found, ?_, ?_⟩
  · intro separate
    rw [count]
    exact hasOwnDocuments_of_isSeparate held separate
  · intro shared
    rw [count]
    exact encard_documentPlaces_lt held shared

/-- A name that cuts paths, a sub-parameter, and no neighbours that share a directory. -/
theorem documents_of_write_subparameter :
    let child : Entry := ⟨"a_b".toList, none, .unset, [], Catalogue.empty⟩
    let entries := Catalogue.ofList
      [⟨"a/b".toList, none, .complex, [], Catalogue.ofList [child]⟩,
        ⟨"c".toList, none, .flag, [], Catalogue.empty⟩]
    let files : FileSystem := ⟨.directory [("db".toList, .directory [])], [], none⟩
    let written := write files "kernel".toList "/db".toList entries
    (Manual.ofText ⟨none, .reject⟩ "\ta/b\n\t\ta_b\n\tc\n".toList).result = .ok entries ∧
      files.find ["db".toList] = .ok (.directory []) ∧ written.failure = none ∧
      ∃ tree, written.files.find ["db".toList] = .ok tree ∧
        HasOwnDocuments tree "kernel".toList entries 3 := by
  intro child entries files written
  have read : (Manual.ofText ⟨none, .reject⟩ "\ta/b\n\t\ta_b\n\tc\n".toList).result =
      .ok entries := rfl
  have empty : files.find ["db".toList] = .ok (.directory []) := rfl
  have done : written.failure = none := by decide +kernel +zetaReduce
  have count : documentCount written.finished = 3 := by decide +kernel +zetaReduce
  have separate : IsSeparate entries := by decide +zetaReduce
  obtain ⟨tree, found, own, _⟩ :=
    documents_of_write ⟨none, .reject⟩ _ read files "kernel".toList "/db".toList empty done
  replace own := own separate
  rw [count] at own
  exact ⟨read, empty, done, tree, found, own⟩

/-- Two parameters whose names differ in a slash: both documents are counted, and only
the second one is left. -/
theorem write_shared_directory :
    let first : Entry := ⟨"a/b".toList, none, .flag, [], Catalogue.empty⟩
    let second : Entry := ⟨"a_b".toList, none, .flag, [], Catalogue.empty⟩
    let entries := Catalogue.ofList [first, second]
    let files : FileSystem := ⟨.directory [("db".toList, .directory [])], [], none⟩
    let written := write files "kernel".toList "/db".toList entries
    (Manual.ofText ⟨none, .replace⟩ "\ta/b\n\ta_b\n".toList).result = .ok entries ∧
      files.find ["db".toList] = .ok (.directory []) ∧ written.failure = none ∧
      documentCount written.finished = 2 ∧
      ∃ tree, written.files.find ["db".toList] = .ok tree ∧
        tree.leaves = [(["a_b".toList, documentName],
          .file (contentOf "kernel".toList second))] ∧
        ¬ HasOwnDocuments tree "kernel".toList entries 2 := by
  intro first second entries files written
  have done : written.failure = none := by decide +kernel +zetaReduce
  have count : documentCount written.finished = 2 := by decide +kernel +zetaReduce
  have left : (written.files.find ["db".toList]).toOption.map FileTree.leaves =
      some [(["a_b".toList, documentName], .file (contentOf "kernel".toList second))] := by
    decide +kernel +zetaReduce
  have shared : ¬ ((homes entries).map fun home => home.1 ++ [documentName]).Nodup := by
    decide +zetaReduce
  refine ⟨rfl, rfl, done, count, ?_⟩
  cases found : written.files.find ["db".toList] with
  | error error =>
      rw [found] at left
      cases left
  | ok tree =>
      rw [found] at left
      exact ⟨tree, rfl, Option.some.inj left, fun own => shared own.apart⟩

end Database

end BootManual
