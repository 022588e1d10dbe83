import BootManual.Proofs.Chapters

/-!
# Manuals can be cut in front of a parameter

What a manual says about a parameter does not reach past the header of the next one,
whatever is still open in front of it.  So a manual can be cut there, and what its
two halves come to can be put together: by inserting the entries of the second half
into the catalogue of the first, or, if duplicates are rejected, by writing them
behind it.
-/

namespace BootManual

namespace Catalogue

/-! ## Replaced entries and added ones -/

/-- The entry that bears the name of this one among others, or else this one. -/
def renew (entries : List Entry) (entry : Entry) : Entry :=
  (entries.find? fun other => other.name = entry.name).getD entry

theorem renew_of_not_mem {entries : List Entry} {entry : Entry}
    (unlike : entry.name ∉ entries.map Entry.name) : renew entries entry = entry := by
  have missing : (entries.find? fun other => other.name = entry.name) = none := by
    rw [List.find?_eq_none]
    intro other listed same
    exact unlike (of_decide_eq_true same ▸ List.mem_map_of_mem listed)
  rw [renew, missing, Option.getD_none]

theorem renew_cons (first : Entry) (rest : List Entry) (entry : Entry) :
    renew (first :: rest) entry =
      if first.name = entry.name then first else renew rest entry := by
  by_cases same : first.name = entry.name <;> simp [renew, same]

/-- Placing an entry under a known name renews the entry of that name. -/
theorem place_of_mem {entry : Entry} {entries : List Entry}
    (known : entry.name ∈ entries.map Entry.name)
    (distinct : (entries.map Entry.name).Nodup) :
    place entry entries = entries.map (renew [entry]) := by
  induction entries with
  | nil => simp at known
  | cons first rest inductionHypothesis =>
      rw [List.map_cons, List.nodup_cons] at distinct
      rw [place, List.map_cons, renew_cons]
      by_cases same : first.name = entry.name
      · have kept : rest.map (renew [entry]) = rest := by
          apply map_eq_self
          intro other listed
          apply renew_of_not_mem
          simp only [List.map_cons, List.map_nil, List.mem_singleton]
          intro equal
          exact distinct.1 (same ▸ equal ▸ List.mem_map_of_mem listed)
        rw [if_pos same, if_pos same.symm, kept]
      · rw [List.map_cons, List.mem_cons] at known
        have later := known.resolve_left (Ne.symm same)
        rw [if_neg same, if_neg (Ne.symm same), inductionHypothesis later distinct.2]
        rfl

/-- Placing entries one by one renews those whose names are known and adds the others
in order. -/
theorem placeAll_eq_map_append_filter {base entries : List Entry}
    (baseDistinct : (base.map Entry.name).Nodup) (distinct : (entries.map Entry.name).Nodup) :
    placeAll base entries =
      base.map (renew entries) ++
        entries.filter fun entry => entry.name ∉ base.map Entry.name := by
  induction entries generalizing base with
  | nil =>
      have same : base.map (renew []) = base := List.map_id base
      simp [placeAll, same]
  | cons entry rest inductionHypothesis =>
      rw [List.map_cons, List.nodup_cons] at distinct
      rw [placeAll_cons, inductionHypothesis (nodup_names_place baseDistinct) distinct.2,
        map_name_place]
      by_cases known : entry.name ∈ base.map Entry.name
      · have renewed : (place entry base).map (renew rest) = base.map (renew (entry :: rest)) := by
          rw [place_of_mem known baseDistinct, List.map_map]
          apply List.map_congr_left
          intro other _
          rw [Function.comp_apply, renew_cons, renew_cons]
          by_cases same : entry.name = other.name
          · rw [if_pos same, if_pos same, renew_of_not_mem distinct.1]
          · rw [if_neg same, if_neg same]
            rfl
        rw [if_pos known, renewed, List.filter_cons_of_neg (by simpa using known)]
      · have kept : base.map (renew rest) = base.map (renew (entry :: rest)) := by
          apply List.map_congr_left
          intro other listed
          have different : entry.name ≠ other.name := fun same =>
            known (same ▸ List.mem_map_of_mem listed)
          rw [renew_cons, if_neg different]
        have others : (rest.filter fun other =>
              other.name ∉ base.map Entry.name ++ [entry.name]) =
            rest.filter fun other => other.name ∉ base.map Entry.name := by
          apply List.filter_congr
          intro other listed
          have different : other.name ≠ entry.name := fun same =>
            distinct.1 (same ▸ List.mem_map_of_mem listed)
          simp [different]
        rw [if_neg known, others, place_of_not_mem known, List.map_append, kept,
          List.filter_cons_of_pos (by simpa using known)]
        simp [renew_of_not_mem distinct.1]

/-- Looking up a name finds the entry that bears it. -/
theorem get?_eq_find? {catalogue : Catalogue Entry} (indexed : catalogue.IsIndexed)
    (name : Text) : catalogue.get? name = catalogue.slots.find? fun entry => entry.name = name := by
  rw [get?, slot?_eq indexed, names]
  induction catalogue.slots with
  | nil => rfl
  | cons first rest inductionHypothesis =>
      rw [List.map_cons, List.idxOf?_cons]
      by_cases same : first.name = name
      · simp [same]
      · rw [if_neg (by simpa using same), List.find?_cons_of_neg (by simpa using same),
          ← inductionHypothesis]
        cases (rest.map Entry.name).idxOf? name <;> rfl

/-- Inserting the entries of a catalogue into another one renews entries in their
slots and adds the others in order. -/
theorem slots_insertAll_slots {catalogue other : Catalogue Entry} (indexed : catalogue.IsIndexed)
    (otherIndexed : other.IsIndexed) (distinct : catalogue.names.Nodup)
    (otherDistinct : other.names.Nodup) :
    (catalogue.insertAll other.slots).slots =
      catalogue.slots.map (fun entry => (other.get? entry.name).getD entry) ++
        other.slots.filter fun entry => !catalogue.contains entry.name := by
  have renewed : (fun entry => (other.get? entry.name).getD entry) = renew other.slots := by
    funext entry
    rw [get?_eq_find? otherIndexed, renew]
  have added : (fun entry : Entry => !catalogue.contains entry.name) =
      fun entry => decide (entry.name ∉ catalogue.slots.map Entry.name) := by
    funext entry
    have known := contains_iff indexed entry.name
    rw [Bool.eq_iff_iff]
    simpa [names] using not_congr known
  rw [slots_insertAll indexed, placeAll_eq_map_append_filter distinct otherDistinct, renewed, added]

end Catalogue

/-! ## Cutting a manual -/

namespace Outline

variable {header : Text} (opens : (Line.classify header).isTopHeader)

include opens

theorem parts_append (front rest : List Text) :
    parts (front ++ header :: rest) = parts front ++ parts (header :: rest) :=
  congrArg Prod.snd (cutBefore_append_cons front opens rest)

theorem entriesOf_append (front rest : List Text) :
    entriesOf (front ++ header :: rest) = entriesOf front ++ entriesOf (header :: rest) := by
  rw [entriesOf, parts_append opens, List.map_append, entriesOf, entriesOf]

/-- No name occurs twice at one level exactly if none does in either half and the
halves share no name of a parameter. -/
theorem isDistinct_append_iff (front rest : List Text) :
    IsDistinct (front ++ header :: rest) ↔
      IsDistinct front ∧ IsDistinct (header :: rest) ∧
        ∀ name ∈ (entriesOf front).map Entry.name,
          name ∉ (entriesOf (header :: rest)).map Entry.name := by
  constructor
  · rintro ⟨parameters, subparameters⟩
    rw [entriesOf_append opens, List.map_append, List.nodup_append] at parameters
    rw [parts_append opens, List.forall_mem_append] at subparameters
    have apart : ∀ name ∈ (entriesOf front).map Entry.name,
        name ∉ (entriesOf (header :: rest)).map Entry.name := by
      intro name inFront inRest
      exact parameters.2.2 name inFront name inRest rfl
    exact ⟨⟨parameters.1, subparameters.1⟩, ⟨parameters.2.1, subparameters.2⟩, apart⟩
  · rintro ⟨⟨parameters, subparameters⟩, ⟨restParameters, restSubparameters⟩, apart⟩
    constructor
    · rw [entriesOf_append opens, List.map_append, List.nodup_append]
      refine ⟨parameters, restParameters, ?_⟩
      rintro name inFront other inRest rfl
      exact apart name inFront inRest
    · rw [parts_append opens, List.forall_mem_append]
      exact ⟨subparameters, restSubparameters⟩

/-- Collecting the entries of both halves is the same as collecting those of each half
and then inserting the second catalogue into the first. -/
theorem ofList_entriesOf_append (front rest : List Text) :
    Catalogue.ofList (entriesOf (front ++ header :: rest)) =
      (Catalogue.ofList (entriesOf front)).insertAll
        (Catalogue.ofList (entriesOf (header :: rest))).slots := by
  rw [Catalogue.insertAll_slots_ofList (Catalogue.isIndexed_ofList _), entriesOf_append opens,
    Catalogue.ofList, Catalogue.insertAll_append, ← Catalogue.ofList]

end Outline

namespace Manual

/-- A manual can be cut in front of any header of a parameter.  Where later entries
replace earlier ones, the entries of the second half are inserted into the catalogue
of the first: they renew entries in their slots, and those with new names follow.
Where duplicates are rejected, the manual can be read exactly if both halves can and
share no name, and the entries of the second half follow those of the first. -/
theorem result_ofLines_append (file : Option Text) (front rest : List Text) {header text : Text}
    (opens : Line.classify header = .topHeader text) :
    (∃ first second,
      (ofLines ⟨file, .replace⟩ front).result = .ok first ∧
      (ofLines ⟨file, .replace⟩ (header :: rest)).result = .ok second ∧
      (ofLines ⟨file, .replace⟩ (front ++ header :: rest)).result =
        .ok (first.insertAll second.slots) ∧
      (first.insertAll second.slots).slots =
        first.slots.map (fun entry => (second.get? entry.name).getD entry) ++
          second.slots.filter fun entry => !first.contains entry.name) ∧
    ∀ catalogue,
      (ofLines ⟨file, .reject⟩ (front ++ header :: rest)).result = .ok catalogue ↔
        ∃ first second,
          (ofLines ⟨file, .reject⟩ front).result = .ok first ∧
          (ofLines ⟨file, .reject⟩ (header :: rest)).result = .ok second ∧
          (∀ name ∈ first.names, name ∉ second.names) ∧
          catalogue.IsIndexed ∧ catalogue.slots = first.slots ++ second.slots := by
  have isHeader : (Line.classify header).isTopHeader := by rw [opens]; rfl
  constructor
  · refine ⟨_, _, result_ofLines_of_replace rfl front, result_ofLines_of_replace rfl _, ?_, ?_⟩
    · rw [← Outline.ofList_entriesOf_append isHeader]
      exact result_ofLines_of_replace rfl _
    · apply Catalogue.slots_insertAll_slots
      · exact Catalogue.isIndexed_ofList _
      · exact Catalogue.isIndexed_ofList _
      · exact Catalogue.nodup_names_ofList _
      · exact Catalogue.nodup_names_ofList _
  · intro catalogue
    have reject : (Context.mk file .reject).duplicates = .reject := rfl
    simp only [result_ofLines_eq_ok_iff_of_reject reject, Outline.isDistinct_append_iff isHeader,
      Outline.entriesOf_append isHeader]
    constructor
    · rintro ⟨⟨frontDistinct, restDistinct, apart⟩, indexed, slots⟩
      have frontSlots := Catalogue.slots_ofList_of_nodup frontDistinct.parameters
      have restSlots := Catalogue.slots_ofList_of_nodup restDistinct.parameters
      refine ⟨_, _, ⟨frontDistinct, Catalogue.isIndexed_ofList _, frontSlots⟩,
        ⟨restDistinct, Catalogue.isIndexed_ofList _, restSlots⟩, ?_, indexed, ?_⟩
      · rw [Catalogue.names, Catalogue.names, frontSlots, restSlots]
        exact apart
      · rw [slots, frontSlots, restSlots]
    · rintro ⟨first, second, ⟨frontDistinct, -, frontSlots⟩, ⟨restDistinct, -, restSlots⟩, apart,
        indexed, slots⟩
      rw [Catalogue.names, Catalogue.names, frontSlots, restSlots] at apart
      rw [frontSlots, restSlots] at slots
      exact ⟨⟨frontDistinct, restDistinct, apart⟩, indexed, slots⟩

/-- The first half ends inside a list of values and a sub-parameter, and the second
half names a parameter of the first again. -/
theorem result_ofLines_append_unfinished :
    let front := ["\ta".toList, "\t\t\t\x7b on | off".toList, "\tb=<int>".toList,
      "\t\tc".toList, [], []]
    let header := "\ta [X]".toList
    let rest := ["\t\t\tSwitch".toList, "\td".toList]
    Line.classify header = .topHeader "a [X]".toList ∧
    (∃ first second,
      (ofLines ⟨none, .replace⟩ front).result = .ok first ∧
      (ofLines ⟨none, .replace⟩ (header :: rest)).result = .ok second ∧
      (ofLines ⟨none, .replace⟩ (front ++ header :: rest)).result =
        .ok (first.insertAll second.slots) ∧
      (first.insertAll second.slots).slots =
        first.slots.map (fun entry => (second.get? entry.name).getD entry) ++
          second.slots.filter fun entry => !first.contains entry.name) ∧
    ∀ catalogue,
      (ofLines ⟨none, .reject⟩ (front ++ header :: rest)).result = .ok catalogue ↔
        ∃ first second,
          (ofLines ⟨none, .reject⟩ front).result = .ok first ∧
          (ofLines ⟨none, .reject⟩ (header :: rest)).result = .ok second ∧
          (∀ name ∈ first.names, name ∉ second.names) ∧
          catalogue.IsIndexed ∧ catalogue.slots = first.slots ++ second.slots := by
  intro front header rest
  have opens : Line.classify header = .topHeader "a [X]".toList := rfl
  exact ⟨opens, result_ofLines_append none front rest opens⟩

end Manual

end BootManual
