import BootManual.Proofs.Failures

/-!
# Which chapter is refused

Where duplicates are rejected, chapters are entered one by one until one is refused.  A
chapter is refused at its first sub-parameter that repeats the name of an earlier one in
it.  If there is none, it is refused if it repeats the name of an earlier chapter.
-/

namespace BootManual

/-- The first of some items that bears the name of an earlier one. -/
def IsFirstRepeat {Item : Type} (name : Item → Text) (items : List Item) (item : Item) : Prop :=
  ∃ before after, items = before ++ item :: after ∧ (before.map name).Nodup ∧
    name item ∈ before.map name

theorem isFirstRepeat_map {Item Source : Type} {name : Item → Text} {use : Source → Item}
    {sources : List Source} {item : Item} :
    IsFirstRepeat name (sources.map use) item ↔
      ∃ source, IsFirstRepeat (fun source => name (use source)) sources source ∧
        use source = item := by
  constructor
  · rintro ⟨before, after, split, distinct, known⟩
    obtain ⟨front, rest, rfl, rfl, same⟩ := List.map_eq_append_iff.mp split
    obtain ⟨source, back, rfl, rfl, rfl⟩ := List.map_eq_cons_iff.mp same
    rw [List.map_map] at distinct known
    exact ⟨source, ⟨front, back, rfl, distinct, known⟩, rfl⟩
  · rintro ⟨source, ⟨front, back, rfl, distinct, known⟩, rfl⟩
    refine ⟨front.map use, back.map use, by simp, ?_, ?_⟩
    · rwa [List.map_map]
    · rwa [List.map_map]

/-- A loop fails at the first step that does. -/
theorem foldlM_eq_error_iff {Error State Item : Type} {step : State → Item → Except Error State}
    {items : List Item} {state : State} {error : Error} :
    items.foldlM step state = .error error ↔
      ∃ earlier item later between, items = earlier ++ item :: later ∧
        earlier.foldlM step state = .ok between ∧ step between item = .error error := by
  constructor
  · intro failed
    induction items generalizing state with
    | nil => contradiction
    | cons first rest inductionHypothesis =>
        rw [List.foldlM_cons, except_bind_eq_error_iff] at failed
        rcases failed with here | ⟨next, stepped, later⟩
        · exact ⟨[], first, rest, state, rfl, rfl, here⟩
        · obtain ⟨earlier, item, behind, between, rfl, done, stops⟩ := inductionHypothesis later
          refine ⟨first :: earlier, item, behind, between, rfl, ?_, stops⟩
          rw [List.foldlM_cons, stepped]
          exact done
  · rintro ⟨earlier, item, later, between, rfl, done, stops⟩
    rw [List.foldlM_append, done]
    change List.foldlM step between (item :: later) = _
    rw [List.foldlM_cons, stops]
    rfl

/-! ## Entering chapters -/

namespace Commit

variable {context : Context} {error : ParseError}

/-- Entries are refused one by one at the first that is refused among those before it,
which are good and bear distinct names. -/
theorem foldlM_empty_eq_error_iff (reject : context.duplicates = .reject) {Item : Type}
    {step : Catalogue Entry → Item → Except ParseError (Catalogue Entry)}
    (good : Item → Prop) (use : Item → Entry)
    (accepts : ∀ {entries after : Catalogue Entry} {item : Item}, entries.IsIndexed →
      (step entries item = .ok after ↔
        good item ∧ (context.duplicates = .reject → (use item).name ∉ entries.names) ∧
          after = entries.insert (use item)))
    (items : List Item) :
    items.foldlM step Catalogue.empty = .error error ↔
      ∃ earlier item later, items = earlier ++ item :: later ∧ (∀ item ∈ earlier, good item) ∧
        (earlier.map fun item => (use item).name).Nodup ∧
        step (Catalogue.ofList (earlier.map use)) item = .error error := by
  have ok_iff (earlier : List Item) (between : Catalogue Entry) :
      earlier.foldlM step Catalogue.empty = .ok between ↔
        (∀ item ∈ earlier, good item) ∧
          (context.duplicates = .reject → (earlier.map fun item => (use item).name).Nodup) ∧
          between = Catalogue.ofList (earlier.map use) :=
    foldlM_eq_ok_iff context good use accepts earlier Catalogue.isIndexed_empty List.nodup_nil
  rw [foldlM_eq_error_iff]
  constructor
  · rintro ⟨earlier, item, later, between, split, done, stops⟩
    obtain ⟨allGood, distinct, rfl⟩ := (ok_iff earlier between).mp done
    exact ⟨earlier, item, later, split, allGood, distinct reject, stops⟩
  · rintro ⟨earlier, item, later, split, allGood, distinct, stops⟩
    exact ⟨earlier, item, later, _, split,
      (ok_iff earlier _).mpr ⟨allGood, fun _ => distinct, rfl⟩, stops⟩

/-- Among entries of distinct names, one is refused if it bears one of those names. -/
theorem accept_ofList_eq_error_iff (reject : context.duplicates = .reject) {label : Text}
    {line : Nat} {earlier : List Entry} (distinct : (earlier.map Entry.name).Nodup)
    {entry : Entry} :
    accept context label line (Catalogue.ofList earlier) entry = .error error ↔
      entry.name ∈ earlier.map Entry.name ∧
        error = .duplicateName label (context.place line) := by
  have names : (Catalogue.ofList earlier).names = earlier.map Entry.name := by
    rw [Catalogue.names, Catalogue.slots_ofList_of_nodup distinct]
  rw [accept_eq_error_iff, Catalogue.contains_iff (Catalogue.isIndexed_ofList earlier), names]
  simp [reject]

/-- Among sub-parameters of distinct names, one is refused if it bears one of those
names. -/
theorem acceptChild_ofList_eq_error_iff (reject : context.duplicates = .reject) {name : Text}
    {earlier : List OpenSubparameter} (distinct : (earlier.map fun sub => sub.entry.name).Nodup)
    {sub : OpenSubparameter} :
    acceptChild context name
        (Catalogue.ofList (earlier.map fun sub => dropLeadingBreaks sub.entry)) sub =
          .error error ↔
      sub.entry.name ∈ earlier.map (fun sub => sub.entry.name) ∧
        error = .duplicateName (qualify name sub.entry.name) (context.place sub.line) := by
  have names : (earlier.map fun sub => dropLeadingBreaks sub.entry).map Entry.name =
      earlier.map fun sub => sub.entry.name := List.map_map ..
  rw [acceptChild, accept_ofList_eq_error_iff reject (names ▸ distinct), names]
  rfl

end Commit

namespace Chapter

variable {context : Context} {error : ParseError}

/-- The sub-parameters of a chapter are refused at the first that repeats a name. -/
theorem foldlM_acceptChild_eq_error_iff (reject : context.duplicates = .reject) {name : Text}
    (chapter : Chapter) :
    chapter.subs.foldlM (Commit.acceptChild context name) Catalogue.empty = .error error ↔
      ∃ sub, IsFirstRepeat (fun sub => sub.entry.name) chapter.subs sub ∧
        error = .duplicateName (Commit.qualify name sub.entry.name) (context.place sub.line) := by
  rw [Commit.foldlM_empty_eq_error_iff reject (fun _ => True)
    (fun sub => Commit.dropLeadingBreaks sub.entry)]
  · constructor
    · rintro ⟨before, sub, after, split, -, distinct, refused⟩
      obtain ⟨known, rfl⟩ := (Commit.acceptChild_ofList_eq_error_iff reject distinct).mp refused
      exact ⟨sub, ⟨before, after, split, distinct, known⟩, rfl⟩
    · rintro ⟨sub, ⟨before, after, split, distinct, known⟩, rfl⟩
      exact ⟨before, sub, after, split, fun _ _ => trivial, distinct,
        (Commit.acceptChild_ofList_eq_error_iff reject distinct).mpr ⟨known, rfl⟩⟩
  · intro entries next sub indexed
    rw [Commit.acceptChild, Commit.accept_eq_ok_iff indexed, true_and]

/-- A chapter is refused among others at its first sub-parameter that repeats a name, or
for its own name. -/
theorem enter_eq_error_iff (reject : context.duplicates = .reject) {earlier : List Entry}
    (distinct : (earlier.map Entry.name).Nodup) (chapter : Chapter) :
    chapter.enter context (Catalogue.ofList earlier) = .error error ↔
      (∃ sub, IsFirstRepeat (fun sub => sub.entry.name) chapter.subs sub ∧
        error = .duplicateName (Commit.qualify chapter.top.name sub.entry.name)
          (context.place sub.line)) ∨
      (chapter.children.map Entry.name).Nodup ∧ chapter.top.name ∈ earlier.map Entry.name ∧
        error = .duplicateName chapter.top.name (context.place chapter.top.line) := by
  rw [enter, Commit.enter, except_bind_eq_error_iff, Commit.foldlM_closeSubparameter,
    chapter.fresh, except_map_eq_error_iff, foldlM_acceptChild_eq_error_iff reject]
  refine or_congr_right ?_
  rw [← chapter.fresh, ← Commit.foldlM_closeSubparameter]
  constructor
  · rintro ⟨top, closed, refused⟩
    obtain ⟨childrenDistinct, rfl⟩ := (foldlM_closeSubparameter_eq_ok_iff chapter).mp closed
    rw [Commit.closeParameter, Commit.accept_ofList_eq_error_iff reject distinct,
      Commit.name_finished] at refused
    exact ⟨childrenDistinct reject, refused⟩
  · rintro ⟨childrenDistinct, refused⟩
    refine ⟨_, (foldlM_closeSubparameter_eq_ok_iff chapter).mpr
      ⟨fun _ => childrenDistinct, rfl⟩, ?_⟩
    rw [Commit.closeParameter, Commit.accept_ofList_eq_error_iff reject distinct,
      Commit.name_finished]
    exact refused

end Chapter

end BootManual
