import BootManual.Proofs.Outline

/-!
# What chapters come to

A chapter comes to one entry, and a manual to the entries of its chapters in order,
whatever the numbers of the lines are.  If duplicates are rejected, the manual must
not use a name twice at one level; that is all the policy decides.
-/

namespace BootManual

/-! ## Accepting entries one by one -/

namespace Commit

variable {context : Context} {entries after : Catalogue Entry}

theorem accept_eq_ok_iff {label : Text} {line : Nat} {entry : Entry}
    (indexed : entries.IsIndexed) :
    accept context label line entries entry = .ok after ↔
      (context.duplicates = .reject → entry.name ∉ entries.names) ∧
        after = entries.insert entry := by
  have known := Catalogue.contains_iff indexed entry.name
  unfold accept
  constructor
  · intro accepted
    split at accepted
    · contradiction
    · next fresh =>
      constructor
      · intro reject inside
        exact fresh ⟨reject, known.mpr inside⟩
      · exact (Except.ok.inj accepted).symm
  · rintro ⟨fresh, rfl⟩
    rw [if_neg]
    rintro ⟨reject, taken⟩
    exact fresh reject (known.mp taken)

/-- Entries are accepted one by one exactly if each is good on its own and, when
duplicates are rejected, no name occurs twice. -/
theorem foldlM_eq_ok_iff (context : Context) {Item : Type}
    {step : Catalogue Entry → Item → Except ParseError (Catalogue Entry)}
    (good : Item → Prop) (use : Item → Entry)
    (accepts : ∀ {entries after : Catalogue Entry} {item : Item}, entries.IsIndexed →
      (step entries item = .ok after ↔
        good item ∧ (context.duplicates = .reject → (use item).name ∉ entries.names) ∧
          after = entries.insert (use item)))
    (items : List Item) (indexed : entries.IsIndexed) (distinct : entries.names.Nodup) :
    items.foldlM step entries = .ok after ↔
      (∀ item ∈ items, good item) ∧
        (context.duplicates = .reject →
          (entries.names ++ items.map fun item => (use item).name).Nodup) ∧
        after = entries.insertAll (items.map use) := by
  induction items generalizing entries with
  | nil => simp [distinct, pure, Except.pure, eq_comm]
  | cons item rest inductionHypothesis =>
      have indexedNext := Catalogue.isIndexed_insert indexed (use item)
      have distinctNext : (entries.insert (use item)).names.Nodup := by
        rw [Catalogue.names, Catalogue.slots_insert indexed]
        exact Catalogue.nodup_names_place distinct
      rw [List.foldlM_cons, except_bind_eq_ok_iff]
      constructor
      · rintro ⟨next, accepted, others⟩
        obtain ⟨itemGood, fresh, rfl⟩ := (accepts indexed).mp accepted
        obtain ⟨restGood, restDistinct, rfl⟩ :=
          (inductionHypothesis indexedNext distinctNext).mp others
        refine ⟨List.forall_mem_cons.mpr ⟨itemGood, restGood⟩, fun reject => ?_, rfl⟩
        have apart := restDistinct reject
        rw [Catalogue.names_insert indexed, if_neg (fresh reject)] at apart
        simpa using apart
      · rintro ⟨allGood, allDistinct, rfl⟩
        rw [List.forall_mem_cons] at allGood
        have fresh : context.duplicates = .reject → (use item).name ∉ entries.names := by
          intro reject inside
          exact (List.nodup_append.mp (allDistinct reject)).2.2 _ inside _
            List.mem_cons_self rfl
        refine ⟨entries.insert (use item), (accepts indexed).mpr ⟨allGood.1, fresh, rfl⟩, ?_⟩
        refine (inductionHypothesis indexedNext distinctNext).mpr
          ⟨allGood.2, fun reject => ?_, rfl⟩
        rw [Catalogue.names_insert indexed, if_neg (fresh reject)]
        simpa using allDistinct reject

/-- Accept a finished sub-parameter among those of the parameter of this name. -/
def acceptChild (context : Context) (name : Text) (children : Catalogue Entry)
    (sub : OpenSubparameter) : Except ParseError (Catalogue Entry) :=
  accept context (qualify name sub.entry.name) sub.line children (dropLeadingBreaks sub.entry)

/-- Sub-parameters are committed to the catalogue of their parameter. -/
theorem foldlM_closeSubparameter (context : Context) (top : OpenParameter)
    (subs : List OpenSubparameter) :
    subs.foldlM (closeSubparameter context) top =
      (subs.foldlM (acceptChild context top.name) top.children).map top.withChildren := by
  induction subs generalizing top with
  | nil =>
      obtain ⟨⟨⟨_, _, _, _, _⟩, _⟩, _⟩ := top
      rw [List.foldlM_nil, List.foldlM_nil]
      rfl
  | cons sub rest inductionHypothesis =>
      rw [List.foldlM_cons, List.foldlM_cons, closeSubparameter, except_map_bind, ← acceptChild]
      cases acceptChild context top.name top.children sub with
      | error error => rfl
      | ok children => exact inductionHypothesis (top.withChildren children)

end Commit

/-! ## Entries of chapters -/

namespace Chapter

/-- The sub-parameters that a chapter describes. -/
def children (chapter : Chapter) : List Entry :=
  chapter.subs.map fun sub => Commit.dropLeadingBreaks sub.entry

/-- The parameter that a chapter describes. -/
def entry (chapter : Chapter) : Entry :=
  Commit.finished (chapter.top.withChildren (Catalogue.ofList chapter.children))

theorem foldlM_acceptChild_eq_ok_iff {context : Context} {name : Text}
    {after : Catalogue Entry} (chapter : Chapter) :
    chapter.subs.foldlM (Commit.acceptChild context name) Catalogue.empty = .ok after ↔
      (context.duplicates = .reject → (chapter.children.map Entry.name).Nodup) ∧
        after = Catalogue.ofList chapter.children := by
  rw [Commit.foldlM_eq_ok_iff context (fun _ => True)
    (fun sub => Commit.dropLeadingBreaks sub.entry) _ chapter.subs Catalogue.isIndexed_empty
    List.nodup_nil]
  · simp [Catalogue.names, Catalogue.empty, Catalogue.ofList, Chapter.children, Function.comp_def]
  · intro entries next sub indexed
    rw [Commit.acceptChild, Commit.accept_eq_ok_iff indexed, true_and]

theorem foldlM_closeSubparameter_eq_ok_iff {context : Context} {after : OpenParameter}
    (chapter : Chapter) :
    chapter.subs.foldlM (Commit.closeSubparameter context) chapter.top = .ok after ↔
      (context.duplicates = .reject → (chapter.children.map Entry.name).Nodup) ∧
        after = chapter.top.withChildren (Catalogue.ofList chapter.children) := by
  rw [Commit.foldlM_closeSubparameter, chapter.fresh, except_map_eq_ok_iff]
  constructor
  · rintro ⟨children, closed, rfl⟩
    obtain ⟨distinct, rfl⟩ := (foldlM_acceptChild_eq_ok_iff chapter).mp closed
    exact ⟨distinct, rfl⟩
  · rintro ⟨distinct, rfl⟩
    exact ⟨_, (foldlM_acceptChild_eq_ok_iff chapter).mpr ⟨distinct, rfl⟩, rfl⟩

theorem enter_eq_ok_iff {context : Context} {entries after : Catalogue Entry}
    {chapter : Chapter} (indexed : entries.IsIndexed) :
    chapter.enter context entries = .ok after ↔
      (context.duplicates = .reject → (chapter.children.map Entry.name).Nodup) ∧
        (context.duplicates = .reject → chapter.entry.name ∉ entries.names) ∧
        after = entries.insert chapter.entry := by
  rw [enter, Commit.enter, except_bind_eq_ok_iff]
  constructor
  · rintro ⟨top, closed, accepted⟩
    obtain ⟨distinct, rfl⟩ := (foldlM_closeSubparameter_eq_ok_iff chapter).mp closed
    exact ⟨distinct, (Commit.accept_eq_ok_iff indexed).mp accepted⟩
  · rintro ⟨distinct, accepted⟩
    exact ⟨_, (foldlM_closeSubparameter_eq_ok_iff chapter).mpr ⟨distinct, rfl⟩,
      (Commit.accept_eq_ok_iff indexed).mpr accepted⟩

end Chapter

/-! ## Lines without numbers -/

/-- What a line adds to the description of an open sub-parameter. -/
def Line.addition : Line → Text
  | blank => ['\n']
  | continuation _ text => '\n' :: text
  | _ => []

/-- An open sub-parameter after some lines has what they add to its description. -/
theorem OpenSubparameter.entry_foldl_hear (sub : OpenSubparameter) (lines : List Text) :
    (lines.foldl hear sub).entry =
      { sub.entry with
        description := sub.entry.description ++
          lines.flatMap fun line => (Line.classify line).addition } := by
  induction lines generalizing sub with
  | nil =>
      obtain ⟨⟨_, _, _, _, _⟩, _⟩ := sub
      simp
  | cons line rest inductionHypothesis =>
      rw [List.foldl_cons, inductionHypothesis, List.flatMap_cons]
      cases role : Line.classify line <;>
        simp [hear, role, Line.addition, Reader.describeSubparameter, Draft.describe,
          Draft.appendLines]

namespace Outline

/-- The parts of a manual: each header of a parameter with the lines up to the next. -/
def parts (lines : List Text) : List (Text × List Text) :=
  (cutBefore (fun line => (Line.classify line).isTopHeader) lines).2

/-- The lines of a part behind its header: those of the parameter itself, and each
header of a sub-parameter with the lines up to the next. -/
def sections (body : List Text) : List Text × List (Text × List Text) :=
  cutBefore (fun line => (Line.classify line).isNestedHeader) body

/-- The sub-parameter that a header and the lines of its section describe. -/
def subentryOf (part : Text × List Text) : Entry :=
  Commit.dropLeadingBreaks
    { entryAt part.1 with
      description := (entryAt part.1).description ++
        part.2.flatMap fun line => (Line.classify line).addition }

/-- The sub-parameters that a part describes. -/
def childrenOf (part : Text × List Text) : List Entry :=
  (sections part.2).2.map subentryOf

/-- The parameter that a part describes. -/
def entryOf (part : Text × List Text) : Entry :=
  Commit.finished
    (OpenParameter.withChildren ⟨draftOf part.1 (sections part.2).1, 0⟩
      (Catalogue.ofList (childrenOf part)))

/-- The entries that a manual describes, as if no name occurred twice. -/
def entriesOf (lines : List Text) : List Entry :=
  (parts lines).map entryOf

/-- No name occurs twice at one level of the manual. -/
structure IsDistinct (lines : List Text) : Prop where
  parameters : ((entriesOf lines).map Entry.name).Nodup
  subparameters : ∀ part ∈ parts lines, ((childrenOf part).map Entry.name).Nodup

theorem sections_map_fst (body : List NumberedLine) :
    sections (body.map Prod.fst) =
      ((cutBefore opensSection body).1.map Prod.fst,
        (cutBefore opensSection body).2.map fun part => (part.1.1, part.2.map Prod.fst)) :=
  cutBefore_map _ Prod.fst body

theorem parts_map_fst (lines : List NumberedLine) :
    parts (lines.map Prod.fst) =
      (cutBefore opensChapter lines).2.map fun part => (part.1.1, part.2.map Prod.fst) :=
  congrArg Prod.snd (cutBefore_map _ Prod.fst lines)

theorem children_chapterOf (part : NumberedLine × List NumberedLine) :
    (chapterOf part).children = childrenOf (part.1.1, part.2.map Prod.fst) := by
  simp only [chapterOf, Chapter.children, childrenOf, sections_map_fst, List.map_map]
  apply List.map_congr_left
  intro sub _
  simp only [Function.comp_apply, subparameterOf, OpenSubparameter.entry_foldl_hear, subentryOf]

theorem entry_chapterOf (part : NumberedLine × List NumberedLine) :
    (chapterOf part).entry = entryOf (part.1.1, part.2.map Prod.fst) := by
  rw [Chapter.entry, children_chapterOf, entryOf, sections_map_fst]
  rfl

/-- Chapters have the entries of the parts whose lines they number. -/
theorem map_entry_chapters (lines : List Text) :
    (chapters lines.zipIdx).map Chapter.entry = entriesOf lines := by
  conv => rhs; rw [← List.zipIdx_map_fst 0 lines]
  rw [entriesOf, parts_map_fst, chapters, List.map_map, List.map_map]
  exact List.map_congr_left fun part _ => entry_chapterOf part

theorem map_children_chapters (lines : List Text) :
    (chapters lines.zipIdx).map Chapter.children = (parts lines).map childrenOf := by
  conv => rhs; rw [← List.zipIdx_map_fst 0 lines]
  rw [parts_map_fst, chapters, List.map_map, List.map_map]
  exact List.map_congr_left fun part _ => children_chapterOf part

end Outline

namespace Manual

/-- A manual can be read unless duplicates are rejected and a name occurs twice at
one level, and the entries of its parts in order make the catalogue. -/
theorem result_ofLines_eq_ok_iff {context : Context} {lines : List Text}
    {catalogue : Catalogue Entry} :
    (ofLines context lines).result = .ok catalogue ↔
      (context.duplicates = .reject → Outline.IsDistinct lines) ∧
        catalogue = Catalogue.ofList (Outline.entriesOf lines) := by
  have names : (Outline.chapters lines.zipIdx).map (fun chapter => chapter.entry.name) =
      (Outline.entriesOf lines).map Entry.name := by
    rw [← Outline.map_entry_chapters, List.map_map]
    rfl
  have children :
      (∀ chapter ∈ Outline.chapters lines.zipIdx, (chapter.children.map Entry.name).Nodup) ↔
        ∀ part ∈ Outline.parts lines, ((Outline.childrenOf part).map Entry.name).Nodup := by
    have same := congrArg
      (fun families => ∀ family ∈ families, (family.map Entry.name).Nodup)
      (Outline.map_children_chapters lines)
    simpa only [List.forall_mem_map, eq_iff_iff] using same
  rw [result_ofLines, Outline.enterAll,
    Commit.foldlM_eq_ok_iff context
      (fun chapter => context.duplicates = .reject → (chapter.children.map Entry.name).Nodup)
      Chapter.entry Chapter.enter_eq_ok_iff _ Catalogue.isIndexed_empty List.nodup_nil,
    names, Outline.map_entry_chapters, ← Catalogue.ofList]
  constructor
  · rintro ⟨each, apart, rfl⟩
    constructor
    · intro reject
      exact ⟨apart reject, children.mp fun chapter listed => each chapter listed reject⟩
    · rfl
  · rintro ⟨distinct, rfl⟩
    constructor
    · intro chapter listed reject
      exact children.mpr (distinct reject).subparameters chapter listed
    · exact ⟨fun reject => (distinct reject).parameters, rfl⟩

/-- Where later entries replace earlier ones, every manual can be read. -/
theorem result_ofLines_of_replace {context : Context} (replace : context.duplicates = .replace)
    (lines : List Text) :
    (ofLines context lines).result = .ok (Catalogue.ofList (Outline.entriesOf lines)) := by
  apply result_ofLines_eq_ok_iff.mpr
  constructor
  · intro reject
    rw [replace] at reject
    contradiction
  · rfl

/-- Where duplicates are rejected, a manual that can be read yields the entries of its
parts as they stand. -/
theorem result_ofLines_eq_ok_iff_of_reject {context : Context}
    (reject : context.duplicates = .reject) {lines : List Text} {catalogue : Catalogue Entry} :
    (ofLines context lines).result = .ok catalogue ↔
      Outline.IsDistinct lines ∧ catalogue.IsIndexed ∧
        catalogue.slots = Outline.entriesOf lines := by
  rw [result_ofLines_eq_ok_iff]
  constructor
  · rintro ⟨distinct, rfl⟩
    exact ⟨distinct reject, Catalogue.isIndexed_ofList _,
      Catalogue.slots_ofList_of_nodup (distinct reject).parameters⟩
  · rintro ⟨distinct, indexed, slots⟩
    constructor
    · intro _
      exact distinct
    · apply Catalogue.ext_of_slots_eq indexed (Catalogue.isIndexed_ofList _)
      rw [slots, Catalogue.slots_ofList_of_nodup distinct.parameters]

end Manual

end BootManual
