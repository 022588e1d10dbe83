import BootManual.Proofs.Conservation
import BootManual.Proofs.ValueRows

/-!
# Values on one line or on several

The same values can be laid out in braces in many ways, on one line or over several.  A
line that opens a block, every line inside it and a list on one line need a separator to
be taken for what they are.  Where they have one, the layout cannot be told from the
values that are read.
-/

namespace BootManual

open Text

namespace ValueList

/-! ## Layouts -/

variable {separator : Char}

/-- Rows in braces, on one line or over several. -/
inductive Layout (separator : Char) where
  | oneLine (row : Row separator)
  | several (first : Row separator) (inner : List (Row separator)) (last : Row separator)

namespace Layout

/-- The rows in their order. -/
def rows : Layout separator → List (Row separator)
  | oneLine row => [row]
  | several first inner last => first :: inner ++ [last]

/-- The values in their order. -/
def values (layout : Layout separator) : List Text :=
  layout.rows.flatMap Row.values

/-- The first line, with the opening brace. -/
def opening : Layout separator → Text
  | oneLine row => '\x7b' :: row.text ++ ['\x7d']
  | several first _ _ => '\x7b' :: first.text

/-- The other lines, with the closing brace on the last of them. -/
def others : Layout separator → List Text
  | oneLine _ => []
  | several _ inner last => inner.map Row.text ++ [last.text ++ ['\x7d']]

/-- A list on one line has a separator, and so does each line of several but the last.
The first of several may be a bare brace instead. -/
inductive IsMarked : Layout separator → Prop
  | oneLine {row : Row separator} (separated : '|' ∈ row.text ∨ ',' ∈ row.text) :
      IsMarked (oneLine row)
  | several {first last : Row separator} {inner : List (Row separator)}
      (begins : first.text = [] ∨ '|' ∈ first.text ∨ ',' ∈ first.text)
      (goesOn : ∀ row ∈ inner, '|' ∈ row.text ∨ ',' ∈ row.text) :
      IsMarked (several first inner last)

/-- Values of a certain kind, on lines without white space at their ends. -/
structure IsProper (layout : Layout separator) : Prop where
  chosen : separator = '|' ∨ separator = ','
  nonempty : layout.values ≠ []
  items : ∀ value ∈ layout.values, IsItem value
  trimmed : ∀ line ∈ layout.opening :: layout.others, IsStripped isBlank line
  marked : layout.IsMarked

variable {layout : Layout separator}

/-- The rows with the braces that are around them on the lines. -/
def braced : Layout separator → List (Braced separator)
  | oneLine row =>
    [⟨row, ['\x7b'], ['\x7d'], List.forall_mem_singleton.mpr rfl, List.forall_mem_singleton.mpr rfl⟩]
  | several first inner last =>
    ⟨first, ['\x7b'], [], List.forall_mem_singleton.mpr rfl, List.forall_mem_nil _⟩ ::
      (inner.map fun row => ⟨row, [], [], List.forall_mem_nil _, List.forall_mem_nil _⟩) ++
        [⟨last, [], ['\x7d'], List.forall_mem_nil _, List.forall_mem_singleton.mpr rfl⟩]

theorem lines_eq (layout : Layout separator) :
    layout.opening :: layout.others = layout.braced.map Braced.line := by
  cases layout with
  | oneLine row => rfl
  | several first inner last =>
      simp [opening, others, braced, Braced.line, Function.comp_def]

theorem map_row_braced (layout : Layout separator) :
    layout.braced.map Braced.row = layout.rows := by
  cases layout with
  | oneLine row => rfl
  | several first inner last => simp [rows, braced, Function.comp_def]

theorem IsProper.separates (proper : layout.IsProper) : isSeparator separator := by
  rcases proper.chosen with rfl | rfl <;> rfl

theorem IsProper.isItem (proper : layout.IsProper) {row : Row separator}
    (listed : row ∈ layout.rows) : ∀ value ∈ row.values, IsItem value :=
  fun value given => proper.items value (List.mem_flatMap.mpr ⟨row, listed, given⟩)

theorem IsProper.not_mem_of_isBrace (proper : layout.IsProper) {row : Row separator}
    (listed : row ∈ layout.rows) {letter : Char} (brace : isBrace letter) : letter ∉ row.text := by
  intro inside
  rw [row.lists.unbraced proper.separates (proper.isItem listed) letter inside] at brace
  contradiction

/-- The values of a layout are read from its lines. -/
theorem IsProper.read_eq (proper : layout.IsProper) :
    read (layout.opening :: layout.others) = layout.values := by
  have trimmed := proper.trimmed
  rw [lines_eq, List.forall_mem_map] at trimmed
  have items : ∀ braced ∈ layout.braced, ∀ value ∈ braced.row.values, IsItem value := by
    intro braced listed
    apply proper.isItem
    rw [← map_row_braced]
    exact List.mem_map_of_mem listed
  rw [lines_eq, read_rows proper.separates items trimmed, values, ← map_row_braced, List.flatMap_map]

/-- A row that is not the first is not taken for a directive, closed or not. -/
theorem IsProper.undirected (proper : layout.IsProper) {row : Row separator}
    (listed : row ∈ layout.rows) {closing : Text} (braces : ∀ letter ∈ closing, isBrace letter) :
    ¬"Format:".toList <+: row.text ++ closing :=
  row.lists.undirected (proper.isItem listed) proper.separates braces

end Layout

/-! ## What lines look like -/

section

variable {line : Text}

theorem opens_eq_false (absent : '\x7b' ∉ line) : opens line = false := by
  cases line with
  | nil => rfl
  | cons letter rest =>
      have different : '\x7b' ≠ letter := fun same => absent (same ▸ List.mem_cons_self)
      simp [opens, startsWith, List.isPrefixOf, different]

theorem closes_eq_false (absent : '\x7d' ∉ line) : closes line = false := by
  have different : line.getLast? ≠ some '\x7d' := fun last => absent (List.mem_of_getLast? last)
  simp [closes, endsWith, different]

theorem closes_append (line : Text) : closes (line ++ ['\x7d']) = true := by
  simp [closes, endsWith]

theorem hasSeparator_cons (line : Text) : hasSeparator ('\x7b' :: line) = hasSeparator line := by
  simp [hasSeparator, isSeparator]

theorem hasSeparator_append (line : Text) :
    hasSeparator (line ++ ['\x7d']) = hasSeparator line := by
  simp [hasSeparator, isSeparator]

theorem collapseDoubledBrace_eq_self (single : '\x7b' ∉ line.tail) :
    collapseDoubledBrace line = line := by
  have absent : ¬"\x7b \x7b".toList <+: line := by
    rintro ⟨rest, rfl⟩
    exact single (by simp)
  rw [collapseDoubledBrace, after?_eq_none_iff.mpr absent]

end

end ValueList

/-! ## Reading layouts -/

namespace Draft

open ValueList

variable {draft : Draft} {entry : Entry} {line : Text} {lines : List Text}

/-- A line that begins neither with a directive nor with two braces is what it seems. -/
theorem absorb_undirected (undirected : ¬"Format:".toList <+: line)
    (single : '\x7b' ∉ line.tail) : draft.absorb line = draft.absorbContent line := by
  have plain : ¬Header.formatDirective <+: line := fun directed =>
    undirected (List.IsPrefix.trans ⟨[' '], rfl⟩ directed)
  rw [absorb, after?_eq_none_iff.mpr plain]
  exact congrArg draft.absorbContent (collapseDoubledBrace_eq_self single)

/-- The words of a directive in front of a brace make no difference. -/
theorem absorb_directed (single : '\x7b' ∉ line) :
    draft.absorb (Header.formatDirective ++ '\x7b' :: line) =
      draft.absorbContent ('\x7b' :: line) := by
  have behind : after? Header.formatDirective (Header.formatDirective ++ '\x7b' :: line) =
      some ('\x7b' :: line) := after?_eq_some_iff.mpr rfl
  have shown : trimStart ('\x7b' :: line) = '\x7b' :: line := rfl
  have collapsed : collapseDoubledBrace ('\x7b' :: line) = '\x7b' :: line :=
    collapseDoubledBrace_eq_self single
  simp [absorb, behind, isBrace, shown, collapsed]

theorem absorbContent_list (list : isList line) :
    (start entry).absorbContent line = readValues entry [line] := by
  unfold isList at list
  simp only [absorbContent, list, flush_start, if_true]
  rfl

theorem absorbContent_opening (opened : opens line) (unclosed : closes line = false)
    (begins : hasSeparator line ∨ line = ['\x7b']) :
    (start entry).absorbContent line = (.blockOpened, ⟨entry, some [line]⟩) := by
  have condition : (hasSeparator line || decide (line = ['\x7b'])) = true := by simpa using begins
  simp [absorbContent, opened, unclosed, condition, start, flush]

theorem absorbContent_inner (unopened : opens line = false) (unclosed : closes line = false)
    (separated : hasSeparator line) :
    (Draft.mk entry (some lines)).absorbContent line =
      (.blockContinued, ⟨entry, some (lines ++ [line])⟩) := by
  simp [absorbContent, absorbInner, unopened, unclosed, separated]

theorem absorbContent_closing (unopened : opens line = false) (closed : closes line) :
    (Draft.mk entry (some lines)).absorbContent line = readValues entry (lines ++ [line]) := by
  simp [absorbContent, absorbInner, unopened, closed]

variable {separator : Char} {layout : Layout separator}

/-- Rows with separators stay in the block that is open. -/
theorem absorbAll_inner (proper : layout.IsProper) {rows : List (Row separator)}
    (listed : ∀ row ∈ rows, row ∈ layout.rows) (goesOn : ∀ row ∈ rows, hasSeparator row.text)
    (lines : List Text) :
    (Draft.mk entry (some lines)).absorbAll (rows.map Row.text) =
      ⟨entry, some (lines ++ rows.map Row.text)⟩ := by
  induction rows generalizing lines with
  | nil => simp [absorbAll]
  | cons row rest inductionHypothesis =>
      rw [List.forall_mem_cons] at listed goesOn
      have unopened : '\x7b' ∉ row.text := proper.not_mem_of_isBrace listed.1 rfl
      have unclosed : '\x7d' ∉ row.text := proper.not_mem_of_isBrace listed.1 rfl
      have undirected : ¬"Format:".toList <+: row.text := by
        simpa using proper.undirected listed.1 (List.forall_mem_nil _)
      have absorbed : (Draft.mk entry (some lines)).absorb row.text =
          (.blockContinued, ⟨entry, some (lines ++ [row.text])⟩) := by
        rw [absorb_undirected undirected fun inside => unopened (List.mem_of_mem_tail inside),
          absorbContent_inner (opens_eq_false unopened) (closes_eq_false unclosed) goesOn.1]
      have later := inductionHypothesis listed.2 goesOn.2 (lines ++ [row.text])
      rw [absorbAll] at later ⊢
      rw [List.map_cons, List.foldl_cons, absorbed, later, List.append_assoc]
      rfl

/-- The last row closes the block. -/
theorem absorb_last (proper : layout.IsProper) {row : Row separator} (listed : row ∈ layout.rows) :
    (Draft.mk entry (some lines)).absorb (row.text ++ ['\x7d']) =
      readValues entry (lines ++ [row.text ++ ['\x7d']]) := by
  have unopened : '\x7b' ∉ row.text ++ ['\x7d'] := by
    rw [List.mem_append, not_or]
    exact ⟨proper.not_mem_of_isBrace listed rfl, by decide⟩
  have undirected : ¬"Format:".toList <+: row.text ++ ['\x7d'] :=
    proper.undirected listed (List.forall_mem_singleton.mpr rfl)
  rw [absorb_undirected undirected fun inside => unopened (List.mem_of_mem_tail inside),
    absorbContent_closing (opens_eq_false unopened) (closes_append row.text)]

/-- From its first line on, a layout comes to what is read from its lines. -/
theorem absorbAll_others (proper : layout.IsProper) (entry : Entry) :
    ((start entry).absorbContent layout.opening).2.absorbAll layout.others =
      (readValues entry (layout.opening :: layout.others)).2 := by
  cases proper.marked with
  | @oneLine row separated =>
      have list : isList (Layout.oneLine row).opening := by
        rw [isList, Layout.opening, closes_append, hasSeparator_append, hasSeparator_cons,
          hasSeparator_iff.mpr separated]
        rfl
      rw [absorbContent_list list]
      rfl
  | @several first last inner begins goesOn =>
      have unclosed : closes ('\x7b' :: first.text) = false := by
        apply closes_eq_false
        rw [List.mem_cons, not_or]
        exact ⟨by decide, proper.not_mem_of_isBrace (by simp [Layout.rows]) rfl⟩
      have starts : hasSeparator ('\x7b' :: first.text) ∨ '\x7b' :: first.text = ['\x7b'] := by
        rw [hasSeparator_cons, hasSeparator_iff]
        exact begins.symm.imp_right (congrArg ('\x7b' :: ·))
      have opened : (start entry).absorbContent (Layout.several first inner last).opening =
          (.blockOpened, ⟨entry, some ['\x7b' :: first.text]⟩) :=
        absorbContent_opening rfl unclosed starts
      let front : List Text := ['\x7b' :: first.text]
      have inside : (Draft.mk entry (some front)).absorbAll (inner.map Row.text) =
          ⟨entry, some (front ++ inner.map Row.text)⟩ :=
        absorbAll_inner proper (fun row listed => by simp [Layout.rows, listed])
          (fun row listed => hasSeparator_iff.mpr (goesOn row listed)) front
      have closed : (Draft.mk entry (some (front ++ inner.map Row.text))).absorb
          (last.text ++ ['\x7d']) =
          readValues entry (front ++ inner.map Row.text ++ [last.text ++ ['\x7d']]) :=
        absorb_last proper (by simp [Layout.rows])
      rw [absorbAll] at inside
      rw [opened, absorbAll, Layout.others, List.foldl_append, inside, List.foldl_cons, closed]
      rfl

/-- The first line counts with a directive in front and without one. -/
theorem absorb_opening (proper : layout.IsProper) (draft : Draft) :
    draft.absorb layout.opening = draft.absorbContent layout.opening ∧
      draft.absorb (Header.formatDirective ++ layout.opening) =
        draft.absorbContent layout.opening := by
  obtain ⟨line, braced, single⟩ : ∃ line, layout.opening = '\x7b' :: line ∧ '\x7b' ∉ line := by
    cases layout with
    | oneLine row =>
        refine ⟨row.text ++ ['\x7d'], rfl, ?_⟩
        rw [List.mem_append, not_or]
        exact ⟨proper.not_mem_of_isBrace (by simp [Layout.rows]) rfl, by decide⟩
    | several first inner last =>
        exact ⟨first.text, rfl, proper.not_mem_of_isBrace (by simp [Layout.rows]) rfl⟩
  have undirected : ¬"Format:".toList <+: '\x7b' :: line := fun directed =>
    absurd (List.cons_prefix_cons.mp directed).1 (by decide)
  rw [braced]
  exact ⟨absorb_undirected undirected single, absorb_directed single⟩

/-- Values that are laid out properly are read as a choice of these values, and
nothing else changes.  How they are laid out makes no difference, nor do the words of a
directive in front of the first line. -/
theorem absorbAll_layout (entry : Entry) (proper : layout.IsProper) :
    (start entry).absorbAll (layout.opening :: layout.others) =
        start { entry with format := .choice layout.values } ∧
      (start entry).absorbAll (("Format: ".toList ++ layout.opening) :: layout.others) =
        start { entry with format := .choice layout.values } := by
  have found : ValueList.read (layout.opening :: layout.others) ≠ [] := by
    rw [proper.read_eq]
    exact proper.nonempty
  have others := absorbAll_others proper entry
  rw [readValues_of_ne_nil entry found, proper.read_eq, absorbAll] at others
  obtain ⟨plain, directed⟩ := absorb_opening proper (start entry)
  constructor
  · rw [absorbAll, List.foldl_cons, plain, others]
  · change (start entry).absorbAll ((Header.formatDirective ++ layout.opening) :: _) = _
    rw [absorbAll, List.foldl_cons, directed, others]

/-- Behind a directive, a block with a bare brace on its first line and on its last, a
comma that dangles among bars, and white space of several kinds. -/
theorem absorbAll_layout_dangling :
    let entry := Entry.named "a".toList
    let lines := ["Format: \x7b".toList, "on,".toList, "off\u00a0|  x y\t|".toList, "\x7d".toList]
    let values := ["on".toList, "off".toList, "x y".toList]
    (start entry).absorbAll lines = start { entry with format := .choice values } := by
  intro entry lines values
  have single : Lists '|' ["on".toList] ([] ++ "on".toList ++ ([] ++ ',' :: [])) :=
    .last (by decide) (.dangling (by decide) (.inl rfl) (by decide))
  have double : Lists '|' ["off".toList, "x y".toList]
      ([] ++ "off".toList ++ "\u00a0".toList ++ '|' ::
        ("  ".toList ++ "x y".toList ++ ("\t".toList ++ '|' :: []))) :=
    .more (by decide) (by decide)
      (.last (by decide) (.dangling (by decide) (.inr rfl) (by decide)))
  have bare : Lists '|' [] [] := .blank (by decide)
  have on : IsItem "on".toList := ⟨by decide, by decide, by simp, by simp, by decide⟩
  have off : IsItem "off".toList := ⟨by decide, by decide, by simp, by simp, by decide⟩
  have both : IsItem "x y".toList := ⟨by decide, by decide, by simp, by simp, by decide⟩
  have items : ∀ value ∈ values, IsItem value :=
    List.forall_mem_cons.mpr
      ⟨on, List.forall_mem_cons.mpr ⟨off, List.forall_mem_singleton.mpr both⟩⟩
  have trimmed : ∀ line ∈ ["\x7b".toList, "on,".toList, "off\u00a0|  x y\t|".toList,
      "\x7d".toList], IsStripped isBlank line := by decide
  have separated : ∀ row ∈ [Row.mk _ _ single, Row.mk _ _ double],
      '|' ∈ row.text ∨ ',' ∈ row.text :=
    List.forall_mem_cons.mpr ⟨.inr (by simp), List.forall_mem_singleton.mpr (.inl (by simp))⟩
  have proper : (Layout.several ⟨_, _, bare⟩ [⟨_, _, single⟩, ⟨_, _, double⟩]
      ⟨_, _, bare⟩).IsProper :=
    ⟨.inl rfl, List.cons_ne_nil _ _, items, trimmed, .several (.inl rfl) separated⟩
  exact (absorbAll_layout entry proper).2

end Draft

end BootManual
