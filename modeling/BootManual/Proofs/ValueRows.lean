import BootManual.Proofs.BareHeaders

/-!
# Rows of values

Values stand on a line with a separator between neighbours and white space around them.
A comma or the separator may dangle at the end of the line, and braces may stand at its
ends.  When the lines of a list are cut at the separator, every line gives its values and
nothing else, because all that is around a value is stripped from it.
-/

namespace BootManual

open Text

/-! ## Openings of texts -/

namespace Text

/-- A word that is clear of what stands behind a text begins the text if it begins both
together. -/
theorem begins_of_begins_append {stop : Char → Bool} {word text rest : Text}
    (clear : IsClear stop word) (stops : ∀ letter ∈ rest.head?, stop letter)
    (begins : word <+: text ++ rest) : word <+: text := by
  induction word generalizing text with
  | nil => exact List.nil_prefix
  | cons letter others inductionHypothesis =>
      cases text with
      | nil =>
          obtain ⟨behind, rfl⟩ := begins
          have stopped : stop letter = true := stops letter rfl
          rw [clear letter List.mem_cons_self] at stopped
          contradiction
      | cons first behind =>
          rw [List.cons_append, List.cons_prefix_cons] at begins
          have clearOthers : IsClear stop others := fun other inside =>
            clear other (List.mem_cons_of_mem letter inside)
          exact List.cons_prefix_cons.mpr
            ⟨begins.1, inductionHypothesis clearOthers begins.2⟩

end Text

namespace ValueList

/-! ## Rows -/

/-- Whether a character has a meaning in a list of values. -/
def isMark (letter : Char) : Bool :=
  isSeparator letter || isBrace letter

/-- A value that can stand anywhere in a list: there are no marks in it, it begins and
ends with neither white space nor a quotation mark, and it does not begin like a format
directive. -/
structure IsItem (value : Text) : Prop where
  nonempty : value ≠ []
  trimmed : IsStripped isBlank value
  unquoted : ∀ quote ∈ ['"', '\''], value.head? ≠ some quote ∧ value.getLast? ≠ some quote
  unmarked : ∀ mark ∈ ['|', ',', '\x7b', '\x7d'], mark ∉ value
  undirected : ¬"Format:".toList <+: value

theorem IsItem.isClear {value : Text} (item : IsItem value) : IsClear isMark value := by
  intro letter inside
  obtain ⟨bar, comma, opening, closing⟩ : '|' ∉ value ∧ ',' ∉ value ∧ '\x7b' ∉ value ∧
      '\x7d' ∉ value := by simpa using item.unmarked
  simp only [isMark, isSeparator, isBrace, Bool.or_eq_false_iff, beq_eq_false_iff_ne]
  exact ⟨⟨ne_of_mem_of_not_mem inside bar, ne_of_mem_of_not_mem inside comma⟩,
    ne_of_mem_of_not_mem inside opening, ne_of_mem_of_not_mem inside closing⟩

theorem IsItem.stripped {value : Text} (item : IsItem value) : IsStripped isMargin value := by
  have bare {mark : Char} (absent : mark ∉ value) :
      value.head? ≠ some mark ∧ value.getLast? ≠ some mark :=
    ⟨fun first => absent (List.mem_of_mem_head? first),
      fun last => absent (List.mem_of_mem_getLast? last)⟩
  refine isStripped_isMargin_iff.mpr ⟨item.trimmed, ?_⟩
  simp only [List.forall_mem_cons, List.not_mem_nil, false_imp_iff, implies_true, and_true]
  exact ⟨item.unquoted _ (by simp), item.unquoted _ (by simp), bare (item.unmarked _ (by simp)),
    bare (item.unmarked _ (by simp))⟩

/-- A row of values as a text: the separator stands between neighbours and white space
around all of them, and a comma or the separator may be left dangling at the end. -/
inductive Lists (separator : Char) : List Text → Text → Prop
  | blank {gap : Text} (blank : IsGap gap) : Lists separator [] gap
  | dangling {gap behind : Text} {mark : Char} (blank : IsGap gap)
      (dangles : mark = ',' ∨ mark = separator) (blankBehind : IsGap behind) :
      Lists separator [] (gap ++ mark :: behind)
  | last {gap value ending : Text} (blank : IsGap gap) (ends : Lists separator [] ending) :
      Lists separator [value] (gap ++ value ++ ending)
  | more {gap value behind next text : Text} {others : List Text} (blank : IsGap gap)
      (blankBehind : IsGap behind) (rest : Lists separator (next :: others) text) :
      Lists separator (value :: next :: others) (gap ++ value ++ behind ++ separator :: text)

/-- Values that stand on one line, and the text that lists them. -/
structure Row (separator : Char) where
  values : List Text
  text : Text
  lists : Lists separator values text

section

variable {separator mark : Char} {values : List Text} {text : Text}

theorem isMargin_of_cases {letter : Char} (margin : isBlank letter ∨ isSeparator letter) :
    isMargin letter := by
  rcases margin with blank | separates
  · simp [isMargin, blank]
  · simp [isMargin, separates]

theorem isBlank_of_isSeparator {letter : Char} (separates : isSeparator letter) :
    isBlank letter = false := by
  simp only [isSeparator, Bool.or_eq_true, beq_iff_eq] at separates
  rcases separates with rfl | rfl <;> decide

theorem isBrace_of_isSeparator {letter : Char} (separates : isSeparator letter) :
    isBrace letter = false := by
  simp only [isSeparator, Bool.or_eq_true, beq_iff_eq] at separates
  rcases separates with rfl | rfl <;> decide

theorem isBrace_of_isBlank {letter : Char} (blank : isBlank letter) : isBrace letter = false := by
  rw [isBrace, Bool.or_eq_false_iff, beq_eq_false_iff_ne, beq_eq_false_iff_ne]
  constructor
  · rintro rfl
    contradiction
  · rintro rfl
    contradiction

/-- A row is made of white space, commas, its separator and its values. -/
theorem Lists.mem_cases (lists : Lists separator values text) {letter : Char}
    (inside : letter ∈ text) :
    isBlank letter ∨ letter = ',' ∨ letter = separator ∨ ∃ value ∈ values, letter ∈ value := by
  induction lists with
  | blank blank => exact .inl (blank letter inside)
  | dangling blank dangles blankBehind =>
      rcases List.mem_append.mp inside with inGap | inRest
      · exact .inl (blank letter inGap)
      rcases List.mem_cons.mp inRest with rfl | inBehind
      · rcases dangles with comma | same
        · exact .inr (.inl comma)
        · exact .inr (.inr (.inl same))
      · exact .inl (blankBehind letter inBehind)
  | @last gap value ending blank ends inductionHypothesis =>
      rw [List.mem_append, List.mem_append] at inside
      rcases inside with (inGap | inValue) | inEnding
      · exact .inl (blank letter inGap)
      · exact .inr (.inr (.inr ⟨value, List.mem_cons_self, inValue⟩))
      · rcases inductionHypothesis inEnding with space | comma | same | ⟨_, none, _⟩
        · exact .inl space
        · exact .inr (.inl comma)
        · exact .inr (.inr (.inl same))
        · contradiction
  | @more gap value behind next text others blank blankBehind rest inductionHypothesis =>
      rw [List.mem_append, List.mem_append, List.mem_append, List.mem_cons] at inside
      rcases inside with ((inGap | inValue) | inBehind) | rfl | inRest
      · exact .inl (blank letter inGap)
      · exact .inr (.inr (.inr ⟨value, List.mem_cons_self, inValue⟩))
      · exact .inl (blankBehind letter inBehind)
      · exact .inr (.inr (.inl rfl))
      · rcases inductionHypothesis inRest with space | comma | same | ⟨other, listed, inOther⟩
        · exact .inl space
        · exact .inr (.inl comma)
        · exact .inr (.inr (.inl same))
        · exact .inr (.inr (.inr ⟨other, List.mem_cons_of_mem value listed, inOther⟩))

/-- Where no value is left, there is nothing but white space and separators. -/
theorem Lists.ending (lists : Lists separator [] text) (separates : isSeparator separator) :
    ∀ letter ∈ text, isBlank letter ∨ isSeparator letter := by
  intro letter inside
  rcases lists.mem_cases inside with space | rfl | rfl | ⟨_, none, _⟩
  · exact .inl space
  · exact .inr rfl
  · exact .inr separates
  · contradiction

/-- There are no braces in a row. -/
theorem Lists.unbraced (lists : Lists separator values text) (separates : isSeparator separator)
    (items : ∀ value ∈ values, IsItem value) : IsClear isBrace text := by
  intro letter inside
  rcases lists.mem_cases inside with space | rfl | rfl | ⟨value, listed, inValue⟩
  · exact isBrace_of_isBlank space
  · rfl
  · exact isBrace_of_isSeparator separates
  · exact (Bool.or_eq_false_iff.mp ((items value listed).isClear letter inValue)).2

/-! ## What a row is cut into -/

/-- The values in a text that is cut at a mark. -/
def cells (mark : Char) (text : Text) : List Text :=
  ((pieces mark text).map (strip isMargin)).filter (fun value => !value.isEmpty)

theorem read_eq_flatMap (lines : List Text) :
    read lines =
      lines.flatMap fun line => cells (ValueList.separator lines) (inside (trim line)) := by
  simp only [read, cells, List.map_flatMap, List.filter_flatMap]

/-- The values on both sides of the mark make the values of the whole. -/
theorem cells_append (mark : Char) (text rest : Text) :
    cells mark (text ++ mark :: rest) = cells mark text ++ cells mark rest := by
  rw [cells, pieces, List.splitOn_append_cons_self, List.map_append, List.filter_append]
  rfl

/-- There are no values where there is nothing but white space and separators. -/
theorem cells_eq_nil (margin : ∀ letter ∈ text, isBlank letter ∨ isSeparator letter) :
    cells mark text = [] := by
  rw [cells, List.filter_eq_nil_iff]
  intro value listed
  obtain ⟨piece, cut, rfl⟩ := List.mem_map.mp listed
  have empty : strip isMargin piece = [] :=
    strip_eq_nil_iff.mpr fun letter inside =>
      isMargin_of_cases (margin letter (mem_of_mem_pieces cut inside).1)
  simp [empty]

/-- A value is cut out of the white space and separators around it. -/
theorem cells_value {before value behind : Text} (item : IsItem value)
    (marked : isSeparator mark) (blank : IsGap before)
    (margin : ∀ letter ∈ behind, isBlank letter ∨ isSeparator letter) :
    cells mark (before ++ value ++ behind) = [value] := by
  have alone : ∀ behind : Text, mark ∉ behind →
      (∀ letter ∈ behind, isBlank letter ∨ isSeparator letter) →
      cells mark (before ++ value ++ behind) = [value] := by
    intro behind unmarkedBehind margin
    have unmarked : mark ∉ before ++ value ++ behind := by
      rw [List.mem_append, List.mem_append]
      rintro ((inBefore | inValue) | inBehind)
      · exact absurd (blank mark inBefore) (by simp [isBlank_of_isSeparator marked])
      · exact absurd (item.isClear mark inValue) (by simp [isMark, marked])
      · exact unmarkedBehind inBehind
    have stripped : strip isMargin (before ++ value ++ behind) = value :=
      strip_append (fun letter inside => isMargin_of_cases (.inl (blank letter inside)))
        item.stripped (fun letter inside => isMargin_of_cases (margin letter inside))
    rw [cells, pieces, List.splitOn_eq_singleton unmarked, List.map_singleton, stripped]
    simp [item.nonempty]
  rcases isClear_or_exists_mark (· == mark) behind with
    clear | ⟨front, other, rest, rfl, clear, found⟩
  · exact alone behind (isClear_beq_iff.mp clear) margin
  · obtain rfl : other = mark := by simpa using found
    rw [← List.append_assoc, cells_append, alone front (isClear_beq_iff.mp clear)
      fun letter inside => margin letter (List.mem_append_left _ inside)]
    rw [cells_eq_nil fun letter inside => margin letter (by simp [inside])]
    rfl

/-- A row is cut into its values.  The mark must be the separator unless there is no
separator in the row. -/
theorem Lists.cells_eq (lists : Lists separator values text)
    (items : ∀ value ∈ values, IsItem value) (separates : isSeparator separator)
    (marked : isSeparator mark) (same : separator ∈ text → mark = separator) :
    cells mark text = values := by
  induction lists with
  | blank blank => exact cells_eq_nil fun letter inside => .inl (blank letter inside)
  | dangling blank dangles blankBehind =>
      exact cells_eq_nil (Lists.ending (.dangling blank dangles blankBehind) separates)
  | last blank ends _ =>
      exact cells_value (items _ List.mem_cons_self) marked blank (ends.ending separates)
  | @more gap value behind next text others blank blankBehind rest inductionHypothesis =>
      rw [List.forall_mem_cons] at items
      obtain rfl : mark = separator := same (by simp)
      have first : cells mark (gap ++ value ++ behind) = [value] :=
        cells_value items.1 marked blank fun letter inside => .inl (blankBehind letter inside)
      rw [cells_append, first, inductionHypothesis items.2 fun _ => rfl]
      rfl

/-! ## Rows and directives -/

/-- Whether a character ends a word in a row. -/
def endsWord (letter : Char) : Bool :=
  isBlank letter || isMark letter

theorem endsWord_of_cases {letter : Char}
    (ends : (isBlank letter ∨ isSeparator letter) ∨ isBrace letter) : endsWord letter := by
  rcases ends with (blank | separates) | brace
  · simp [endsWord, blank]
  · simp [endsWord, isMark, separates]
  · simp [endsWord, isMark, brace]

theorem undirected_append {value rest : Text} (undirected : ¬"Format:".toList <+: value)
    (ends : ∀ letter ∈ rest.head?, endsWord letter) : ¬"Format:".toList <+: value ++ rest :=
  fun directed => undirected (begins_of_begins_append (by decide) ends directed)

theorem undirected_of_head {rest : Text} (ends : ∀ letter ∈ rest.head?, endsWord letter) :
    ¬"Format:".toList <+: rest := by
  have empty : ¬"Format:".toList <+: [] := by decide
  exact undirected_append empty ends

/-- A value behind white space is not taken for a directive. -/
theorem undirected_value {gap value rest : Text} (item : IsItem value) (blank : IsGap gap)
    (ends : ∀ letter ∈ rest.head?, endsWord letter) :
    ¬"Format:".toList <+: gap ++ value ++ rest := by
  cases gap with
  | nil => exact undirected_append item.undirected ends
  | cons first others =>
      refine undirected_of_head fun letter leads => ?_
      obtain rfl : first = letter := Option.some.inj leads
      exact endsWord_of_cases (.inl (.inl (blank first List.mem_cons_self)))

/-- A row, closed or not, is not taken for a directive. -/
theorem Lists.undirected (lists : Lists separator values text)
    (items : ∀ value ∈ values, IsItem value) (separates : isSeparator separator) {closing : Text}
    (braces : ∀ letter ∈ closing, isBrace letter) : ¬"Format:".toList <+: text ++ closing := by
  have ending : ∀ {text}, Lists separator [] text →
      ∀ letter ∈ (text ++ closing).head?, endsWord letter := by
    intro text lists letter leads
    rcases List.mem_append.mp (List.mem_of_mem_head? leads) with inText | inClosing
    · exact endsWord_of_cases (.inl (lists.ending separates letter inText))
    · exact endsWord_of_cases (.inr (braces letter inClosing))
  cases lists with
  | blank blank => exact undirected_of_head (ending (.blank blank))
  | dangling blank dangles blankBehind =>
      exact undirected_of_head (ending (.dangling blank dangles blankBehind))
  | last blank ends =>
      rw [List.append_assoc]
      exact undirected_value (items _ List.mem_cons_self) blank (ending ends)
  | @more gap value behind next text others blank blankBehind rest =>
      rw [List.append_assoc, List.append_assoc]
      refine undirected_value (items _ List.mem_cons_self) blank fun letter leads => ?_
      cases behind with
      | nil =>
          obtain rfl : separator = letter := Option.some.inj leads
          exact endsWord_of_cases (.inl (.inr separates))
      | cons first _ =>
          obtain rfl : first = letter := Option.some.inj leads
          exact endsWord_of_cases (.inl (.inl (blankBehind first List.mem_cons_self)))

/-! ## Rows in braces -/

/-- A row with or without braces at its ends, as it stands on a line. -/
structure Braced (separator : Char) where
  row : Row separator
  opening : Text
  closing : Text
  opens : ∀ letter ∈ opening, isBrace letter
  closes : ∀ letter ∈ closing, isBrace letter

/-- The line that a row stands on. -/
def Braced.line (braced : Braced separator) : Text :=
  braced.opening ++ braced.row.text ++ braced.closing

section

variable {rows : List (Braced separator)} (separates : isSeparator separator)
  (items : ∀ braced ∈ rows, ∀ value ∈ braced.row.values, IsItem value)

include separates items

/-- Bars stand on lines only if they are the separator. -/
theorem separator_eq_of_mem {braced : Braced separator} (listed : braced ∈ rows)
    (inside : separator ∈ braced.row.text) :
    ValueList.separator (rows.map Braced.line) = separator := by
  have onLine : separator ∈ braced.line := by simp [Braced.line, inside]
  by_cases bar : separator = '|'
  · subst bar
    have barred : (rows.map Braced.line).any (fun line => line.contains '|') :=
      List.any_eq_true.mpr ⟨braced.line, List.mem_map_of_mem listed, by simpa using onLine⟩
    rw [ValueList.separator, if_pos barred]
  · have comma : separator = ',' := by
      simpa [isSeparator, bar] using separates
    have plain : ¬(rows.map Braced.line).any (fun line => line.contains '|') := by
      rw [List.any_eq_true]
      rintro ⟨line, mapped, barred⟩
      obtain ⟨other, otherListed, rfl⟩ := List.mem_map.mp mapped
      have inLine : '|' ∈ other.line := by simpa using barred
      rw [Braced.line, List.mem_append, List.mem_append] at inLine
      rcases inLine with (inOpening | inText) | inClosing
      · exact absurd (other.opens '|' inOpening) (by decide)
      · rcases other.row.lists.mem_cases inText with space | comma | same | ⟨value, given, inValue⟩
        · exact absurd space (by decide)
        · exact absurd comma (by decide)
        · exact bar same.symm
        · exact (items other otherListed value given).unmarked '|' List.mem_cons_self inValue
      · exact absurd (other.closes '|' inClosing) (by decide)
    rw [ValueList.separator, if_neg plain, comma]

/-- The values on the lines are read, whatever is around them. -/
theorem read_rows (trimmed : ∀ braced ∈ rows, IsStripped isBlank braced.line) :
    read (rows.map Braced.line) = rows.flatMap fun braced => braced.row.values := by
  have marked : isSeparator (ValueList.separator (rows.map Braced.line)) := by
    unfold ValueList.separator
    split <;> rfl
  rw [read_eq_flatMap, List.flatMap_map]
  apply List.flatMap_congr
  intro braced listed
  have unbraced := braced.row.lists.unbraced separates (items braced listed)
  have row : inside (trim braced.line) = braced.row.text := by
    rw [trim_eq_self (trimmed braced listed)]
    exact strip_append braced.opens unbraced.isStripped braced.closes
  rw [row]
  exact braced.row.lists.cells_eq (items braced listed) separates marked
    (separator_eq_of_mem separates items listed)

end

end

end ValueList

end BootManual
