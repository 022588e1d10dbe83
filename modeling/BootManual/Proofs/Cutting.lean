import BootManual.Text.Split
import BootManual.Proofs.Trimming

/-!
# What cutting finds

A text is clear of a class if none of its characters is in the class.  What
stands in front of a cut is clear of the class that it was cut at, and so is every
piece between separators.  In the other direction, parts that are clear of the
separator are found again in the text that joins them.
-/

namespace BootManual.Text

variable {test : Char → Bool} {text token rest : Text}

/-- No character passes the test. -/
def IsClear (test : Char → Bool) (text : Text) : Prop :=
  ∀ letter ∈ text, test letter = false

instance (test : Char → Bool) (text : Text) : Decidable (IsClear test text) :=
  List.decidableBAll _ text

theorem IsClear.isStripped (clear : IsClear test text) : IsStripped test text where
  head letter first := clear letter (List.mem_of_mem_head? first)
  last letter last := clear letter (List.mem_of_mem_getLast? last)

theorem IsClear.any_eq_false (clear : IsClear test text) : text.any test = false := by
  rw [List.any_eq_false]
  intro letter inside
  simp [clear letter inside]

theorem any_of_not_isClear (mixed : ¬IsClear test text) : text.any test = true := by
  by_contra none
  rw [List.any_eq_true, not_exists] at none
  apply mixed
  intro letter inside
  rw [← Bool.not_eq_true]
  exact fun passes => none letter ⟨inside, passes⟩

theorem isClear_beq_iff {mark : Char} : IsClear (· == mark) text ↔ mark ∉ text := by
  constructor
  · intro clear inside
    simpa using clear mark inside
  · intro absent letter inside
    simpa using fun same : letter = mark => absent (same ▸ inside)

theorem isClear_isBrace_iff : IsClear isBrace text ↔ '\x7b' ∉ text ∧ '\x7d' ∉ text := by
  rw [← isClear_beq_iff, ← isClear_beq_iff, IsClear, IsClear, IsClear, ← forall₂_and]
  simp only [isBrace, Bool.or_eq_false_iff]

/-! ## Cutting at a class -/

theorem takeWhile_append_mark (clear : IsClear test token) {mark : Char} (found : test mark) :
    (token ++ mark :: rest).takeWhile (fun letter => !test letter) = token := by
  rw [List.takeWhile_append_of_pos (fun letter inside => by simp [clear letter inside])]
  simp [found]

theorem dropWhile_append_mark (clear : IsClear test token) {mark : Char} (found : test mark) :
    (token ++ mark :: rest).dropWhile (fun letter => !test letter) = mark :: rest := by
  rw [List.dropWhile_append_of_pos (fun letter inside => by simp [clear letter inside])]
  simp [found]

/-- A text is cut at its first character of the class. -/
theorem cutAt?_append (clear : IsClear test token) {mark : Char} (found : test mark) :
    cutAt? test (token ++ mark :: rest) = some (token, rest) := by
  rw [cutAt?, takeWhile_append_mark clear found, dropWhile_append_mark clear found]

/-- A text that is clear of the class is not cut. -/
theorem cutAt?_of_isClear (clear : IsClear test text) : cutAt? test text = none := by
  have gone : text.dropWhile (fun letter => !test letter) = [] :=
    List.dropWhile_eq_nil_iff.mpr fun letter inside => by simp [clear letter inside]
  rw [cutAt?, gone]

/-- Every text is clear of the class or has a first character in it. -/
theorem isClear_or_exists_mark (test : Char → Bool) (text : Text) :
    IsClear test text ∨ ∃ token mark rest,
      text = token ++ mark :: rest ∧ IsClear test token ∧ test mark := by
  induction text with
  | nil => exact .inl (by simp [IsClear])
  | cons letter rest inductionHypothesis =>
      cases passes : test letter with
      | true => exact .inr ⟨[], letter, rest, rfl, by simp [IsClear], passes⟩
      | false =>
          rcases inductionHypothesis with clear | ⟨token, mark, behind, rfl, clear, found⟩
          · exact .inl (by simpa [IsClear, passes] using clear)
          · exact .inr ⟨letter :: token, mark, behind, rfl,
              by simpa [IsClear, passes] using clear, found⟩

/-! ## Tokens -/

/-- A text without white space is all token. -/
theorem cutToken_of_isClear (clear : IsClear isBlank text) : cutToken text = (text, []) := by
  rw [cutToken, cutAt?_of_isClear clear]

/-- A token ends at the first white space. -/
theorem cutToken_append (clear : IsClear isBlank token) {gap : Char} (blank : isBlank gap) :
    cutToken (token ++ gap :: rest) = (token, trim rest) := by
  rw [cutToken, cutAt?_append clear blank]

/-- A token is clear of white space, and the text behind it is trimmed. -/
theorem cutToken_spec (text : Text) :
    IsClear isBlank (cutToken text).1 ∧ IsStripped isBlank (cutToken text).2 ∧
      (cutToken text).1 <+: text := by
  rcases isClear_or_exists_mark isBlank text with clear | ⟨token, gap, rest, rfl, clear, blank⟩
  · rw [cutToken_of_isClear clear]
    exact ⟨clear, isStripped_nil isBlank, List.prefix_rfl⟩
  · rw [cutToken_append clear blank]
    exact ⟨clear, isStripped_trim rest, List.prefix_append token _⟩

/-- Behind a token stands white space or nothing. -/
theorem exists_cutToken_append (text : Text) :
    ∃ rest, text = (cutToken text).1 ++ rest ∧ ∀ letter ∈ rest.head?, isBlank letter := by
  rcases isClear_or_exists_mark isBlank text with clear | ⟨token, gap, rest, rfl, clear, blank⟩
  · rw [cutToken_of_isClear clear]
    exact ⟨[], (List.append_nil text).symm, nofun⟩
  · rw [cutToken_append clear blank]
    exact ⟨gap :: rest, rfl, fun letter first => Option.some.inj first ▸ blank⟩

/-- A text that begins with something visible begins with a token. -/
theorem exists_cutToken_cons {letter : Char} (visible : isBlank letter = false) (rest : Text) :
    ∃ behind, (cutToken (letter :: rest)).1 = letter :: behind := by
  rcases isClear_or_exists_mark isBlank rest with clear | ⟨token, gap, behind, rfl, clear, blank⟩
  · rw [cutToken_of_isClear (by simpa [IsClear, visible] using clear)]
    exact ⟨rest, rfl⟩
  · have solid : IsClear isBlank (letter :: token) := by simpa [IsClear, visible] using clear
    rw [← List.cons_append, cutToken_append solid blank]
    exact ⟨token, rfl⟩

/-! ## Openings -/

theorem startsWith_singleton_iff {first : Char} :
    startsWith [first] text ↔ text.head? = some first := by
  cases text with
  | nil => simp [startsWith]
  | cons letter rest =>
      simp only [startsWith, List.isPrefixOf, Bool.and_true, beq_iff_eq, List.head?_cons,
        Option.some.injEq]
      exact eq_comm

theorem after?_eq_some_iff {opening : Text} :
    after? opening text = some rest ↔ text = opening ++ rest := by
  induction opening generalizing text with
  | nil => simp [after?, List.isPrefixOf?, eq_comm]
  | cons first others inductionHypothesis =>
      cases text with
      | nil => simp [after?, List.isPrefixOf?]
      | cons letter behind =>
          simp only [after?] at inductionHypothesis ⊢
          by_cases same : first = letter
          · simp [List.isPrefixOf?, same, inductionHypothesis]
          · simp [List.isPrefixOf?, same, Ne.symm same]

theorem after?_eq_none_iff {opening : Text} : after? opening text = none ↔ ¬opening <+: text := by
  rw [Option.eq_none_iff_forall_ne_some]
  constructor
  · rintro nowhere ⟨rest, rfl⟩
    exact nowhere rest (after?_eq_some_iff.mpr rfl)
  · rintro absent rest found
    exact absent ⟨rest, (after?_eq_some_iff.mp found).symm⟩

/-! ## Pieces -/

/-- A piece holds characters of the text only, and never the separator. -/
theorem mem_of_mem_pieces {separator : Char} {piece : Text}
    (listed : piece ∈ pieces separator text) {letter : Char} (inside : letter ∈ piece) :
    letter ∈ text ∧ letter ≠ separator := by
  induction text generalizing piece with
  | nil =>
      simp only [pieces, List.splitOn_nil, List.mem_singleton] at listed
      simp [listed] at inside
  | cons first others inductionHypothesis =>
      rw [pieces, List.splitOn_cons_eq_if_modifyHead] at listed
      split at listed
      · rcases List.mem_cons.mp listed with rfl | later
        · simp at inside
        · have found := inductionHypothesis later inside
          exact ⟨List.mem_cons_of_mem _ found.1, found.2⟩
      · next different =>
        obtain ⟨head, tail, split⟩ :=
          List.exists_cons_of_ne_nil (List.splitOn_ne_nil separator others)
        rw [split, List.modifyHead_cons] at listed
        rcases List.mem_cons.mp listed with rfl | later
        · rcases List.mem_cons.mp inside with rfl | inHead
          · exact ⟨List.mem_cons_self, by simpa using different⟩
          · have listed : head ∈ pieces separator others := by simp [pieces, split]
            have found := inductionHypothesis listed inHead
            exact ⟨List.mem_cons_of_mem _ found.1, found.2⟩
        · have found := inductionHypothesis (by simp [pieces, split, later]) inside
          exact ⟨List.mem_cons_of_mem _ found.1, found.2⟩

/-- Parts that are clear of the separator are the pieces of the text that joins
them. -/
theorem pieces_join {separator : Char} {parts : List Text} (nonempty : parts ≠ [])
    (clear : ∀ part ∈ parts, separator ∉ part) :
    pieces separator (join [separator] parts) = parts :=
  List.splitOn_intercalate separator clear nonempty

/-! ## Joined parts -/

theorem join_singleton (separator part : Text) : join separator [part] = part :=
  List.intercalate_singleton

theorem join_cons (separator first : Text) {others : List Text} (nonempty : others ≠ []) :
    join separator (first :: others) = first ++ separator ++ join separator others :=
  List.intercalate_cons_of_ne_nil nonempty

/-- A separator in front of every part is one in front of the joined parts. -/
theorem flatMap_cons {separator : Char} {parts : List Text} (nonempty : parts ≠ []) :
    parts.flatMap (separator :: ·) = separator :: join [separator] parts := by
  induction parts with
  | nil => contradiction
  | cons first others inductionHypothesis =>
      by_cases empty : others = []
      · simp [empty, join]
      · rw [List.flatMap_cons, inductionHypothesis empty, join_cons _ first empty]
        simp

theorem head?_join {separator first : Text} (nonempty : first ≠ []) (others : List Text) :
    (join separator (first :: others)).head? = first.head? := by
  cases others with
  | nil => rw [join_singleton]
  | cons second rest =>
      rw [join_cons separator first (List.cons_ne_nil second rest), List.append_assoc,
        List.head?_append_of_ne_nil first nonempty]

theorem getLast?_join {separator last : Text} (nonempty : last ≠ []) (others : List Text) :
    (join separator (others ++ [last])).getLast? = last.getLast? := by
  induction others with
  | nil => rw [List.nil_append, join_singleton]
  | cons first rest inductionHypothesis =>
      have next : join separator (rest ++ [last]) ≠ [] := by
        intro empty
        rw [empty] at inductionHypothesis
        exact nonempty (List.getLast?_eq_none_iff.mp inductionHypothesis.symm)
      rw [List.cons_append, join_cons separator first (by simp),
        List.getLast?_append_of_ne_nil _ next, inductionHypothesis]

theorem mem_of_mem_join {separator : Text} {parts : List Text} {letter : Char}
    (inside : letter ∈ join separator parts) :
    letter ∈ separator ∨ ∃ part ∈ parts, letter ∈ part := by
  induction parts with
  | nil => contradiction
  | cons first others inductionHypothesis =>
      by_cases empty : others = []
      · rw [empty, join_singleton] at inside
        exact .inr ⟨first, List.mem_cons_self, inside⟩
      · rw [join_cons separator first empty, List.append_assoc, List.mem_append,
          List.mem_append] at inside
        rcases inside with inFirst | inSeparator | later
        · exact .inr ⟨first, List.mem_cons_self, inFirst⟩
        · exact .inl inSeparator
        · rcases inductionHypothesis later with inSeparator | ⟨part, listed, inPart⟩
          · exact .inl inSeparator
          · exact .inr ⟨part, List.mem_cons_of_mem first listed, inPart⟩

end BootManual.Text
