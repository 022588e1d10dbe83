import BootManual.Proofs.Dialect
import BootManual.Proofs.HeaderReading

/-!
# Reading written headers

The parts of a written header are found again one after another: the name up to the
first space, the flags in their brackets, and the hint behind its directive.
-/

namespace BootManual

namespace Text

/-! ## Tokens and what follows them -/

variable {token rest : Text}

theorem isStripped_spaced (nonempty : token ≠ []) (clear : IsClear isBlank token)
    (trimmed : IsStripped isBlank rest) : IsStripped isBlank (spaced token rest) := by
  cases rest with
  | nil => exact clear.isStripped
  | cons letter behind =>
      have last : ∀ other ∈ (' ' :: letter :: behind).getLast?, isBlank other = false := by
        simpa using trimmed.last
      exact isStripped_append nonempty (List.cons_ne_nil _ _) clear.isStripped.head last

/-- A token without white space is cut off again, and the rest comes back whole. -/
theorem cutToken_spaced (clear : IsClear isBlank token) (trimmed : IsStripped isBlank rest) :
    cutToken (spaced token rest) = (token, rest) := by
  cases rest with
  | nil => exact cutToken_of_isClear clear
  | cons letter behind =>
      change cutToken (token ++ ' ' :: letter :: behind) = _
      rw [cutToken_append clear (by decide), trim_eq_self trimmed]

theorem mem_spaced {letter : Char} (inside : letter ∈ spaced token rest) :
    letter ∈ token ∨ letter = ' ' ∨ letter ∈ rest := by
  cases rest with
  | nil => exact .inl inside
  | cons first behind =>
      change letter ∈ token ++ ' ' :: first :: behind at inside
      rw [List.mem_append, List.mem_cons] at inside
      exact inside

end Text

namespace Header

open Text

/-! ## Flags -/

section

variable {flags : List Text} (writable : AreWritableFlags flags)

include writable

theorem head?_join_flags (letter : Char) (first : letter ∈ (join [','] flags).head?) :
    (letter == '[') = false := by
  cases flags with
  | nil => contradiction
  | cons flag others =>
      rw [head?_join (writable.each flag List.mem_cons_self).nonempty] at first
      rw [beq_eq_false_iff_ne]
      rintro rfl
      exact writable.first flag rfl first

theorem getLast?_join_flags (letter : Char) (last : letter ∈ (join [','] flags).getLast?) :
    (letter == ']') = false := by
  rcases List.eq_nil_or_concat' flags with rfl | ⟨others, flag, rfl⟩
  · contradiction
  · rw [getLast?_join (writable.each flag (by simp)).nonempty] at last
    rw [beq_eq_false_iff_ne]
    rintro rfl
    exact writable.last flag (by simp) last

/-- Flags are found between their brackets. -/
theorem readFlags_writeFlags : readFlags (writeFlags flags) = flags := by
  have front : (writeFlags flags).dropWhile (· == '[') = join [','] flags ++ [']'] := by
    rw [writeFlags, List.cons_append, List.dropWhile_cons_of_pos (by decide)]
    apply dropWhile_eq_self
    intro letter first
    rw [List.head?_append, Option.mem_def, Option.or_eq_some_iff] at first
    rcases first with inFlags | ⟨-, bracket⟩
    · exact head?_join_flags writable letter inFlags
    · rw [← Option.some.inj bracket]
      decide
  have inner : dropEndWhile (· == ']') (join [','] flags ++ [']']) = join [','] flags :=
    dropEndWhile_append (getLast?_join_flags writable) (by simp)
  rw [readFlags, front, inner]
  by_cases empty : flags = []
  · rw [empty]
    rfl
  · rw [pieces_join empty fun flag listed => (writable.each flag listed).single,
      List.filter_eq_self]
    intro flag listed
    simpa using (writable.each flag listed).nonempty

theorem isClear_writeFlags : IsClear isBlank (writeFlags flags) := by
  intro letter inside
  rw [writeFlags, List.cons_append, List.mem_cons, List.mem_append, List.mem_singleton] at inside
  rcases inside with rfl | inFlags | rfl
  · decide
  · rcases mem_of_mem_join inFlags with comma | ⟨flag, listed, inFlag⟩
    · rw [List.mem_singleton.mp comma]
      decide
    · exact (writable.each flag listed).solid letter inFlag
  · decide

omit writable in
theorem isFlagList_writeFlags (flags : List Text) : isFlagList (writeFlags flags) = true := by
  have last : (writeFlags flags).getLast? = some ']' := List.getLast?_concat
  exact isFlagList_iff.mpr ⟨rfl, last⟩

end

/-! ## Hints -/

theorem isStripped_directive {text : Text} (phrase : IsPhrase text) :
    IsStripped isBlank (formatDirective ++ text) := by
  apply isStripped_append (List.cons_ne_nil _ _) phrase.nonempty
  · intro letter first
    rw [← Option.some.inj first]
    rfl
  · exact phrase.trimmed.last

/-- A directive is found unless it has a brace. -/
theorem inlineFormat_directive {text : Text} (phrase : IsPhrase text) :
    inlineFormat (formatDirective ++ text) = if text.any isBrace then none else some text := by
  have behind : after? formatDirective (formatDirective ++ text) = some text :=
    after?_eq_some_iff.mpr rfl
  simp [inlineFormat, behind, trim_eq_self phrase.trimmed, phrase.nonempty]

section

variable {hint : Option Text} (writable : ∀ text ∈ hint, IsWritablePhrase text)

theorem head?_writeHint (hint : Option Text) : (writeHint hint).head? ≠ some '[' := by
  cases hint with
  | none =>
      change none ≠ some '['
      decide
  | some text =>
      change some 'F' ≠ some '['
      decide

include writable

theorem isStripped_writeHint : IsStripped isBlank (writeHint hint) := by
  cases hint with
  | none => exact isStripped_nil isBlank
  | some text => exact isStripped_directive (writable text rfl).toIsPhrase

/-- A hint is found behind its directive. -/
theorem inlineFormat_writeHint : inlineFormat (writeHint hint) = hint := by
  cases hint with
  | none => rfl
  | some text =>
      have phrase := writable text rfl
      have found := inlineFormat_directive phrase.toIsPhrase
      rw [phrase.isClear.any_eq_false] at found
      rw [writeHint_some, found]
      rfl

end

/-! ## The whole header -/

/-- A text that does not begin with a bracket begins with no flags. -/
theorem splitFlags_of_head? {text : Text} (head : text.head? ≠ some '[') :
    splitFlags text = (none, text) := by
  have unbracketed : isFlagList (cutToken text).1 = false := by
    cases opens : (cutToken text).1 with
    | nil => rfl
    | cons letter behind =>
        have first : letter ∈ text.head? :=
          mem_head?_of_begins (cutToken_spec text).2.2 (by rw [opens]; rfl)
        have different : '[' ≠ letter := by
          rintro rfl
          exact head first
        simp [isFlagList, startsWith, different]
  simp [splitFlags, unbracketed]

variable {flags : Option (List Text)} {hint : Option Text}

/-- What stands behind the name comes apart into the flags and the hint. -/
theorem splitFlags_writeRest (flagged : ∀ given ∈ flags, AreWritableFlags given)
    (hinted : ∀ text ∈ hint, IsWritablePhrase text) :
    splitFlags (writeRest flags hint) = (flags, writeHint hint) := by
  cases flags with
  | none => exact splitFlags_of_head? (head?_writeHint hint)
  | some given =>
      have writable := flagged given rfl
      have cut := cutToken_spaced (isClear_writeFlags writable) (isStripped_writeHint hinted)
      simp [splitFlags, writeRest, cut, isFlagList_writeFlags given,
        readFlags_writeFlags writable]

theorem isStripped_writeRest (flagged : ∀ given ∈ flags, AreWritableFlags given)
    (hinted : ∀ text ∈ hint, IsWritablePhrase text) :
    IsStripped isBlank (writeRest flags hint) := by
  cases flags with
  | none => exact isStripped_writeHint hinted
  | some given =>
      exact isStripped_spaced (List.cons_ne_nil _ _) (isClear_writeFlags (flagged given rfl))
        (isStripped_writeHint hinted)

variable {name : Text}

theorem startsName_write (named : IsName name) (flags : Option (List Text))
    (hint : Option Text) : Line.startsName (write name flags hint) := by
  rcases Line.startsName_iff.mp named.startsName with ⟨letter, behind, rfl, alphanumeric⟩
  rw [write]
  cases writeRest flags hint with
  | nil => exact alphanumeric
  | cons first rest => exact alphanumeric

theorem isStripped_write (named : IsName name)
    (flagged : ∀ given ∈ flags, AreWritableFlags given)
    (hinted : ∀ text ∈ hint, IsWritablePhrase text) :
    IsStripped isBlank (write name flags hint) :=
  isStripped_spaced named.ne_nil named.solid (isStripped_writeRest flagged hinted)

/-- A written header is read back. -/
theorem read?_write (named : IsName name) (flagged : ∀ given ∈ flags, AreWritableFlags given)
    (hinted : ∀ text ∈ hint, IsWritablePhrase text) :
    read? (write name flags hint) = some ⟨name, flags, hint, []⟩ := by
  have trimmed : trim (write name flags hint) = spaced name (writeRest flags hint) :=
    trim_eq_self (isStripped_write named flagged hinted)
  have cut := cutToken_spaced named.solid (isStripped_writeRest flagged hinted)
  have nonempty : ¬name.isEmpty := by
    simpa using named.ne_nil
  have unglued : ¬(name = gluedName ∧ none = some gluedFlags) := fun both => by
    simpa using both.2
  simp only [read?, trimmed, cut, readName_of_plain named.plain, if_neg nonempty,
    if_neg unglued, splitFlags_writeRest flagged hinted, inlineFormat_writeHint hinted]
  cases hint with
  | none => rfl
  | some text => rfl

/-! ## No line breaks -/

theorem newline_not_mem_writeHint (hinted : ∀ text ∈ hint, IsWritablePhrase text) :
    '\n' ∉ writeHint hint := by
  intro inside
  cases hint with
  | none => contradiction
  | some text =>
      rcases List.mem_append.mp inside with inDirective | inText
      · exact absurd inDirective (by decide)
      · exact (hinted text rfl).oneLine inText

theorem newline_not_mem_writeRest (flagged : ∀ given ∈ flags, AreWritableFlags given)
    (hinted : ∀ text ∈ hint, IsWritablePhrase text) : '\n' ∉ writeRest flags hint := by
  intro inside
  cases flags with
  | none => exact newline_not_mem_writeHint hinted inside
  | some given =>
      rcases mem_spaced inside with inFlags | space | inHint
      · exact absurd (isClear_writeFlags (flagged given rfl) '\n' inFlags) (by decide)
      · exact absurd space (by decide)
      · exact newline_not_mem_writeHint hinted inHint

theorem newline_not_mem_write (named : IsName name)
    (flagged : ∀ given ∈ flags, AreWritableFlags given)
    (hinted : ∀ text ∈ hint, IsWritablePhrase text) : '\n' ∉ write name flags hint := by
  intro inside
  rcases mem_spaced inside with inName | space | inRest
  · exact absurd (named.solid '\n' inName) (by decide)
  · exact absurd space (by decide)
  · exact newline_not_mem_writeRest flagged hinted inRest

end Header

end BootManual
