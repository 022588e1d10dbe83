import BootManual.Proofs.Roles
import BootManual.Proofs.Shape

/-!
# What a header line gives

The role of a line promises that the text of a header begins with a letter or a
digit.  Such a text always gives a header, and every part of the header has the
shape it should have: the name because it begins like the text, flags and hints
because they are cut out of tokens, and inline formats because they are trimmed.
-/

namespace BootManual.Header

open Text

/-- The shape of a header. -/
structure IsSound (header : Header) : Prop where
  name : IsName header.name
  flags : ∀ flags ∈ header.flags, ∀ flag ∈ flags, IsFlag flag
  hint : ∀ hint ∈ header.hint, IsPhrase hint

/-! ## The first token -/

theorem readName_of_plain {token : Text} (plain : '=' ∉ token) :
    readName token = (token, none) := by
  rw [readName, cutAt?_of_isClear (isClear_beq_iff.mpr plain)]

theorem readName_append {name : Text} (plain : '=' ∉ name) (hint : Text) :
    readName (name ++ '=' :: hint) = (name, if hint.isEmpty then none else some hint) := by
  rw [readName, cutAt?_append (isClear_beq_iff.mpr plain) (by decide)]

/-- A token that begins with a letter or a digit and has no white space in it names
something, and its hint is a phrase. -/
theorem readName_spec {token : Text} (starts : Line.startsName token)
    (solid : IsClear isBlank token) :
    IsName (readName token).1 ∧ ∀ hint ∈ (readName token).2, IsPhrase hint := by
  rcases isClear_or_exists_mark (· == '=') token with plain | ⟨name, mark, hint, rfl, plain, found⟩
  · rw [readName_of_plain (isClear_beq_iff.mp plain)]
    exact ⟨⟨Line.startsName_iff_head.mp starts, solid, isClear_beq_iff.mp plain⟩, by simp⟩
  · obtain rfl : mark = '=' := by simpa using found
    rw [readName_append (isClear_beq_iff.mp plain)]
    constructor
    · refine ⟨Line.startsName_iff_head.mp ?_, fun letter inside => solid letter (by simp [inside]),
        isClear_beq_iff.mp plain⟩
      cases name with
      | nil =>
          have alphanumeric : Char.isAlphanum '=' = true := starts
          exact absurd alphanumeric (by decide)
      | cons letter rest => exact starts
    · intro found given
      split at given
      · simp at given
      · next nonempty =>
        obtain rfl : hint = found := by simpa using given
        have clear : IsClear isBlank hint := fun letter inside => solid letter (by simp [inside])
        exact ⟨by simpa using nonempty, clear.isStripped⟩

/-! ## Flags -/

theorem isFlagList_iff {token : Text} :
    isFlagList token ↔ token.head? = some '[' ∧ token.getLast? = some ']' := by
  rw [isFlagList, Bool.and_eq_true, startsWith_singleton_iff, endsWith, beq_iff_eq]

theorem isFlag_of_mem_readFlags {token flag : Text} (solid : IsClear isBlank token)
    (listed : flag ∈ readFlags token) : IsFlag flag := by
  obtain ⟨piece, nonempty⟩ := List.mem_filter.mp listed
  refine ⟨by simpa using nonempty, fun letter inside => ?_, fun comma => ?_⟩
  · have inBrackets := (mem_of_mem_pieces piece inside).1
    exact solid letter
      (List.dropWhile_subset _ ((dropEndWhile_begins _ _).subset inBrackets))
  · exact (mem_of_mem_pieces piece comma).2 rfl

theorem isFlag_of_splitFlags {text : Text} {flags : List Text}
    (given : flags ∈ (splitFlags text).1) {flag : Text} (listed : flag ∈ flags) :
    IsFlag flag := by
  simp only [splitFlags] at given
  split at given
  · obtain rfl : readFlags (cutToken text).1 = flags := by simpa using given
    exact isFlag_of_mem_readFlags (cutToken_spec text).1 listed
  · simp at given

/-! ## Inline formats -/

theorem isPhrase_of_inlineFormat {description format : Text}
    (directive : inlineFormat description = some format) : IsPhrase format := by
  simp only [inlineFormat] at directive
  split at directive
  · contradiction
  · next rest _ =>
    split at directive
    · contradiction
    · next nonempty =>
      obtain rfl := Option.some.inj directive
      exact ⟨fun empty => nonempty (by simp [empty]), isStripped_trim rest⟩

/-! ## The whole line -/

theorem isSound_gluedHeader {name description : Text} (named : IsName name) :
    IsSound ⟨name, some (readFlags gluedFlags), some gluedFormat, description⟩ where
  name := named
  flags flags given flag listed := by
    obtain rfl : readFlags gluedFlags = flags := by simpa using given
    have solid : IsClear isBlank gluedFlags := by decide
    exact isFlag_of_mem_readFlags solid listed
  hint hint given := by
    obtain rfl : gluedFormat = hint := by simpa using given
    exact ⟨by decide, by decide⟩

/-- The first token of a header begins like the header. -/
theorem startsName_cutToken {text : Text} (starts : Line.startsName text) :
    Line.startsName (cutToken (trim text)).1 := by
  obtain ⟨letter, behind, rfl, alphanumeric⟩ := Line.startsName_iff.mp starts
  have visible : isBlank letter = false := isBlank_eq_false_of_isAlphanum alphanumeric
  obtain ⟨others, first⟩ := exists_cutToken_cons visible (dropEndWhile isBlank behind)
  rw [trim, strip_cons visible, first]
  exact alphanumeric

/-- A text that begins with a letter or a digit gives a header of the right shape. -/
theorem exists_read? {text : Text} (starts : Line.startsName text) :
    ∃ header, read? text = some header ∧ header.IsSound := by
  obtain ⟨named, hinted⟩ :=
    readName_spec (startsName_cutToken starts) (cutToken_spec (trim text)).1
  have nonempty : ¬(readName (cutToken (trim text)).1).1.isEmpty := by
    simpa using named.ne_nil
  simp only [read?, if_neg nonempty]
  split
  · exact ⟨_, rfl, isSound_gluedHeader named⟩
  · split
    · next format directive =>
      refine ⟨_, rfl, named, fun flags given flag => isFlag_of_splitFlags given, ?_⟩
      intro hint given
      obtain rfl : format = hint := by simpa using given
      exact isPhrase_of_inlineFormat directive
    · exact ⟨_, rfl, named, fun flags given flag => isFlag_of_splitFlags given, hinted⟩

end BootManual.Header
