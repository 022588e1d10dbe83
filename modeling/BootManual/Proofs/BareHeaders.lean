import BootManual.Proofs.WrittenHeaders

/-!
# Headers without description

A header on which nothing but a name, a hint and flags stand can have any white space
between and behind them.  A format directive can be added to it: without braces it takes
the place of the hint, and with braces it becomes the description.
-/

namespace BootManual

namespace Text

/-- A gap is made of white space. -/
def IsGap (text : Text) : Prop :=
  ∀ letter ∈ text, isBlank letter = true

instance (text : Text) : Decidable (IsGap text) :=
  List.decidableBAll _ text

theorem IsGap.append {gap other : Text} (blank : IsGap gap) (otherBlank : IsGap other) :
    IsGap (gap ++ other) :=
  List.forall_mem_append.mpr ⟨blank, otherBlank⟩

variable {token gap core behind : Text}

theorem trim_gap_append (blank : IsGap gap) (text : Text) : trim (gap ++ text) = trim text :=
  strip_margin_append blank text

theorem trim_append_gap (text : Text) (blank : IsGap gap) : trim (text ++ gap) = trim text :=
  strip_append_margin text blank

theorem trimEnd_append_gap (text : Text) (blank : IsGap gap) :
    trimEnd (text ++ gap) = trimEnd text :=
  dropEndWhile_append_margin text blank

/-- What is left of a text once white space is taken off its ends. -/
theorem trim_padded (trimmed : IsStripped isBlank core) (blank : IsGap gap)
    (blankBehind : IsGap behind) : trim (gap ++ core ++ behind) = core :=
  strip_append blank trimmed blankBehind

/-- A token and what stands behind it come apart, whatever white space is around them. -/
theorem cutToken_trim_padded (nonempty : token ≠ []) (solid : IsClear isBlank token)
    (blank : IsGap gap) (trimmed : IsStripped isBlank core) (apart : core ≠ [] → gap ≠ [])
    (blankBehind : IsGap behind) :
    cutToken (trim (token ++ gap ++ core ++ behind)) = (token, core) := by
  by_cases empty : core = []
  · rw [empty, List.append_nil, List.append_assoc]
    have alone : trim (token ++ (gap ++ behind)) = token :=
      trim_padded solid.isStripped (List.forall_mem_nil _) (blank.append blankBehind)
    rw [alone, cutToken_of_isClear solid]
  · have stripped : IsStripped isBlank (token ++ gap ++ core) :=
      isStripped_append (by simp [nonempty]) empty
        (by simpa [List.head?_append_of_ne_nil _ nonempty] using solid.isStripped.head)
        trimmed.last
    have whole : trim (token ++ gap ++ core ++ behind) = token ++ gap ++ core :=
      trim_padded stripped (List.forall_mem_nil _) blankBehind
    rw [whole]
    cases gap with
    | nil => exact absurd rfl (apart empty)
    | cons first others =>
        have blankFirst := blank first List.mem_cons_self
        have blankOthers : IsGap others := fun letter inside =>
          blank letter (List.mem_cons_of_mem first inside)
        have rest : trim (others ++ core) = core := by
          have padded := trim_padded trimmed blankOthers (List.forall_mem_nil _)
          rwa [List.append_nil] at padded
        rw [List.append_assoc, List.cons_append, cutToken_append solid blankFirst, rest]

end Text

namespace Header

open Text

/-- A name with or without a hint.  The one name whose flags stand in the place of the
hint is left out. -/
structure IsNaming (token : Text) : Prop where
  starts : ∃ letter ∈ token.head?, letter.isAlphanum
  solid : IsClear isBlank token
  unglued : token ≠ "sdw_mclk_divider=[SDW]".toList

/-- A header line with nothing on it but a name, with or without a hint, and behind it
flags in brackets or nothing. -/
inductive IsBare : Text → Prop
  | unflagged {token gap : Text} (naming : IsNaming token) (blank : IsGap gap) :
      IsBare (token ++ gap)
  | flagged {token gap flags behind : Text} (naming : IsNaming token) (blank : IsGap gap)
      (apart : gap ≠ []) (solid : IsClear isBlank flags) (opened : flags.head? = some '[')
      (closed : flags.getLast? = some ']') (blankBehind : IsGap behind) :
      IsBare (token ++ gap ++ flags ++ behind)

theorem IsNaming.startsName {token : Text} (naming : IsNaming token) : Line.startsName token :=
  Line.startsName_iff_head.mpr naming.starts

theorem IsNaming.ne_nil {token : Text} (naming : IsNaming token) : token ≠ [] := by
  rintro rfl
  have starts := naming.startsName
  contradiction

theorem startsName_append {token : Text} (starts : Line.startsName token) (rest : Text) :
    Line.startsName (token ++ rest) := by
  rcases Line.startsName_iff.mp starts with ⟨letter, behind, rfl, alphanumeric⟩
  exact alphanumeric

theorem IsBare.startsName {text : Text} (bare : IsBare text) : Line.startsName text := by
  cases bare with
  | unflagged naming blank => exact startsName_append naming.startsName _
  | flagged naming =>
      rw [List.append_assoc, List.append_assoc]
      exact startsName_append naming.startsName _

/-- Only one token has the name and the hint of the exception. -/
theorem IsNaming.not_glued {token : Text} (naming : IsNaming token) :
    ¬((readName token).1 = gluedName ∧ (readName token).2 = some gluedFlags) := by
  rintro ⟨name, hint⟩
  rcases isClear_or_exists_mark (· == '=') token with plain | ⟨front, mark, back, rfl, plain, found⟩
  · rw [readName_of_plain (isClear_beq_iff.mp plain)] at hint
    contradiction
  · have same : mark = '=' := by simpa using found
    rw [same, readName_append (isClear_beq_iff.mp plain)] at name hint
    apply naming.unglued
    rw [same]
    dsimp only at name hint
    split at hint
    · contradiction
    · rw [name, Option.some.inj hint]
      rfl

theorem IsNaming.name_ne_nil {token : Text} (naming : IsNaming token) :
    ¬(readName token).1.isEmpty := by
  have named := (readName_spec naming.startsName naming.solid).1
  simpa using named.ne_nil

/-- A header is its first token and what the rest says, whatever white space is around. -/
theorem read?_padded {token gap core behind : Text} (naming : IsNaming token) (blank : IsGap gap)
    (trimmed : IsStripped isBlank core) (apart : core ≠ [] → gap ≠ [])
    (blankBehind : IsGap behind) :
    read? (token ++ gap ++ core ++ behind) =
      match inlineFormat (splitFlags core).2 with
      | some format => some ⟨(readName token).1, (splitFlags core).1, some format, []⟩
      | none => some ⟨(readName token).1, (splitFlags core).1, (readName token).2,
          (splitFlags core).2⟩ := by
  have cut := cutToken_trim_padded naming.ne_nil naming.solid blank trimmed apart blankBehind
  cases format : inlineFormat (splitFlags core).2 <;>
    simp only [read?, cut, if_neg naming.name_ne_nil, if_neg naming.not_glued, format]

theorem read?_trimEnd {text : Text} (starts : Line.startsName text) :
    read? (trimEnd text) = read? text := by
  rcases Line.startsName_iff.mp starts with ⟨letter, rest, rfl, alphanumeric⟩
  have visible := isBlank_eq_false_of_isAlphanum alphanumeric
  have same : trimEnd (letter :: rest) = trim (letter :: rest) := by
    rw [trim, strip_cons visible]
    exact dropEndWhile_cons visible rest
  rw [same, read?, trim_eq_self (isStripped_trim _), ← read?]

/-! ## Directives -/

/-- What a format directive makes of a header that has no description. -/
def withDirective (header : Header) (directive : Text) : Header :=
  if directive.any isBrace then
    { header with description := formatDirective ++ directive }
  else
    { header with hint := some directive }

variable {directive : Text}

/-- A directive behind a header that is nothing but its name, hint and flags is all the
description there is. -/
theorem read?_directive {token gap core behind : Text} {flags : Option (List Text)}
    (phrase : IsPhrase directive) (naming : IsNaming token) (blank : IsGap gap) (apart : gap ≠ [])
    (blankBehind : IsGap behind) (stripped : IsStripped isBlank core)
    (split : splitFlags core = (flags, formatDirective ++ directive)) :
    read? (token ++ gap ++ core ++ behind) =
      some (withDirective ⟨(readName token).1, flags, (readName token).2, []⟩ directive) := by
  rw [read?_padded naming blank stripped (fun _ => apart) blankBehind, split,
    inlineFormat_directive phrase, withDirective]
  cases directive.any isBrace <;> rfl

/-- A header without description is read as one, and a directive behind it is added. -/
theorem IsBare.read?_spec {text : Text} (bare : IsBare text) :
    ∃ header, header.description = [] ∧ read? text = some header ∧
      ∀ directive, IsPhrase directive →
        read? (text ++ ' ' :: (formatDirective ++ directive)) =
          some (header.withDirective directive) := by
  have space : IsGap [' '] := by decide
  have nothing : IsGap [] := List.forall_mem_nil _
  cases bare with
  | @unflagged token gap naming blank =>
      refine ⟨⟨(readName token).1, none, (readName token).2, []⟩, rfl, ?_, ?_⟩
      · have alone := read?_padded naming blank (isStripped_nil isBlank)
          (fun given => absurd rfl given) nothing
        rwa [List.append_nil, List.append_nil] at alone
      · intro directive phrase
        have opening : (formatDirective ++ directive).head? ≠ some '[' := by
          change some 'F' ≠ some '['
          decide
        have added := read?_directive phrase naming (blank.append space)
          (List.append_ne_nil_of_right_ne_nil _ (List.cons_ne_nil _ _)) nothing
          (isStripped_directive phrase) (splitFlags_of_head? opening)
        simpa only [List.append_nil, List.append_assoc, List.cons_append, List.nil_append]
          using added
  | @flagged token gap flags behind naming blank apart solid opened closed blankBehind =>
      have listed := isFlagList_iff.mpr ⟨opened, closed⟩
      refine ⟨⟨(readName token).1, some (readFlags flags), (readName token).2, []⟩, rfl, ?_, ?_⟩
      · have split : splitFlags flags = (some (readFlags flags), []) := by
          simp [splitFlags, cutToken_of_isClear solid, listed]
        rw [read?_padded naming blank solid.isStripped (fun _ => apart) blankBehind, split]
        rfl
      · intro directive phrase
        have given := isStripped_directive phrase
        have someFlags : flags ≠ [] := by
          rintro rfl
          contradiction
        have gapBehind : behind ++ [' '] ≠ [] :=
          List.append_ne_nil_of_right_ne_nil _ (List.cons_ne_nil _ _)
        have stripped : IsStripped isBlank (flags ++ (behind ++ [' ']) ++
            (formatDirective ++ directive)) := by
          apply isStripped_append _ (List.cons_ne_nil _ _) _ given.last
          · simp [someFlags]
          · rw [List.head?_append_of_ne_nil _ someFlags]
            exact solid.isStripped.head
        have cut := cutToken_trim_padded someFlags solid (blankBehind.append space) given
          (fun _ => gapBehind) nothing
        rw [List.append_nil, trim_eq_self stripped] at cut
        have split : splitFlags (flags ++ (behind ++ [' ']) ++ (formatDirective ++ directive)) =
            (some (readFlags flags), formatDirective ++ directive) := by
          simp only [splitFlags, cut, listed, if_true]
        have added := read?_directive phrase naming blank apart nothing stripped split
        simpa only [List.append_nil, List.append_assoc, List.cons_append, List.nil_append]
          using added

end Header

end BootManual
