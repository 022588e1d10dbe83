import BootManual.Proofs.BareHeaders

/-!
# The grammar of headers

A header is spelled by its name, with a hint behind an equals sign, by its flags in
brackets and by its description, with white space between them and any of the last three
left out.  A format directive in the place of the description takes the place of the
hint.  Every header that can be told apart in this way is read from its spelling, and
one name is an exception.
-/

namespace BootManual

namespace Text

variable {token rest : Text}

/-- A text is what trimming leaves of it, between white space. -/
theorem exists_padding (text : Text) :
    ∃ gap behind, IsGap gap ∧ IsGap behind ∧ text = gap ++ trim text ++ behind := by
  have front : text.takeWhile isBlank ++ text.dropWhile isBlank = text :=
    List.takeWhile_append_dropWhile
  have back : trim text ++ ((text.dropWhile isBlank).reverse.takeWhile isBlank).reverse =
      text.dropWhile isBlank := by
    rw [trim, strip, dropEndWhile, ← List.reverse_append, List.takeWhile_append_dropWhile,
      List.reverse_reverse]
  refine ⟨text.takeWhile isBlank, ((text.dropWhile isBlank).reverse.takeWhile isBlank).reverse,
    ?_, ?_, ?_⟩
  · exact fun letter inside => List.mem_takeWhile_imp inside
  · exact fun letter inside => List.mem_takeWhile_imp (List.mem_reverse.mp inside)
  · rw [List.append_assoc, back, front]

/-- A token is cut off from anything that begins with white space. -/
theorem cutToken_trim_append (nonempty : token ≠ []) (solid : IsClear isBlank token)
    (apart : ∀ letter ∈ rest.head?, isBlank letter) :
    cutToken (trim (token ++ rest)) = (token, trim rest) := by
  obtain ⟨gap, behind, blank, blankBehind, padded⟩ := exists_padding rest
  have gapped : trim rest ≠ [] → gap ≠ [] := by
    rintro visible rfl
    obtain ⟨letter, others, first⟩ := List.exists_cons_of_ne_nil visible
    have leads : letter ∈ rest.head? := by
      rw [padded, first]
      rfl
    have shown : isBlank letter = false :=
      (isStripped_trim rest).head letter (by rw [first]; rfl)
    rw [apart letter leads] at shown
    contradiction
  have cut := cutToken_trim_padded nonempty solid blank (isStripped_trim rest) gapped blankBehind
  rwa [List.append_assoc, List.append_assoc, ← List.append_assoc gap, ← padded] at cut

end Text

namespace Header

open Text

/-! ## Spellings -/

/-- The first token: a name, and a hint behind an equals sign. -/
def writeName (name : Text) : Option Text → Text
  | none => name
  | some hint => name ++ '=' :: hint

/-- A name and a hint that can be told apart in a token. -/
structure AreTold (name : Text) (hint : Option Text) : Prop where
  nonempty : name ≠ []
  solid : IsClear isBlank name
  plain : '=' ∉ name
  hinted : ∀ text ∈ hint, text ≠ []
  solidHint : ∀ text ∈ hint, IsClear isBlank text

/-- A description that is neither a format directive nor, if there are no flags in front
of it, begins with a token in brackets. -/
structure IsProse (flags : Option (List Text)) (description : Text) : Prop where
  trimmed : IsStripped isBlank description
  undirected : ¬"Format: ".toList <+: description
  unbracketed : flags = none → ∀ token rest, description = token ++ rest →
    IsClear isBlank token → (∀ letter ∈ rest.head?, isBlank letter) →
      ¬(token.head? = some '[' ∧ token.getLast? = some ']')

/-- What stands behind the first token: flags, if there are any, and the description, each
of them behind white space. -/
inductive Follows (description : Text) : Option (List Text) → Text → Prop
  | unflagged {gap : Text} (blank : IsGap gap) (apart : description ≠ [] → gap ≠ []) :
      Follows description none (gap ++ description)
  | flagged {gap behind : Text} {flags : List Text} (writable : AreWritableFlags flags)
      (blank : IsGap gap) (apart : gap ≠ []) (blankBehind : IsGap behind)
      (apartBehind : description ≠ [] → behind ≠ []) :
      Follows description (some flags) (gap ++ (writeFlags flags ++ behind ++ description))

/-- The spellings of a header. -/
inductive Spells : Header → Text → Prop
  /-- Name, hint, flags and description. -/
  | described {name description rest : Text} {hint : Option Text} {flags : Option (List Text)}
      (told : AreTold name hint)
      (unglued : ¬(name = "sdw_mclk_divider".toList ∧ hint = some "[SDW]".toList))
      (prose : IsProse flags description) (follows : Follows description flags rest) :
      Spells ⟨name, flags, hint, description⟩ (writeName name hint ++ rest)
  /-- A directive takes the place of the hint, and there is no description. -/
  | directed {name format rest : Text} {hint : Option Text} {flags : Option (List Text)}
      (told : AreTold name hint)
      (unglued : ¬(name = "sdw_mclk_divider".toList ∧ hint = some "[SDW]".toList))
      (phrase : IsPhrase format) (unbraced : '\x7b' ∉ format ∧ '\x7d' ∉ format)
      (follows : Follows ("Format: ".toList ++ format) flags rest) :
      Spells ⟨name, flags, some format, []⟩ (writeName name hint ++ rest)
  /-- The exception: the hint is the flags, and all the rest is description. -/
  | glued {rest : Text} (apart : ∀ letter ∈ rest.head?, isBlank letter) :
      Spells ⟨"sdw_mclk_divider".toList, some ["SDW".toList], some "<int>".toList, trim rest⟩
        ("sdw_mclk_divider=[SDW]".toList ++ rest)

/-! ## The first token -/

section

variable {name : Text} {hint : Option Text} (told : AreTold name hint)

include told

theorem writeName_ne_nil : writeName name hint ≠ [] := by
  cases hint with
  | none => exact told.nonempty
  | some text => simp [writeName]

theorem isClear_writeName : IsClear isBlank (writeName name hint) := by
  cases hint with
  | none => exact told.solid
  | some text =>
      intro letter inside
      rw [writeName, List.mem_append, List.mem_cons] at inside
      rcases inside with inName | rfl | inHint
      · exact told.solid letter inName
      · decide
      · exact told.solidHint text rfl letter inHint

theorem readName_writeName : readName (writeName name hint) = (name, hint) := by
  cases hint with
  | none => exact readName_of_plain told.plain
  | some text =>
      rw [writeName, readName_append told.plain, if_neg (by simpa using told.hinted text rfl)]

end

/-! ## Behind the first token -/

variable {description rest : Text} {flags : Option (List Text)}

theorem Follows.apart (follows : Follows description flags rest) :
    ∀ letter ∈ rest.head?, isBlank letter := by
  intro letter first
  cases follows with
  | @unflagged gap blank apart =>
      by_cases empty : description = []
      · rw [empty, List.append_nil] at first
        exact blank letter (List.mem_of_mem_head? first)
      · rw [List.head?_append_of_ne_nil _ (apart empty)] at first
        exact blank letter (List.mem_of_mem_head? first)
  | flagged writable blank apart blankBehind apartBehind =>
      rw [List.head?_append_of_ne_nil _ apart] at first
      exact blank letter (List.mem_of_mem_head? first)

theorem splitFlags_of_unbracketed (unbracketed : isFlagList (cutToken description).1 = false) :
    splitFlags description = (none, description) := by
  simp [splitFlags, unbracketed]

/-- The flags and the description come apart again, whatever white space is between
them. -/
theorem Follows.splitFlags_trim (follows : Follows description flags rest)
    (trimmed : IsStripped isBlank description)
    (unbracketed : flags = none → isFlagList (cutToken description).1 = false) :
    splitFlags (trim rest) = (flags, description) := by
  cases follows with
  | unflagged blank apart =>
      rw [trim_gap_append blank, trim_eq_self trimmed, splitFlags_of_unbracketed (unbracketed rfl)]
  | @flagged gap behind flags writable blank apart blankBehind apartBehind =>
      have bracketed : writeFlags flags ≠ [] := List.cons_ne_nil _ _
      have nothing : IsGap [] := List.forall_mem_nil _
      have cut := cutToken_trim_padded bracketed (isClear_writeFlags writable) blankBehind trimmed
        apartBehind nothing
      rw [List.append_nil] at cut
      simp only [trim_gap_append blank, splitFlags, cut, isFlagList_writeFlags flags,
        readFlags_writeFlags writable, if_true]

/-! ## Reading -/

/-- Prose without flags in front of it begins with no list of flags. -/
theorem IsProse.isFlagList_cutToken (prose : IsProse flags description) (unflagged : flags = none) :
    isFlagList (cutToken description).1 = false := by
  obtain ⟨rest, split, blank⟩ := exists_cutToken_append description
  have other := prose.unbracketed unflagged _ rest split (cutToken_spec description).1 blank
  rwa [← isFlagList_iff, Bool.not_eq_true] at other

theorem inlineFormat_of_undirected (undirected : ¬formatDirective <+: description) :
    inlineFormat description = none := by
  rw [inlineFormat, after?_eq_none_iff.mpr undirected]

theorem isFlagList_directive (text : Text) :
    isFlagList (cutToken (formatDirective ++ text)).1 = false := by
  obtain ⟨behind, token⟩ := exists_cutToken_cons (by decide : isBlank 'F' = false)
    ("ormat: ".toList ++ text)
  change isFlagList (cutToken ('F' :: ("ormat: ".toList ++ text))).1 = false
  rw [token]
  rfl

/-- What is read of a header is in its first token and in what the rest comes apart
into. -/
theorem read?_append {name : Text} {hint : Option Text} (told : AreTold name hint)
    (unglued : ¬(name = gluedName ∧ hint = some gluedFlags))
    (follows : Follows description flags rest) (trimmed : IsStripped isBlank description)
    (unbracketed : flags = none → isFlagList (cutToken description).1 = false) :
    read? (writeName name hint ++ rest) =
      match inlineFormat description with
      | some format => some ⟨name, flags, some format, []⟩
      | none => some ⟨name, flags, hint, description⟩ := by
  have cut := cutToken_trim_append (writeName_ne_nil told) (isClear_writeName told) follows.apart
  have nonempty : ¬name.isEmpty := by simpa using told.nonempty
  have apart := follows.splitFlags_trim trimmed unbracketed
  cases format : inlineFormat description with
  | none =>
      simp only [read?, cut, readName_writeName told, if_neg nonempty, if_neg unglued, apart, format]
  | some inline =>
      simp only [read?, cut, readName_writeName told, if_neg nonempty, if_neg unglued, apart, format]

/-- A header is read from each of its spellings. -/
theorem read?_of_spells {header : Header} {text : Text} (spells : Spells header text) :
    read? text = some header := by
  cases spells with
  | described told unglued prose follows =>
      rw [read?_append told unglued follows prose.trimmed prose.isFlagList_cutToken,
        inlineFormat_of_undirected prose.undirected]
  | directed told unglued phrase unbraced follows =>
      rw [read?_append told unglued follows (isStripped_directive phrase)
        fun _ => isFlagList_directive _]
      have format := inlineFormat_directive phrase
      rw [(isClear_isBrace_iff.mpr unbraced).any_eq_false] at format
      change inlineFormat ("Format: ".toList ++ _) = _ at format
      rw [format]
      rfl
  | @glued rest apart =>
      have told : AreTold gluedName (some gluedFlags) :=
        ⟨by decide, by decide, by decide, by decide, by decide⟩
      have cut := cutToken_trim_append (writeName_ne_nil told) (isClear_writeName told) apart
      have nonempty : ¬gluedName.isEmpty := by decide
      have flags : readFlags gluedFlags = ["SDW".toList] := by decide
      change read? (writeName gluedName (some gluedFlags) ++ rest) =
        some ⟨gluedName, some ["SDW".toList], some gluedFormat, trim rest⟩
      simp only [read?, cut, readName_writeName told, if_neg nonempty, and_self, if_true, flags]

/-- The hint holds an equals sign, the flags hold brackets, and the description begins with
a token in brackets, which is no list of flags because there is one already. -/
theorem read?_of_spells_bracketed :
    let header : Header :=
      ⟨"a-b".toList, some ["X86".toList, "[Y".toList], some "x=[1]".toList,
        "[KNL]\tFormat: c".toList⟩
    let text := "a-b=x=[1]\u00a0 [X86,[Y]\t[KNL]\tFormat: c".toList
    Spells header text ∧ read? text = some header := by
  intro header text
  have told : AreTold "a-b".toList (some "x=[1]".toList) :=
    ⟨by decide, by decide, by decide, by decide, by decide⟩
  have unglued : ¬("a-b".toList = "sdw_mclk_divider".toList ∧
      some "x=[1]".toList = some "[SDW]".toList) := by decide
  have undirected : ¬"Format: ".toList <+: "[KNL]\tFormat: c".toList := by decide
  have prose : IsProse (some ["X86".toList, "[Y".toList]) "[KNL]\tFormat: c".toList :=
    ⟨by decide, undirected, fun none => by contradiction⟩
  have each : ∀ flag ∈ ["X86".toList, "[Y".toList], IsFlag flag := by
    simp only [List.forall_mem_cons, List.not_mem_nil, false_imp_iff, implies_true, and_true]
    exact ⟨⟨by decide, by decide, by decide⟩, ⟨by decide, by decide, by decide⟩⟩
  have follows : Follows "[KNL]\tFormat: c".toList (some ["X86".toList, "[Y".toList])
      ("\u00a0 ".toList ++ (writeFlags ["X86".toList, "[Y".toList] ++ "\t".toList ++
        "[KNL]\tFormat: c".toList)) :=
    .flagged ⟨each, by decide, by decide⟩ (by decide) (by decide) (by decide) (by decide)
  have spells : Spells header text := .described told unglued prose follows
  exact ⟨spells, read?_of_spells spells⟩

end Header

end BootManual
