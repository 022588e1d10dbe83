import BootManual.Catalogue
import BootManual.ValueList
import BootManual.Proofs.Cutting
import BootManual.Proofs.Roles

/-!
# The shape of what a manual yields

Whatever the lines of a manual are, the entries read from it have names, flags,
formats and descriptions of a certain shape, and they nest in one way only:
parameters have sub-parameters, and those have none.
-/

namespace BootManual

/-- A name begins with an ASCII letter or digit and holds neither white space nor
an equals sign. -/
structure IsName (name : Text) : Prop where
  starts : ∃ letter ∈ name.head?, letter.isAlphanum
  solid : Text.IsClear Text.isBlank name
  plain : '=' ∉ name

theorem IsName.startsName {name : Text} (named : IsName name) : Line.startsName name :=
  Line.startsName_iff_head.mpr named.starts

theorem IsName.ne_nil {name : Text} (named : IsName name) : name ≠ [] := by
  rintro rfl
  have starts := named.startsName
  contradiction

/-- A flag is not empty and holds neither white space nor a comma. -/
structure IsFlag (flag : Text) : Prop where
  nonempty : flag ≠ []
  solid : Text.IsClear Text.isBlank flag
  single : ',' ∉ flag

/-- The text of a literal format is not empty and has no white space at its ends. -/
structure IsPhrase (text : Text) : Prop where
  nonempty : text ≠ []
  trimmed : Text.IsStripped Text.isBlank text

/-- A value is not empty, holds no bar, and has no white space, quotation mark, comma or
bar at its ends. -/
structure IsValue (value : Text) : Prop where
  nonempty : value ≠ []
  trimmed : Text.IsStripped Text.isBlank value
  bare : ∀ mark ∈ ['"', '\'', ',', '|'], value.head? ≠ some mark ∧ value.getLast? ≠ some mark
  single : '|' ∉ value

namespace ValueList

theorem isMargin_eq_false_iff {letter : Char} :
    isMargin letter = false ↔
      Text.isBlank letter = false ∧ ∀ mark ∈ ['"', '\'', ',', '|'], letter ≠ mark := by
  simp only [isMargin, isSeparator, Bool.or_eq_false_iff, beq_eq_false_iff_ne, List.forall_mem_cons,
    List.not_mem_nil, false_imp_iff, implies_true, and_true, and_assoc]
  rw [and_comm (a := letter ≠ '|')]

/-- Nothing is stripped from the ends of a text that has neither white space nor one of
four marks there. -/
theorem isStripped_isMargin_iff {text : Text} :
    Text.IsStripped isMargin text ↔ Text.IsStripped Text.isBlank text ∧
      ∀ mark ∈ ['"', '\'', ',', '|'], text.head? ≠ some mark ∧ text.getLast? ≠ some mark := by
  constructor
  · intro stripped
    refine ⟨⟨?_, ?_⟩, fun mark listed => ⟨?_, ?_⟩⟩
    · exact fun letter first => (isMargin_eq_false_iff.mp (stripped.head letter first)).1
    · exact fun letter last => (isMargin_eq_false_iff.mp (stripped.last letter last)).1
    · exact fun first => (isMargin_eq_false_iff.mp (stripped.head mark first)).2 mark listed rfl
    · exact fun last => (isMargin_eq_false_iff.mp (stripped.last mark last)).2 mark listed rfl
  · rintro ⟨trimmed, bare⟩
    constructor
    · intro letter first
      exact isMargin_eq_false_iff.mpr
        ⟨trimmed.head letter first, fun mark listed same => (bare mark listed).1 (same ▸ first)⟩
    · intro letter last
      exact isMargin_eq_false_iff.mpr
        ⟨trimmed.last letter last, fun mark listed same => (bare mark listed).2 (same ▸ last)⟩

end ValueList

theorem IsValue.stripped {value : Text} (given : IsValue value) :
    Text.IsStripped ValueList.isMargin value :=
  ValueList.isStripped_isMargin_iff.mpr ⟨given.trimmed, given.bare⟩

/-- A literal is a phrase, and a choice lists at least one value. -/
def Format.IsSound : Format → Prop
  | unset => True
  | literal text => IsPhrase text
  | choice values => values ≠ [] ∧ ∀ value ∈ values, IsValue value
  | flag => True
  | complex => True

/-- A catalogue is in order if its index is right, its names are distinct, and
every entry in it has a property. -/
structure Catalogue.Holds (property : Entry → Prop) (catalogue : Catalogue Entry) : Prop where
  indexed : catalogue.IsIndexed
  distinct : catalogue.names.Nodup
  each : ∀ entry ∈ catalogue.slots, property entry

namespace Entry

/-- Name, flags and format are well formed. -/
structure IsSound (entry : Entry) : Prop where
  name : IsName entry.name
  flags : ∀ flags ∈ entry.flags, ∀ flag ∈ flags, IsFlag flag
  format : entry.format.IsSound

/-- The shape of a sub-parameter: it has no sub-parameters of its own, and no
format other than a literal. -/
structure IsSubparameter (entry : Entry) : Prop extends IsSound entry where
  unsetOrLiteral : entry.format = .unset ∨ ∃ text, entry.format = .literal text
  description : entry.description.head? ≠ some '\n'
  children : entry.children = Catalogue.empty

/-- The shape of a parameter: its format is settled, and the formats that stand
for the presence or absence of sub-parameters tell the truth about them. -/
structure IsParameter (entry : Entry) : Prop extends IsSound entry where
  settled : entry.format ≠ .unset
  flag : entry.format = .flag → entry.children.slots = []
  complex : entry.format = .complex → entry.children.slots ≠ []
  description : entry.description.head? ≠ some '\n'
  children : entry.children.Holds IsSubparameter

end Entry

end BootManual
