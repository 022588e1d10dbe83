import BootManual.Toml.Document
import BootManual.Proofs.TomlStrings

/-!
# Reading documents of TOML

A reader of the part of TOML in which the documents of a database are written: lines
with a bare key and a string, a list of strings or a boolean, headers of tables, empty
lines and comments.  Space between the parts of a line is free, and so are line ends
and comments inside a list.  Keys may not be repeated.  Values of other kinds, keys in
quotation marks or with dots, and tables inside tables are not read.

A document with distinct bare keys that was written is read as what it was.
-/

namespace BootManual.Toml

/-! ## Space -/

/-- What is left behind space, line ends and comments, inside a comment or not. -/
def skipLoose : Bool → Text → Text
  | _, [] => []
  | true, letter :: rest =>
    if letter = '\n' then skipLoose false rest
    else if isPrintable letter then skipLoose true rest
    else letter :: rest
  | false, letter :: rest =>
    if isSpace letter || letter == '\n' then skipLoose false rest
    else if letter = '#' then skipLoose true rest
    else letter :: rest

/-- What is left behind the end of a line, which may come after space and a comment. -/
def endLine? (text : Text) : Option Text :=
  let comment := text.dropWhile isSpace
  match if comment.head? = some '#' then comment.dropWhile isPrintable else comment with
  | [] => some []
  | '\n' :: rest => some rest
  | _ => none

/-! ## Values -/

/-- Read the strings of a list up to and including its closing bracket.  A comma may
stand behind the last of them. -/
def readItems (text : Text) : Option (List Text × Text) :=
  match skipLoose false text with
  | ']' :: rest => some ([], rest)
  | start =>
    match readString start with
    | none => none
    | some (item, rest) =>
      match skipLoose false rest with
      | ']' :: rest => some ([item], rest)
      | ',' :: rest =>
        -- What is left is always shorter; the test is what the recursion needs.
        if rest.length < text.length then
          (readItems rest).map fun read => (item :: read.1, read.2)
        else none
      | _ => none
termination_by text.length

/-- Read a value. -/
def readValue (text : Text) : Option (Value × Text) :=
  match text with
  | '[' :: rest => (readItems rest).map fun read => (.strings read.1, read.2)
  | _ =>
    match Text.after? "true".toList text with
    | some rest => some (.boolean true, rest)
    | none =>
      match Text.after? "false".toList text with
      | some rest => some (.boolean false, rest)
      | none => (readString text).map fun read => (.string read.1, read.2)

/-! ## Lines -/

/-- A character of a bare key. -/
def isKeyLetter (letter : Char) : Bool :=
  letter.isAlphanum || letter == '_' || letter == '-'

/-- Read a bare key. -/
def readKey (text : Text) : Option (Text × Text) :=
  let key := text.takeWhile isKeyLetter
  if key.isEmpty then none else some (key, text.dropWhile isKeyLetter)

/-- What a line can say. -/
inductive Statement where
  | field (field : Field)
  | table (name : Text)
  deriving DecidableEq, Repr

/-- Read a key and its value, up to the end of the line. -/
def readField (text : Text) : Option (Field × Text) :=
  match readKey text with
  | none => none
  | some (key, rest) =>
    match rest.dropWhile isSpace with
    | '=' :: rest =>
      match readValue (rest.dropWhile isSpace) with
      | none => none
      | some (value, rest) => (endLine? rest).map fun rest => (⟨key, value⟩, rest)
    | _ => none

/-- Read the header of a table from behind its bracket, up to the end of the line. -/
def readHeader (text : Text) : Option (Text × Text) :=
  match readKey (text.dropWhile isSpace) with
  | none => none
  | some (name, rest) =>
    match rest.dropWhile isSpace with
    | ']' :: rest => (endLine? rest).map fun rest => (name, rest)
    | _ => none

/-- Read a line, which may say nothing. -/
def readLine (text : Text) : Option (Option Statement × Text) :=
  match endLine? text with
  | some rest => some (none, rest)
  | none =>
    match text.dropWhile isSpace with
    | '[' :: rest => (readHeader rest).map fun read => (some (.table read.1), read.2)
    | start => (readField start).map fun read => (some (.field read.1), read.2)

/-- Read all lines. -/
def readLines (text : Text) : Option (List Statement) :=
  if text.isEmpty then some []
  else
    match readLine text with
    | none => none
    | some (statement, rest) =>
      -- What is left is always shorter; the test is what the recursion needs.
      if rest.length < text.length then
        (readLines rest).map fun statements => statement.toList ++ statements
      else none
termination_by text.length

/-! ## Documents -/

/-- The fields up to the first header of a table, and what stands behind them. -/
def cutFields : List Statement → List Field × List Statement
  | .field field :: rest => (field :: (cutFields rest).1, (cutFields rest).2)
  | rest => ([], rest)

/-- The keys of some fields. -/
def keys (fields : List Field) : List Text :=
  fields.map Field.key

/-- The document of fields and one table with further fields, unless a key is
repeated. -/
def ofStatements (statements : List Statement) : Option Document :=
  match cutFields statements with
  | (fields, .table name :: rest) =>
    match cutFields rest with
    | (table, []) =>
      if (name :: keys fields).Nodup ∧ (keys table).Nodup then some ⟨fields, name, table⟩ else none
    | _ => none
  | _ => none

/-- Read a document. -/
def read (text : Text) : Option Document :=
  (readLines text).bind ofStatements

/-! ## Lists that were written -/

theorem exists_quote (text : Text) :
    ∃ mark content, quote text = mark :: content ∧ (mark = '"' ∨ mark = '\'') := by
  rw [quote]
  cases Quotation.choose text with
  | basic => exact ⟨'"', _, rfl, .inl rfl⟩
  | literal => exact ⟨'\'', _, rfl, .inr rfl⟩
  | basicBlock => exact ⟨'"', _, rfl, .inl rfl⟩
  | literalBlock => exact ⟨'\'', _, rfl, .inr rfl⟩

theorem skipLoose_gap {gap : Text} (blank : ∀ letter ∈ gap, isSpace letter) (rest : Text) :
    skipLoose false (gap ++ rest) = skipLoose false rest := by
  induction gap with
  | nil => rfl
  | cons letter gap inductionHypothesis =>
      rw [List.forall_mem_cons] at blank
      simp [skipLoose, blank.1, inductionHypothesis blank.2]

theorem skipLoose_quote (text rest : Text) :
    skipLoose false (quote text ++ rest) = quote text ++ rest := by
  obtain ⟨mark, content, quoted, rfl | rfl⟩ := exists_quote text <;>
    simp [quoted, skipLoose, isSpace]

section Items

variable {text start rest after item : Text} (skipped : skipLoose false text = start)
  (more : start.head? ≠ some ']') (found : readString start = some (item, rest))

include skipped more found

theorem readItems_last (closed : skipLoose false rest = ']' :: after) :
    readItems text = some ([item], after) := by
  rw [readItems, skipped]
  split
  · simp at more
  · simp [found, closed]

theorem readItems_next (continued : skipLoose false rest = ',' :: after)
    (shorter : after.length < text.length) :
    readItems text = (readItems after).map fun read => (item :: read.1, read.2) := by
  rw [readItems, skipped]
  split
  · simp at more
  · simp [found, continued, shorter]

end Items

/-- A list that was written is read as what it was, whatever space stands in front. -/
theorem readItems_join (texts : List Text) (gap rest : Text)
    (blank : ∀ letter ∈ gap, isSpace letter) :
    readItems (gap ++ (Text.join ", ".toList (texts.map quote) ++ ']' :: rest)) =
      some (texts, rest) := by
  induction texts generalizing gap with
  | nil =>
      rw [readItems, skipLoose_gap blank]
      simp [Text.join, skipLoose, isSpace]
  | cons first others inductionHypothesis =>
      -- The first string ends in front of the bracket or the comma behind it.
      have skipped (rest : Text) :
          skipLoose false (gap ++ (quote first ++ rest)) = quote first ++ rest := by
        rw [skipLoose_gap blank, skipLoose_quote]
      have more (rest : Text) : (quote first ++ rest).head? ≠ some ']' := by
        obtain ⟨mark, content, quoted, rfl | rfl⟩ := exists_quote first <;> simp [quoted]
      by_cases last : others = []
      · subst last
        rw [List.map_cons, List.map_nil, Text.join_singleton]
        apply readItems_last (skipped _) (more _)
          (readString_quote first (by simp [IsApart]) (by simp [IsApart]))
        simp [skipLoose, isSpace]
      · have nonempty : others.map quote ≠ [] := fun empty => last (List.map_eq_nil_iff.mp empty)
        have separated :
            gap ++ (Text.join ", ".toList ((first :: others).map quote) ++ ']' :: rest) =
              gap ++ (quote first ++
                (',' :: ([' '] ++ (Text.join ", ".toList (others.map quote) ++ ']' :: rest)))) := by
          rw [List.map_cons, Text.join_cons _ _ nonempty]
          simp
        have next := inductionHypothesis [' '] (by simp [isSpace])
        rw [separated, readItems_next (skipped _) (more _)
          (readString_quote first (by simp [IsApart]) (by simp [IsApart])) rfl, next]
        · rfl
        · simp only [List.length_append, List.length_cons]
          omega

/-! ## Values that were written -/

/-- What begins with a mark is read as a string. -/
theorem readValue_of_mark {text : Text} (marked : text.head? = some '"' ∨ text.head? = some '\'') :
    readValue text = (readString text).map fun read => (.string read.1, read.2) := by
  cases text with
  | nil => simp at marked
  | cons letter text =>
      rw [List.head?_cons, Option.some.injEq, Option.some.injEq] at marked
      rcases marked with rfl | rfl <;> simp [readValue, Text.after?, List.isPrefixOf?]

/-- A value that was written is read as what it was, unless a mark follows. -/
theorem readValue_render (value : Value) (rest : Text) (apart : IsApart '"' rest)
    (apart' : IsApart '\'' rest) : readValue (value.render ++ rest) = some (value, rest) := by
  cases value with
  | string text =>
      rw [Value.render, readValue_of_mark, readString_quote text apart apart']
      · rfl
      · obtain ⟨mark, content, quoted, rfl | rfl⟩ := exists_quote text <;> simp [quoted]
  | strings texts =>
      have found := readItems_join texts [] rest nofun
      rw [List.nil_append] at found
      have written : (Value.strings texts).render ++ rest =
          '[' :: (Text.join ", ".toList (texts.map quote) ++ ']' :: rest) := by
        rw [Value.render, List.append_assoc, List.cons_append, List.singleton_append]
      rw [written, readValue, found]
      rfl
  | boolean value => cases value <;> rfl

/-- A value that was written begins with no space. -/
theorem dropWhile_isSpace_render (value : Value) (rest : Text) :
    (value.render ++ rest).dropWhile isSpace = value.render ++ rest := by
  cases value with
  | string text =>
      obtain ⟨mark, content, quoted, rfl | rfl⟩ := exists_quote text <;>
        simp [Value.render, quoted, isSpace]
  | strings texts => rfl
  | boolean value => cases value <;> rfl

/-! ## Lines that were written -/

/-- A key that needs no quotation marks. -/
structure IsBareKey (key : Text) : Prop where
  nonempty : key ≠ []
  plain : ∀ letter ∈ key, isKeyLetter letter

instance (key : Text) : Decidable (IsBareKey key) :=
  decidable_of_iff (key ≠ [] ∧ key.all isKeyLetter)
    ⟨fun bare => ⟨bare.1, List.all_eq_true.mp bare.2⟩,
      fun bare => ⟨bare.nonempty, List.all_eq_true.mpr bare.plain⟩⟩

section Key

variable {key : Text} (bare : IsBareKey key)

include bare

theorem readKey_append {letter : Char} (ends : isKeyLetter letter = false) (rest : Text) :
    readKey (key ++ letter :: rest) = some (key, letter :: rest) := by
  have taken : (key ++ letter :: rest).takeWhile isKeyLetter = key := by
    rw [List.takeWhile_append_of_pos bare.plain, List.takeWhile_cons_of_neg (by simp [ends]),
      List.append_nil]
  have left : (key ++ letter :: rest).dropWhile isKeyLetter = letter :: rest := by
    rw [List.dropWhile_append_of_pos bare.plain, List.dropWhile_cons_of_neg (by simp [ends])]
  simp [readKey, taken, left, bare.nonempty]

theorem dropWhile_isSpace_key (rest : Text) : (key ++ rest).dropWhile isSpace = key ++ rest := by
  obtain ⟨first, others, rfl⟩ := List.exists_cons_of_ne_nil bare.nonempty
  have letter : isKeyLetter first := bare.plain first List.mem_cons_self
  have solid : isSpace first = false := by
    apply eq_false_of_ne_true
    intro space
    rcases Bool.or_eq_true_iff.mp space with blank | tab
    · exact absurd (beq_iff_eq.mp blank ▸ letter) (by decide)
    · exact absurd (beq_iff_eq.mp tab ▸ letter) (by decide)
  rw [List.cons_append, List.dropWhile_cons_of_neg (by simp [solid])]

theorem head?_key_ne {letter : Char} (other : isKeyLetter letter = false) (rest : Text) :
    (key ++ rest).head? ≠ some letter := by
  obtain ⟨first, others, rfl⟩ := List.exists_cons_of_ne_nil bare.nonempty
  intro same
  have plain := bare.plain first List.mem_cons_self
  rw [Option.some.inj same, other] at plain
  contradiction

theorem readField_render (value : Value) (rest : Text) :
    readField ((Field.mk key value).render ++ rest) = some (⟨key, value⟩, rest) := by
  have written : (Field.mk key value).render ++ rest =
      key ++ ' ' :: '=' :: ' ' :: (value.render ++ '\n' :: rest) := by
    simp [Field.render]
  have assigned : (' ' :: '=' :: ' ' :: (value.render ++ '\n' :: rest)).dropWhile isSpace =
      '=' :: ' ' :: (value.render ++ '\n' :: rest) := rfl
  have valued : (' ' :: (value.render ++ '\n' :: rest)).dropWhile isSpace =
      value.render ++ '\n' :: rest := dropWhile_isSpace_render value _
  have found := readValue_render value ('\n' :: rest) (by simp [IsApart]) (by simp [IsApart])
  rw [written, readField, readKey_append bare rfl]
  simp only [assigned, valued, found]
  rfl

/-- A line that begins with a key says something, and is no header of a table. -/
theorem readLine_of_key (rest : Text) :
    readLine (key ++ rest) =
      (readField (key ++ rest)).map fun read => (some (.field read.1), read.2) := by
  have start := dropWhile_isSpace_key bare rest
  have comment : (key ++ rest).head? ≠ some '#' := head?_key_ne bare rfl rest
  have newline : (key ++ rest).head? ≠ some '\n' := head?_key_ne bare rfl rest
  have bracket : (key ++ rest).head? ≠ some '[' := head?_key_ne bare rfl rest
  have unended : endLine? (key ++ rest) = none := by
    simp only [endLine?, start, if_neg comment]
    split
    · next empty => exact absurd (List.append_eq_nil_iff.mp empty).1 bare.nonempty
    · next same => exact absurd (congrArg List.head? same) newline
    · rfl
  rw [readLine, unended]
  simp only [start]
  split
  · next same => exact absurd (congrArg List.head? same) bracket
  · rfl

theorem readLine_header (rest : Text) :
    readLine ('[' :: key ++ "]\n".toList ++ rest) = some (some (.table key), rest) := by
  have written : '[' :: key ++ "]\n".toList ++ rest = '[' :: (key ++ ']' :: '\n' :: rest) := by
    simp
  have header : readHeader (key ++ ']' :: '\n' :: rest) = some (key, rest) := by
    rw [readHeader, dropWhile_isSpace_key bare, readKey_append bare rfl]
    rfl
  have unended (text : Text) : endLine? ('[' :: text) = none := rfl
  have start (text : Text) : ('[' :: text).dropWhile isSpace = '[' :: text := rfl
  rw [written, readLine, unended]
  simp only [start, header]
  rfl

end Key

theorem readLine_field {field : Field} (bare : IsBareKey field.key) (rest : Text) :
    readLine (field.render ++ rest) = some (some (.field field), rest) := by
  have begins : field.render ++ rest =
      field.key ++ (" = ".toList ++ field.value.render ++ ['\n'] ++ rest) := by
    simp [Field.render]
  rw [begins, readLine_of_key bare, ← begins, readField_render bare]
  rfl

theorem readLine_empty (rest : Text) : readLine ('\n' :: rest) = some (none, rest) :=
  rfl

/-- A line in front of others. -/
theorem readLines_append {line rest : Text} {statement : Option Statement} (nonempty : line ≠ [])
    (spoken : readLine (line ++ rest) = some (statement, rest)) :
    readLines (line ++ rest) =
      (readLines rest).map fun statements => statement.toList ++ statements := by
  rw [readLines, spoken]
  simp [nonempty]

theorem readLines_fields {fields : List Field} (bare : ∀ key ∈ keys fields, IsBareKey key)
    (rest : Text) :
    readLines (fields.flatMap Field.render ++ rest) =
      (readLines rest).map fun statements => fields.map .field ++ statements := by
  induction fields with
  | nil => simp
  | cons field fields inductionHypothesis =>
      rw [keys, List.map_cons, List.forall_mem_cons] at bare
      have nonempty : field.render ≠ [] := by simp [Field.render]
      rw [List.flatMap_cons, List.append_assoc,
        readLines_append nonempty (readLine_field bare.1 _), inductionHypothesis bare.2,
        Option.map_map]
      rfl

/-! ## Documents that were written -/

theorem cutFields_append_table (fields : List Field) (name : Text) (rest : List Statement) :
    cutFields (fields.map .field ++ .table name :: rest) = (fields, .table name :: rest) := by
  induction fields with
  | nil => rfl
  | cons field fields inductionHypothesis => simp [cutFields, inductionHypothesis]

theorem cutFields_fields (fields : List Field) : cutFields (fields.map .field) = (fields, []) := by
  induction fields with
  | nil => rfl
  | cons field fields inductionHypothesis => simp [cutFields, inductionHypothesis]

/-- A document whose keys need no quotation marks and are not repeated. -/
structure Document.IsProper (document : Document) : Prop where
  name : IsBareKey document.tableName
  fields : ∀ key ∈ keys document.fields, IsBareKey key
  table : ∀ key ∈ keys document.table, IsBareKey key
  distinct : (document.tableName :: keys document.fields).Nodup
  distinctTable : (keys document.table).Nodup

/-- A document that was written is read as what it was. -/
theorem read_render {document : Document} (proper : document.IsProper) :
    read document.render = some document := by
  have table : readLines (document.table.flatMap Field.render) =
      some (document.table.map .field) := by
    have found := readLines_fields proper.table []
    rwa [List.append_nil, show readLines [] = some [] by rw [readLines]; rfl, Option.map_some,
      List.append_nil] at found
  have written : document.render =
      document.fields.flatMap Field.render ++ (['\n'] ++
        ('[' :: document.tableName ++ "]\n".toList ++ document.table.flatMap Field.render)) := by
    simp [Document.render]
  have lines : readLines document.render =
      some (document.fields.map .field ++
        .table document.tableName :: document.table.map .field) := by
    rw [written, readLines_fields proper.fields,
      readLines_append (List.cons_ne_nil _ _) (readLine_empty _),
      readLines_append (by simp) (readLine_header proper.name _), table]
    rfl
  have distinct := And.intro proper.distinct proper.distinctTable
  simp only [read, lines, Option.bind_some, ofStatements, cutFields_append_table,
    cutFields_fields, if_pos distinct]

end BootManual.Toml
