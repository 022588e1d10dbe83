import BootManual.Toml.Quotation
import BootManual.Proofs.Cutting

/-!
# Reading strings of TOML

A reader of all four kinds of strings that TOML has.  Between double marks a backslash
begins an escape, or joins lines in a block; between single marks all characters stand
for themselves.  Inside a block one or two marks in a row are content, at its end as
well, so a reader holds them back until it knows whether a third one follows.  A string
that was quoted is read as the text that it quotes, whatever is in it.
-/

namespace BootManual.Toml

/-! ## Characters -/

/-- White space inside a line. -/
def isSpace (letter : Char) : Bool :=
  letter == ' ' || letter == '\t'

/-- A character that may stand in a string or a comment as it is, newlines aside: a tab,
or any one that is not a control character. -/
def isPrintable (letter : Char) : Bool :=
  letter == '\t' || (0x20 ≤ letter.toNat && letter.toNat != 0x7F)

/-- The character that a letter behind a backslash stands for. -/
def shortEscape? (letter : Char) : Option Char :=
  if letter = 'b' then some '\x08'
  else if letter = 't' then some '\t'
  else if letter = 'n' then some '\n'
  else if letter = 'f' then some '\x0c'
  else if letter = 'r' then some '\r'
  else if letter = '"' then some '"'
  else if letter = '\\' then some '\\'
  else none

/-- The value of a hexadecimal digit, in capitals or small letters. -/
def hexValue? (digit : Char) : Option Nat :=
  if '0' ≤ digit ∧ digit ≤ '9' then some (digit.toNat - '0'.toNat)
  else if 'A' ≤ digit ∧ digit ≤ 'F' then some (digit.toNat - 'A'.toNat + 10)
  else if 'a' ≤ digit ∧ digit ≤ 'f' then some (digit.toNat - 'a'.toNat + 10)
  else none

/-- The character with a code, unless it is the code of a surrogate or of none. -/
def scalar? (code : Nat) : Option Char :=
  if code.isValidChar then some (Char.ofNat code) else none

/-! ## The reader -/

/-- What has been read and what is left, with more in front of what has been read. -/
def push (front : Text) (read : Option (Text × Text)) : Option (Text × Text) :=
  read.map fun read => (front ++ read.1, read.2)

/-- What is left behind the three marks that close a block.  Up to two further marks
behind them are content. -/
def closeBlock (mark : Char) (text : Text) : Text × Text :=
  let marks := (text.take 2).takeWhile fun letter => letter == mark
  (marks, text.drop marks.length)

/-- Where a reader stands between double marks. -/
inductive Stand where
  /-- Between two characters, behind so many marks that may be content. -/
  | content (marks : Nat)
  /-- Behind a backslash. -/
  | escape
  /-- In the digits of a code, of which so many are to come after the next one. -/
  | code (digits value : Nat)
  /-- Behind a backslash and white space, in front of the end of the line. -/
  | lineEnd
  /-- At the beginning of a line that a backslash joins to the one before. -/
  | lineStart

/-- Read what stands between double marks, in a block or on a line, up to and including
the closing marks. -/
def readDouble (block : Bool) : Stand → Text → Option (Text × Text)
  | _, [] => none
  | .content marks, letter :: rest =>
    if letter = '"' then
      if !block then some ([], rest)
      else if marks < 2 then readDouble block (.content (marks + 1)) rest
      else some (closeBlock '"' rest)
    else
      push (List.replicate marks '"')
        (if letter = '\\' then readDouble block .escape rest
        else if isPrintable letter || (block && letter == '\n') then
          push [letter] (readDouble block (.content 0) rest)
        else none)
  | .escape, letter :: rest =>
    if letter = 'u' then readDouble block (.code 3 0) rest
    else if letter = 'U' then readDouble block (.code 7 0) rest
    else if block && isSpace letter then readDouble block .lineEnd rest
    else if block && letter == '\n' then readDouble block .lineStart rest
    else
      match shortEscape? letter with
      | some meant => push [meant] (readDouble block (.content 0) rest)
      | none => none
  | .code digits value, digit :: rest =>
    match hexValue? digit with
    | none => none
    | some figure =>
      match digits with
      | digits + 1 => readDouble block (.code digits (16 * value + figure)) rest
      | 0 =>
        match scalar? (16 * value + figure) with
        | some meant => push [meant] (readDouble block (.content 0) rest)
        | none => none
  | .lineEnd, letter :: rest =>
    if isSpace letter then readDouble block .lineEnd rest
    else if letter = '\n' then readDouble block .lineStart rest
    else none
  | .lineStart, letter :: rest =>
    if isSpace letter || letter == '\n' then readDouble block .lineStart rest
    else if letter = '"' then readDouble block (.content 1) rest
    else if letter = '\\' then readDouble block .escape rest
    else if isPrintable letter then push [letter] (readDouble block (.content 0) rest)
    else none

/-- Read what stands between single marks, in a block or on a line, up to and including
the closing marks, from behind so many marks that may be content. -/
def readSingle (block : Bool) : Nat → Text → Option (Text × Text)
  | _, [] => none
  | marks, letter :: rest =>
    if letter = '\'' then
      if !block then some ([], rest)
      else if marks < 2 then readSingle block (marks + 1) rest
      else some (closeBlock '\'' rest)
    else if isPrintable letter || (block && letter == '\n') then
      push (List.replicate marks '\'' ++ [letter]) (readSingle block 0 rest)
    else none

/-- A newline directly behind the opening marks of a block is no content. -/
def dropBreak : Text → Text
  | '\n' :: rest => rest
  | text => text

/-- Read a string of any kind.  Three marks open a block. -/
def readString (text : Text) : Option (Text × Text) :=
  match Text.after? ['"', '"', '"'] text with
  | some rest => readDouble true (.content 0) (dropBreak rest)
  | none =>
    match Text.after? ['\'', '\'', '\''] text with
    | some rest => readSingle true 0 (dropBreak rest)
    | none =>
      match text with
      | '"' :: rest => readDouble false (.content 0) rest
      | '\'' :: rest => readSingle false 0 rest
      | _ => none

/-! ## Double marks -/

@[simp]
theorem push_some (front text rest : Text) :
    push front (some (text, rest)) = some (front ++ text, rest) :=
  rfl

@[simp]
theorem push_nil (read : Option (Text × Text)) : push [] read = read := by
  cases read <;> rfl

theorem push_push (front next : Text) (read : Option (Text × Text)) :
    push front (push next read) = push (front ++ next) read := by
  cases read with
  | none => rfl
  | some read => simp [push]

theorem hexValue?_hexDigit : ∀ value < 16, hexValue? (Text.hexDigit value) = some value := by
  decide

theorem scalar?_toNat (letter : Char) : scalar? letter.toNat = some letter := by
  have valid : letter.toNat.isValidChar := letter.valid
  rw [scalar?, if_pos valid, Char.ofNat_toNat]

theorem isPrintable_of_isControl_eq_false {letter : Char} (plain : isControl letter = false)
    (inside : letter ≠ '\n') : isPrintable letter := by
  by_cases tab : letter = '\t'
  · simp [isPrintable, tab]
  · simp only [isControl, Bool.or_eq_false_iff, Bool.and_eq_false_iff, decide_eq_false_iff_not,
      bne_eq_false_iff_eq, tab, inside, or_false, beq_eq_false_iff_ne] at plain
    simp [isPrintable, plain.2, Nat.le_of_not_lt plain.1]

section Double

variable (block : Bool) (marks : Nat) (rest : Text)

/-- A code in four digits is read as the character that has it. -/
theorem readDouble_code {letter : Char} (small : letter.toNat < 0x10000) :
    readDouble block (.code 3 0) (Text.hexDigits 4 letter.toNat ++ rest) =
      push [letter] (readDouble block (.content 0) rest) := by
  have digit (value : Nat) : hexValue? (Text.hexDigit (value % 16)) = some (value % 16) :=
    hexValue?_hexDigit _ (Nat.mod_lt _ (by decide))
  have code : 16 * (16 * (16 * (16 * 0 + letter.toNat / 16 / 16 / 16 % 16) +
      letter.toNat / 16 / 16 % 16) + letter.toNat / 16 % 16) + letter.toNat % 16 =
        letter.toNat := by
    omega
  simp only [Text.hexDigits, List.nil_append, List.cons_append, readDouble, digit, code,
    scalar?_toNat]

/-- A character that was escaped if it has to be is read as that character. -/
theorem readDouble_escapeLetter {letter : Char} (unquoted : letter ≠ '"')
    (inside : letter ≠ '\n') :
    readDouble block (.content marks) (escapeLetter letter ++ rest) =
      push (List.replicate marks '"' ++ [letter]) (readDouble block (.content 0) rest) := by
  rw [escapeLetter]
  split
  · next same => simp [readDouble, same, shortEscape?, isSpace, push_push]
  split
  · next same => simp [readDouble, same, shortEscape?, isSpace, push_push]
  split
  · next same => simp [readDouble, same, shortEscape?, isSpace, push_push]
  split
  · next same => simp [readDouble, same, shortEscape?, isSpace, push_push]
  split
  · next same => simp [readDouble, same, shortEscape?, isSpace, push_push]
  split
  · next control =>
    have small : letter.toNat < 0x10000 := by
      simp only [isControl, Bool.or_eq_true, Bool.and_eq_true, decide_eq_true_eq, beq_iff_eq]
        at control
      omega
    simp [readDouble, readDouble_code block rest small, push_push]
  · next _ _ _ _ plain control =>
    have printable := isPrintable_of_isControl_eq_false (eq_false_of_ne_true control) inside
    simp [readDouble, unquoted, plain, printable, push_push]

end Double

/-- What was escaped for a line is read up to the closing mark. -/
theorem readDouble_escapeLine (text rest : Text) :
    readDouble false (.content 0) (escapeLine text ++ '"' :: rest) = some (text, rest) := by
  induction text with
  | nil => simp [escapeLine, readDouble]
  | cons letter text inductionHypothesis =>
      rw [escapeLine]
      split
      · next same => simp [readDouble, shortEscape?, same, inductionHypothesis]
      split
      · next same => simp [readDouble, shortEscape?, same, inductionHypothesis]
      · next unquoted inside =>
        rw [List.append_assoc, readDouble_escapeLetter _ _ _ unquoted inside, inductionHypothesis]
        rfl

/-- A text does not begin with a mark. -/
def IsApart (mark : Char) (text : Text) : Prop :=
  text.head? ≠ some mark

theorem closeBlock_replicate {mark : Char} {rest : Text} (apart : IsApart mark rest) {marks : Nat}
    (few : marks ≤ 2) :
    closeBlock mark (List.replicate marks mark ++ rest) = (List.replicate marks mark, rest) := by
  have stops (count : Nat) : ((rest.take count).takeWhile fun letter => letter == mark) = [] := by
    rcases rest with _ | ⟨first, rest⟩
    · simp
    · have different : first ≠ mark := fun same => apart (congrArg some same)
      cases count <;> simp [different]
  have front :
      ((List.replicate marks mark ++ rest).take 2).takeWhile (fun letter => letter == mark) =
        List.replicate marks mark := by
    rw [List.take_append, List.take_replicate, Nat.min_eq_right few, List.length_replicate,
      List.takeWhile_append_of_pos (by simp), stops, List.append_nil]
  rw [closeBlock, front]
  simp

/-- Three marks close a block.  Marks in front of them are content. -/
theorem readDouble_close {rest : Text} (apart : IsApart '"' rest) {marks : Nat} (few : marks ≤ 2) :
    readDouble true (.content marks) ('"' :: '"' :: '"' :: rest) =
      some (List.replicate marks '"', rest) := by
  have closed := closeBlock_replicate apart few
  obtain rfl | rfl | rfl : marks = 0 ∨ marks = 1 ∨ marks = 2 := by omega
  all_goals simpa [readDouble, List.replicate] using closed

/-- What was escaped for a block is read up to the closing marks. -/
theorem readDouble_escapeBlock {rest : Text} (apart : IsApart '"' rest) (text : Text)
    {marks : Nat} (few : marks ≤ 2) :
    readDouble true (.content marks) (escapeBlock marks text ++ '"' :: '"' :: '"' :: rest) =
      some (List.replicate marks '"' ++ text, rest) := by
  induction text generalizing marks with
  | nil => rw [escapeBlock, List.nil_append, List.append_nil, readDouble_close apart few]
  | cons letter text inductionHypothesis =>
      -- The reader has counted as many marks as the writer, so it holds back at most two.
      rw [escapeBlock]
      split
      · next same =>
        subst same
        split
        · next fewer =>
          rw [List.cons_append, readDouble, if_pos rfl, if_neg (by simp), if_pos fewer,
            inductionHypothesis fewer, List.replicate_succ', List.append_assoc]
          rfl
        · have next := inductionHypothesis (Nat.zero_le 2)
          simp [readDouble, shortEscape?, isSpace, next]
      split
      · next same => simp [readDouble, isPrintable, same, inductionHypothesis (Nat.zero_le 2)]
      · next unquoted inside =>
        rw [List.append_assoc, readDouble_escapeLetter _ _ _ unquoted inside,
          inductionHypothesis (Nat.zero_le 2)]
        simp

/-! ## Single marks -/

/-- What stands between single marks on a line is read as it is. -/
theorem readSingle_line {text : Text} (plain : text.any isControl = false) (unmarked : '\'' ∉ text)
    (inside : '\n' ∉ text) (rest : Text) :
    readSingle false 0 (text ++ '\'' :: rest) = some (text, rest) := by
  induction text with
  | nil => rfl
  | cons letter text inductionHypothesis =>
      rw [List.any_cons, Bool.or_eq_false_iff] at plain
      rw [List.mem_cons, not_or] at unmarked inside
      have printable := isPrintable_of_isControl_eq_false plain.1 (Ne.symm inside.1)
      have next := inductionHypothesis plain.2 unmarked.2 inside.2
      simp [readSingle, Ne.symm unmarked.1, printable, next]

/-- Three marks close a block.  Marks in front of them are content. -/
theorem readSingle_close {rest : Text} (apart : IsApart '\'' rest) {marks : Nat}
    (few : marks ≤ 2) :
    readSingle true marks ('\'' :: '\'' :: '\'' :: rest) =
      some (List.replicate marks '\'', rest) := by
  have closed := closeBlock_replicate apart few
  obtain rfl | rfl | rfl : marks = 0 ∨ marks = 1 ∨ marks = 2 := by omega
  all_goals simpa [readSingle, List.replicate] using closed

theorem le_longestRun (mark : Char) (current : Nat) (text : Text) :
    current ≤ longestRun mark current text := by
  induction text generalizing current with
  | nil => exact Nat.le_refl current
  | cons letter text inductionHypothesis =>
      rw [longestRun]
      split
      · exact Nat.le_of_succ_le (inductionHypothesis (current + 1))
      · exact Nat.le_max_left _ _

/-- What stands between single marks in a block is read as it is, as long as there are
never three marks in a row. -/
theorem readSingle_block {rest : Text} (apart : IsApart '\'' rest) {text : Text}
    (plain : text.any isControl = false) {marks : Nat} (few : longestRun '\'' marks text ≤ 2) :
    readSingle true marks (text ++ '\'' :: '\'' :: '\'' :: rest) =
      some (List.replicate marks '\'' ++ text, rest) := by
  induction text generalizing marks with
  | nil =>
      rw [longestRun] at few
      rw [List.nil_append, List.append_nil, readSingle_close apart few]
  | cons letter text inductionHypothesis =>
      rw [List.any_cons, Bool.or_eq_false_iff] at plain
      rw [longestRun] at few
      split at few
      · next same =>
        subst same
        have fewer : marks < 2 := Nat.le_trans (le_longestRun '\'' (marks + 1) text) few
        rw [List.cons_append, readSingle, if_pos rfl, if_neg (by simp), if_pos fewer,
          inductionHypothesis plain.2 few, List.replicate_succ', List.append_assoc]
        rfl
      · next unquoted =>
        have next := inductionHypothesis plain.2 (Nat.max_le.mp few).2
        have legible : isPrintable letter || (true && letter == '\n') := by
          by_cases newline : letter = '\n'
          · simp [newline]
          · simp [isPrintable_of_isControl_eq_false plain.1 newline]
        rw [List.cons_append, readSingle, if_neg unquoted, if_pos legible, next]
        simp

/-! ## Quoted texts -/

theorem exists_escapeLetter (letter : Char) :
    ∃ first rest, escapeLetter letter = first :: rest ∧ (first = '\\' ∨ first = letter) := by
  rw [escapeLetter]
  split
  · exact ⟨_, _, rfl, .inl rfl⟩
  split
  · exact ⟨_, _, rfl, .inl rfl⟩
  split
  · exact ⟨_, _, rfl, .inl rfl⟩
  split
  · exact ⟨_, _, rfl, .inl rfl⟩
  split
  · exact ⟨_, _, rfl, .inl rfl⟩
  split
  · exact ⟨_, _, rfl, .inl rfl⟩
  · exact ⟨_, _, rfl, .inr rfl⟩

/-- What was escaped for a line begins with no mark. -/
theorem isApart_escapeLine (text : Text) : IsApart '"' (escapeLine text) := by
  cases text with
  | nil => simp [IsApart, escapeLine]
  | cons letter text =>
      rw [escapeLine]
      split
      · simp [IsApart]
      split
      · simp [IsApart]
      · next unquoted _ =>
        obtain ⟨first, rest, escaped, begins⟩ := exists_escapeLetter letter
        rw [escaped]
        rcases begins with rfl | rfl <;> simp [IsApart, unquoted]

/-- What was escaped for a block begins with a newline only if the text does. -/
theorem isApart_escapeBlock {text : Text} (inside : '\n' ∉ text) (marks : Nat) :
    IsApart '\n' (escapeBlock marks text) := by
  cases text with
  | nil => simp [IsApart, escapeBlock]
  | cons letter text =>
      rw [List.mem_cons, not_or] at inside
      rw [escapeBlock, if_neg (Ne.symm inside.1)]
      split
      · split <;> simp [IsApart]
      · obtain ⟨first, rest, escaped, begins⟩ := exists_escapeLetter letter
        rw [escaped]
        rcases begins with rfl | rfl <;> simp [IsApart, Ne.symm inside.1]

/-- A text that begins elsewhere than with a mark does so with anything but that mark
behind it. -/
theorem IsApart.append {mark : Char} {text rest : Text} (apart : IsApart mark text)
    (restApart : IsApart mark rest) : IsApart mark (text ++ rest) := by
  cases text with
  | nil => exact restApart
  | cons first text => exact apart

theorem dropBreak_of_isApart {text : Text} (apart : IsApart '\n' text) : dropBreak text = text := by
  cases text with
  | nil => rfl
  | cons first text =>
      have other : first ≠ '\n' := fun same => apart (congrArg some same)
      rw [dropBreak]
      rintro _ ⟨rfl, rfl⟩
      contradiction

/-- The content of a block, behind a newline if it has several lines, is found behind the
opening marks. -/
theorem dropBreak_content {text content : Text} (plain : '\n' ∉ text → IsApart '\n' content) :
    dropBreak ((if text.contains '\n' then ['\n'] else []) ++ content) = content := by
  by_cases inside : '\n' ∈ text
  · simp [inside, dropBreak]
  · simp [inside, dropBreak_of_isApart (plain inside)]

/-- Three double marks open a block. -/
theorem readString_openDouble (rest : Text) :
    readString ('"' :: '"' :: '"' :: rest) = readDouble true (.content 0) (dropBreak rest) := by
  simp [readString, Text.after?, List.isPrefixOf?]

/-- Three single marks open a block. -/
theorem readString_openSingle (rest : Text) :
    readString ('\'' :: '\'' :: '\'' :: rest) = readSingle true 0 (dropBreak rest) := by
  simp [readString, Text.after?, List.isPrefixOf?]

/-- A mark opens a line if no three marks stand there, which they do not in front of
content that begins with no mark, even if it is empty. -/
theorem not_prefix_marks {mark : Char} {content rest : Text} (apart : IsApart mark content)
    (restApart : IsApart mark rest) :
    ¬ [mark, mark, mark] <+: mark :: (content ++ mark :: rest) := by
  intro opens
  cases content with
  | nil =>
      cases rest with
      | nil => simp at opens
      | cons first rest => simp_all [IsApart]
  | cons first content => simp_all [IsApart]

section Read

variable {text rest : Text}

theorem readString_basic (apart : IsApart '"' rest) :
    readString (Quotation.basic.write text ++ rest) = some (text, rest) := by
  have written : Quotation.basic.write text ++ rest = '"' :: (escapeLine text ++ '"' :: rest) := by
    simp [Quotation.write, Quotation.marks, Quotation.isBlock, Quotation.content]
  have line := Text.after?_eq_none_iff.mpr (not_prefix_marks (isApart_escapeLine text) apart)
  rw [written, readString, line]
  exact readDouble_escapeLine text rest

theorem readString_literal (fits : Quotation.literal.fits text) (apart : IsApart '\'' rest) :
    readString (Quotation.literal.write text ++ rest) = some (text, rest) := by
  have written : Quotation.literal.write text ++ rest = '\'' :: (text ++ '\'' :: rest) := by
    simp [Quotation.write, Quotation.marks, Quotation.isBlock, Quotation.content]
  simp only [Quotation.fits, Bool.and_eq_true, Bool.not_eq_true', List.contains_eq_mem,
    decide_eq_false_iff_not] at fits
  have begins : IsApart '\'' text := fun opens => fits.1.2 (List.mem_of_mem_head? opens)
  have line := Text.after?_eq_none_iff.mpr (not_prefix_marks begins apart)
  rw [written, readString, line]
  exact readSingle_line fits.1.1 fits.1.2 fits.2 rest

theorem readString_basicBlock (apart : IsApart '"' rest) :
    readString (Quotation.basicBlock.write text ++ rest) = some (text, rest) := by
  have written : Quotation.basicBlock.write text ++ rest =
      '"' :: '"' :: '"' :: ((if text.contains '\n' then ['\n'] else []) ++
        (escapeBlock 0 text ++ '"' :: '"' :: '"' :: rest)) := by
    simp [Quotation.write, Quotation.marks, Quotation.isBlock, Quotation.content]
  have content := readDouble_escapeBlock apart text (Nat.zero_le 2)
  rw [written, readString_openDouble, dropBreak_content]
  · exact content
  · intro inside
    exact (isApart_escapeBlock inside 0).append (by simp [IsApart])

theorem readString_literalBlock (fits : Quotation.literalBlock.fits text)
    (apart : IsApart '\'' rest) :
    readString (Quotation.literalBlock.write text ++ rest) = some (text, rest) := by
  have written : Quotation.literalBlock.write text ++ rest =
      '\'' :: '\'' :: '\'' :: ((if text.contains '\n' then ['\n'] else []) ++
        (text ++ '\'' :: '\'' :: '\'' :: rest)) := by
    simp [Quotation.write, Quotation.marks, Quotation.isBlock, Quotation.content]
  simp only [Quotation.fits, Bool.and_eq_true, Bool.not_eq_true', decide_eq_true_eq] at fits
  have content := readSingle_block apart fits.1 fits.2
  rw [written, readString_openSingle, dropBreak_content]
  · exact content
  · intro inside
    exact IsApart.append (fun opens => inside (List.mem_of_mem_head? opens)) (by simp [IsApart])

end Read

/-- A string that was quoted is read as the text that it quotes, unless a mark follows. -/
theorem readString_quote (text : Text) {rest : Text} (apart : IsApart '"' rest)
    (apart' : IsApart '\'' rest) : readString (quote text ++ rest) = some (text, rest) := by
  rw [quote, Quotation.choose]
  split
  · exact readString_basic apart
  split
  · next fits => exact readString_literal fits apart'
  split
  · exact readString_basicBlock apart
  split
  · next fits => exact readString_literalBlock fits apart'
  split
  · exact readString_basicBlock apart
  · exact readString_basic apart

end BootManual.Toml
