import BootManual.Text.Blank

/-!
# Control sequences

A text may hold sequences that a terminal obeys instead of showing them.  They
begin with the escape character; what follows says how they end.  Removing them
leaves the characters that a terminal shows: everything from the space upwards but
the delete character, and of the controls only those that lay out a text.

A layout character inside a sequence is kept and suspends the sequence, unless the
sequence carries a string.  From there on everything is kept that can be shown,
until a character that cannot be takes the sequence up again.  Only a character
beyond ASCII makes an end of a suspended sequence.

The carriers of strings end at a terminator, which is a single byte: any character
whose encoding has that byte ends them.
-/

namespace BootManual.ControlSequence

/-- How far a sequence has been read. -/
inductive Mode where
  /-- No sequence is open. -/
  | shown
  /-- Behind the escape character. -/
  | escape
  /-- Behind the intermediate characters of a short sequence. -/
  | shortSequence
  /-- In a sequence that is introduced by a bracket. -/
  | bracketed
  /-- At the start of the header of a device string. -/
  | deviceHeader
  /-- Among the parameters in such a header. -/
  | deviceParameters
  /-- Behind the intermediate characters in such a header. -/
  | deviceIntermediates
  /-- In a string that only the terminator ends. -/
  | string
  /-- In a string that the bell ends. -/
  | belledString
  deriving DecidableEq, Repr

/-- The controls that lay out a text: tab, newline, form feed and carriage return. -/
def isLayout (letter : Char) : Bool :=
  letter == '\t' || letter == '\n' || letter == '\x0c' || letter == '\r'

/-- The characters that are shown where no sequence is open. -/
def isShown (letter : Char) : Bool :=
  isLayout letter || (0x20 ≤ letter.toNat && letter.toNat != 0x7F)

/-- Whether the code of a character lies between two others, both included. -/
def isBetween (low high : Nat) (letter : Char) : Bool :=
  low ≤ letter.toNat && letter.toNat ≤ high

/-- The characters that come between the opening of a sequence and its end. -/
def isIntermediate (letter : Char) : Bool :=
  isBetween 0x20 0x2F letter

/-- Whether the encoding of a character has the byte that terminates strings. -/
def hasTerminator (letter : Char) : Bool :=
  (String.utf8EncodeChar letter).contains 0x9C

/-- Whether a character is kept.  Behind a kept one the mode does not matter. -/
def keeps (letter : Char) (mode : Mode) (showing : Bool) : Bool :=
  if showing then isShown letter
  else
    match mode with
    | .shown => isShown letter
    | .escape | .shortSequence | .bracketed => isLayout letter
    | _ => false

/-- The mode behind a character that is kept. -/
def afterKept (letter : Char) (mode : Mode) : Mode :=
  if letter.toNat < 0x80 then mode else .shown

/-- The mode behind the character that follows the escape character. -/
def introduced (letter : Char) : Mode :=
  if isIntermediate letter then .shortSequence
  else if letter = '[' then .bracketed
  else if letter = ']' then .belledString
  else if letter = 'P' then .deviceHeader
  else if letter = 'X' || letter = '^' || letter = '_' then .string
  else if isBetween 0x30 0x7E letter then .shown
  else .escape

/-- The mode behind a character of the header of a device string.  Letters end the
header, and so do parameters out of place. -/
def inHeader (letter : Char) (mode : Mode) (endsAtParameter : Bool) : Mode :=
  if isBetween 0x40 0x7E letter || endsAtParameter then .string
  else if isIntermediate letter then .deviceIntermediates
  else if isBetween 0x30 0x3F letter then .deviceParameters
  else mode

/-- The mode behind a character that is not kept.  Two controls break every
sequence off, and the escape character starts a new one. -/
def next (letter : Char) (mode : Mode) : Mode :=
  if letter = '\x18' || letter = '\x1a' then .shown
  else if letter = '\x1b' then .escape
  else
    match mode with
    | .shown => .shown
    | .escape => introduced letter
    | .shortSequence => if isBetween 0x30 0x7E letter then .shown else .shortSequence
    | .bracketed => if isBetween 0x40 0x7E letter then .shown else .bracketed
    | .deviceHeader => inHeader letter .deviceHeader false
    | .deviceParameters => inHeader letter .deviceParameters (isBetween 0x3C 0x3F letter)
    | .deviceIntermediates => inHeader letter .deviceIntermediates (isBetween 0x30 0x3F letter)
    | .string => if hasTerminator letter then .shown else .string
    | .belledString => if letter = '\x07' then .shown else .belledString

/-- The characters of a text that are kept, in a mode.  The flag says whether the
character in front of the text was kept. -/
def removeFrom (mode : Mode) (showing : Bool) : Text → Text
  | [] => []
  | letter :: rest =>
    if keeps letter mode showing then
      letter :: removeFrom (afterKept letter mode) true rest
    else
      removeFrom (next letter mode) false rest

/-- The text without control sequences and without controls that are not layout. -/
def remove (text : Text) : Text :=
  removeFrom .shown false text

/-- What is kept in any mode would be shown where no sequence is open. -/
theorem isShown_of_keeps {letter : Char} {mode : Mode} {showing : Bool}
    (kept : keeps letter mode showing) : isShown letter := by
  cases showing <;> cases mode <;> simp_all [keeps, isShown]

/-- All that is left is shown. -/
theorem isShown_of_mem_removeFrom {letter : Char} {mode : Mode} {showing : Bool} {text : Text}
    (left : letter ∈ removeFrom mode showing text) : isShown letter := by
  induction text generalizing mode showing with
  | nil => simp [removeFrom] at left
  | cons first rest inductionHypothesis =>
    rw [removeFrom] at left
    split at left
    · next kept =>
      rcases List.mem_cons.mp left with rfl | inRest
      · exact isShown_of_keeps kept
      · exact inductionHypothesis inRest
    · exact inductionHypothesis left

/-- Where no sequence is open, a text of shown characters stays as it is. -/
theorem removeFrom_shown_eq_self {showing : Bool} {text : Text}
    (shown : ∀ letter ∈ text, isShown letter) : removeFrom .shown showing text = text := by
  induction text generalizing showing with
  | nil => rfl
  | cons first rest inductionHypothesis =>
    have visible : isShown first = true := shown first List.mem_cons_self
    have kept : keeps first .shown showing = true := by simp [keeps, visible]
    have closed : afterKept first .shown = .shown := by simp [afterKept]
    rw [removeFrom, if_pos kept, closed,
      inductionHypothesis fun letter inRest => shown letter (List.mem_cons_of_mem _ inRest)]

/-- A text of shown characters stays as it is. -/
theorem remove_eq_self {text : Text} (shown : ∀ letter ∈ text, isShown letter) :
    remove text = text :=
  removeFrom_shown_eq_self shown

/-- Nothing is left to be removed from what is left. -/
@[simp]
theorem remove_remove (text : Text) : remove (remove text) = remove text :=
  remove_eq_self fun _ left => isShown_of_mem_removeFrom left

end BootManual.ControlSequence
