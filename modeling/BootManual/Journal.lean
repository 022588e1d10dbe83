import BootManual.Context

/-!
# The journal of a reading

While a manual is read, notices are written to a journal.  A notice says what
happened in terms of the manual; its level says how much detail a listener must
have asked for to see it.  A record is a notice and the line that it is about.  A
listener is told the number of that line if the number fits into 32 bits.
-/

namespace BootManual

/-- How much detail a notice is, from the gravest to the finest. -/
inductive LogLevel where
  | error
  | warn
  | info
  | debug
  | trace
  deriving DecidableEq, Repr

namespace LogLevel

/-- The rank of a level: the finer, the higher. -/
def rank : LogLevel → Nat
  | error => 0
  | warn => 1
  | info => 2
  | debug => 3
  | trace => 4

/-- Whether a listener at this level hears notices of the other level. -/
def hears (listener level : LogLevel) : Bool :=
  level.rank ≤ listener.rank

/-- The name of a level in small letters. -/
def name : LogLevel → Text
  | error => "error".toList
  | warn => "warn".toList
  | info => "info".toList
  | debug => "debug".toList
  | trace => "trace".toList

end LogLevel

/-- What happened while a manual was read. -/
inductive Notice where
  | openParameter (name : Text)
  | openSubparameter (name : Text)
  /-- A sub-parameter header stood where no parameter was open. -/
  | strayHeader (text : Text)
  | blockOpened
  | valuesRead (count : Nat) (name : Text)
  /-- A deep continuation line stood where no sub-parameter was open. -/
  | dropped (text : Text)
  | ignoredLine
  | commitParameter (name format : Text)
  | commitSubparameter (name : Text)
  /-- A parameter ended while its value block was open. -/
  | unterminatedBlock (name : Text)
  /-- A name occurred before, and the later entry is kept. -/
  | duplicateName (name : Text)
  deriving DecidableEq, Repr

namespace Notice

/-- The level of a notice. -/
def level : Notice → LogLevel
  | openParameter _ => .debug
  | openSubparameter _ => .debug
  | strayHeader _ => .debug
  | blockOpened => .trace
  | valuesRead _ _ => .trace
  | dropped _ => .trace
  | ignoredLine => .trace
  | commitParameter _ _ => .debug
  | commitSubparameter _ => .debug
  | unterminatedBlock _ => .trace
  | duplicateName _ => .warn

/-- The message of a notice. -/
def message : Notice → Text
  | openParameter name => "open parameter ".toList ++ name
  | openSubparameter name => "open sub-parameter ".toList ++ name
  | strayHeader text => "sub-parameter outside any parameter: ".toList ++ text
  | blockOpened => "value block opened".toList
  | valuesRead count name => Text.ofNat count ++ " values for ".toList ++ name
  | dropped text => "no sub-parameter open, dropping: ".toList ++ text
  | ignoredLine => "ignored line".toList
  | commitParameter name format =>
    "commit parameter ".toList ++ name ++ " (".toList ++ format ++ ")".toList
  | commitSubparameter name => "commit sub-parameter ".toList ++ name
  | unterminatedBlock name => "unterminated value block in ".toList ++ name
  | duplicateName name => "duplicate parameter ".toList ++ name ++ ", keeping the later one".toList

end Notice

/-- A notice and the line that it is about, counted from one. -/
structure Record where
  notice : Notice
  line : Nat
  deriving DecidableEq, Repr

namespace Record

/-- The line number that a listener is told: that of the line, or none if it takes more
than 32 bits. -/
def number (record : Record) : Option Nat :=
  if record.line < UInt32.size then some record.line else none

theorem mem_number_iff {record : Record} {number : Nat} :
    number ∈ record.number ↔ record.line = number ∧ number < UInt32.size := by
  rw [Record.number, Option.mem_ite_none_right, Option.mem_some]
  constructor
  · rintro ⟨bound, rfl⟩
    exact ⟨rfl, bound⟩
  · rintro ⟨rfl, bound⟩
    exact ⟨bound, rfl⟩

theorem exists_mem_number_iff {record : Record} {property : Nat → Prop} :
    (∃ number ∈ record.number, property number) ↔
      property record.line ∧ record.line < UInt32.size := by
  simp only [mem_number_iff, and_assoc, exists_eq_left']
  exact and_comm

end Record

/-- The records that a listener at this level hears. -/
def LogLevel.heard (listener : LogLevel) (records : List Record) : List Record :=
  records.filter fun record => listener.hears record.notice.level

end BootManual
