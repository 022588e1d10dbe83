import BootManual.Journal

/-!
# Attempts

Reading a part of a manual writes records and then yields a value or fails.  What
was written before a failure stays written, and what would have come after it is
not attempted.
-/

namespace BootManual

/-- A computation that writes records and then yields a value or fails.  What was
written before a failure stays written. -/
structure Attempt (Value : Type) where
  log : List Record
  result : Except ParseError Value

namespace Attempt

/-- The attempt that yields a value and writes nothing. -/
def succeed {Value : Type} (value : Value) : Attempt Value :=
  ⟨[], .ok value⟩

/-- The attempt that fails and writes nothing. -/
def fail {Value : Type} (error : ParseError) : Attempt Value :=
  ⟨[], .error error⟩

/-- The attempt that writes one record about a line, numbered from zero. -/
def note (line : Nat) (notice : Notice) : Attempt Unit :=
  ⟨[⟨notice, line + 1⟩], .ok ()⟩

/-- One attempt after another: the second is made only if the first succeeds. -/
def andThen {First Second : Type} (first : Attempt First) (second : First → Attempt Second) :
    Attempt Second :=
  match first.result with
  | .ok value => ⟨first.log ++ (second value).log, (second value).result⟩
  | .error error => ⟨first.log, .error error⟩

instance : Monad Attempt where
  pure := succeed
  bind := andThen

variable {First Second : Type}

@[simp]
theorem log_pure (value : First) : (pure value : Attempt First).log = [] :=
  rfl

@[simp]
theorem result_pure (value : First) : (pure value : Attempt First).result = .ok value :=
  rfl

/-- An attempt that succeeds hands its value and its records on. -/
theorem bind_of_ok {first : Attempt First} {value : First} (success : first.result = .ok value)
    (second : First → Attempt Second) :
    first >>= second = ⟨first.log ++ (second value).log, (second value).result⟩ := by
  change andThen first second = _
  simp [andThen, success]

/-- An attempt that fails keeps what comes after it from being made. -/
theorem bind_of_error {first : Attempt First} {error : ParseError}
    (failure : first.result = .error error) (second : First → Attempt Second) :
    first >>= second = ⟨first.log, .error error⟩ := by
  change andThen first second = _
  simp [andThen, failure]

@[simp]
theorem note_bind (line : Nat) (notice : Notice) (second : Unit → Attempt Second) :
    note line notice >>= second = ⟨⟨notice, line + 1⟩ :: (second ()).log, (second ()).result⟩ :=
  bind_of_ok rfl second

end Attempt

end BootManual
