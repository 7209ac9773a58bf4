/-
**Ways a computation ends without its value.**

* `Abort` — the machine stopped in the middle: an arithmetic result did not fit its word, a divisor
  was zero, an access left the arena, a chain never ended, or the processor was halted for good.
* `Failure` — either a refusal for a cause of the operation's own kind, or an abort.
* `Answer` — a value or a failure, for questions that change nothing.

A refusal is an ordinary answer to the caller. An abort is not: whatever was written before it stays
written, and nothing after it runs.
-/

namespace MiniKernel

/-- The arithmetic operations whose results are checked against their word. -/
inductive Arithmetic
  | add
  | subtract
  | multiply
  | shiftLeft
  deriving DecidableEq, Repr

/-- The verb phrase for an operation in a message. -/
def Arithmetic.phrase : Arithmetic → String
  | .add => "add"
  | .subtract => "subtract"
  | .multiply => "multiply"
  | .shiftLeft => "shift left"

/-- Why a computation stopped in the middle. -/
inductive Abort
  /-- The result does not fit the word it is computed in. -/
  | overflow (operation : Arithmetic)
  | divideByZero
  /-- An access that ends at `stop` in storage of `length` bytes. -/
  | outOfRange (stop length : Nat)
  /-- A loop that comes back to where it was. -/
  | endless
  /-- The processor was stopped for good. -/
  | halted
  deriving DecidableEq, Repr

/-- The wording of an abort. -/
def Abort.message : Abort → String
  | .overflow operation => "attempt to " ++ operation.phrase ++ " with overflow"
  | .divideByZero => "attempt to divide by zero"
  | .outOfRange stop length =>
    "range end index " ++ toString stop ++ " out of range for slice of length " ++ toString length
  | .endless => "computation does not end"
  | .halted => "cpu halted"

/-- A refusal for a cause in `ε`, or an abort. -/
inductive Failure (ε : Type)
  | refused (cause : ε)
  | aborted (cause : Abort)
  deriving DecidableEq, Repr

/-- The same failure with its refusals renamed. -/
def Failure.map {ε δ : Type} (rename : ε → δ) : Failure ε → Failure δ
  | .refused cause => .refused (rename cause)
  | .aborted cause => .aborted cause

/-- The outcome of a question: a value or a failure. -/
abbrev Answer (ε α : Type) := Except (Failure ε) α

namespace Answer

variable {ε α : Type}

/-- Turn the question down for `cause`. -/
def refuse (cause : ε) : Answer ε α := .error (.refused cause)

/-- Stop the computation. -/
def abort (cause : Abort) : Answer ε α := .error (.aborted cause)

/-- The computation came to its end: it has a value or a refusal. -/
def Returns (answer : Answer ε α) : Prop := ∀ cause, answer ≠ .error (.aborted cause)

theorem returns_ok (value : α) : Returns (.ok value : Answer ε α) := fun _ equal => by cases equal

@[simp] theorem returns_map {β : Type} {answer : Answer ε α} {rename : α → β} :
    Returns (answer.map rename) ↔ Returns answer := by
  cases answer with
  | error failure =>
    exact ⟨fun returns cause stopped => returns cause (congrArg _ (Except.error.inj stopped)),
      fun returns cause stopped => returns cause (congrArg _ (Except.error.inj stopped))⟩
  | ok value => exact ⟨fun _ => returns_ok value, fun _ => returns_ok _⟩

@[simp] theorem returns_mapError {δ : Type} {answer : Answer ε α} {rename : ε → δ} :
    Returns (answer.mapError (Failure.map rename) : Answer δ α) ↔ Returns answer := by
  constructor
  · rintro returns cause rfl
    exact returns cause rfl
  · intro returns cause stopped
    cases answer with
    | ok value => cases stopped
    | error failure =>
      cases failure with
      | refused _ => cases stopped
      | aborted _ => exact returns _ rfl

theorem returns_of_map {β : Type} {answer : Answer ε α} {rename : α → β}
    (returns : Returns (answer.map rename)) : Returns answer := returns_map.mp returns

theorem returns_refused (cause : ε) : Returns (.error (.refused cause) : Answer ε α) :=
  fun _ equal => by cases equal

end Answer

end MiniKernel
