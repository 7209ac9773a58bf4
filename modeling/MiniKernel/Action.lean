/-
**Computations that change a state and leave effects.**

An `Action σ ε α` runs from a state `σ`. It ends with a value in `α` or a failure, with a state in
either case, and with the effects it had on the way.

* `Action.bind_apply` — the second computation runs from the state the first one left, and only if
  the first one ended with a value; the effects are those of both in order.
* `Action.within_apply` — a computation on a part leaves the whole as it was around that part.
* The monad laws hold (`LawfulMonad`).
-/

import MiniKernel.Abort
import MiniKernel.Effect

namespace MiniKernel

/-- How a computation ended. -/
structure Outcome (σ ε α : Type) where
  result : Answer ε α
  state : σ
  effects : List Effect

/-- A computation on a state `σ` that may refuse for a cause in `ε`. -/
def Action (σ ε α : Type) : Type := σ → Outcome σ ε α

namespace Action

variable {σ τ ε δ α β : Type}

/-- End with a value and change nothing. -/
def done (value : α) : Action σ ε α := fun state => ⟨.ok value, state, []⟩

/-- Run a computation, then the one its value selects. -/
def andThen (first : Action σ ε α) (next : α → Action σ ε β) : Action σ ε β := fun state =>
  let outcome := first state
  match outcome.result with
  | .error failure => ⟨.error failure, outcome.state, outcome.effects⟩
  | .ok value =>
    let rest := next value outcome.state
    ⟨rest.result, rest.state, outcome.effects ++ rest.effects⟩

instance : Monad (Action σ ε) where
  pure := done
  bind := andThen

/-- Take the answer to a question. -/
def ask (answer : Answer ε α) : Action σ ε α := fun state => ⟨answer, state, []⟩

instance : MonadStateOf σ (Action σ ε) where
  get := fun state => ⟨.ok state, state, []⟩
  set := fun state _ => ⟨.ok ⟨⟩, state, []⟩
  modifyGet := fun change state => ⟨.ok (change state).1, (change state).2, []⟩

/-- Turn the request down for `cause`. -/
def refuse (cause : ε) : Action σ ε α := ask (.refuse cause)

/-- Stop the computation. -/
def abort (cause : Abort) : Action σ ε α := ask (.abort cause)

/-- Leave an effect. -/
def emit (effect : Effect) : Action σ ε Unit := fun state => ⟨.ok ⟨⟩, state, [effect]⟩

/-- Report a notice to the log. -/
def report (notice : Notice) : Action σ ε Unit := emit (.report notice)

/-- Report notices in order. -/
def reportAll (notices : List Notice) : Action σ ε Unit := fun state =>
  ⟨.ok ⟨⟩, state, notices.map .report⟩

/-- Run a computation on a part of the state. -/
def within (part : σ → τ) (put : τ → σ → σ) (action : Action τ ε α) : Action σ ε α := fun state =>
  let outcome := action (part state)
  ⟨outcome.result, put outcome.state state, outcome.effects⟩

/-- Rename the causes a computation may refuse for. -/
def relabel (rename : ε → δ) (action : Action σ ε α) : Action σ δ α := fun state =>
  let outcome := action state
  ⟨outcome.result.mapError (Failure.map rename), outcome.state, outcome.effects⟩

/-- Run a computation and hand a refusal on as a value; an abort stays one. -/
def attempt (action : Action σ ε α) : Action σ δ (Except ε α) := fun state =>
  let outcome := action state
  match outcome.result with
  | .ok value => ⟨.ok (.ok value), outcome.state, outcome.effects⟩
  | .error (.refused cause) => ⟨.ok (.error cause), outcome.state, outcome.effects⟩
  | .error (.aborted cause) => ⟨.error (.aborted cause), outcome.state, outcome.effects⟩

/-- Run a computation that refuses for no cause wherever one is expected. -/
def always (action : Action σ Empty α) : Action σ ε α := relabel Empty.elim action

/-- Run the computation an outcome of a choice calls for, refusing with its error otherwise. -/
def ofExcept : Except ε α → Action σ ε α
  | .ok value => done value
  | .error cause => refuse cause

/-! ### What each computation does -/

theorem pure_apply (value : α) (state : σ) :
    (pure value : Action σ ε α) state = ⟨.ok value, state, []⟩ := rfl

theorem bind_apply (first : Action σ ε α) (next : α → Action σ ε β) (state : σ) :
    (first >>= next) state =
      match (first state).result with
      | .error failure => ⟨.error failure, (first state).state, (first state).effects⟩
      | .ok value =>
        ⟨(next value (first state).state).result, (next value (first state).state).state,
          (first state).effects ++ (next value (first state).state).effects⟩ := rfl

/-- A first computation that answers hands its value and state on. -/
theorem bind_apply_ok {first : Action σ ε α} {next : α → Action σ ε β} {state after : σ}
    {value : α} {effects : List Effect} (ends : first state = ⟨.ok value, after, effects⟩) :
    (first >>= next) state =
      ⟨(next value after).result, (next value after).state,
        effects ++ (next value after).effects⟩ := by
  rw [bind_apply, ends]

/-- A first computation that fails is the whole computation. -/
theorem bind_apply_error {first : Action σ ε α} {next : α → Action σ ε β} {state after : σ}
    {failure : Failure ε} {effects : List Effect}
    (ends : first state = ⟨.error failure, after, effects⟩) :
    (first >>= next) state = ⟨.error failure, after, effects⟩ := by
  rw [bind_apply, ends]

/-- Two computations in a row, each with what it does. -/
theorem bind_steps {first : Action σ ε α} {next : α → Action σ ε β} {state middle after : σ}
    {value : α} {result : Answer ε β} {effects more : List Effect}
    (ends : first state = ⟨.ok value, middle, effects⟩)
    (goes : next value middle = ⟨result, after, more⟩) :
    (first >>= next) state = ⟨result, after, effects ++ more⟩ := by
  rw [bind_apply_ok ends, goes]

/-- A first computation without effects hands its value and state on. -/
theorem bind_quiet {first : Action σ ε α} {next : α → Action σ ε β} {state middle : σ} {value : α}
    (ends : first state = ⟨.ok value, middle, []⟩) :
    (first >>= next) state = next value middle := by
  rw [bind_apply_ok ends]
  rfl

/-- A computation whose value is renamed. -/
theorem map_apply (rename : α → β) (action : Action σ ε α) (state : σ) :
    (rename <$> action) state =
      ⟨(action state).result.map rename, (action state).state, (action state).effects⟩ := by
  show (action >>= fun value => pure (rename value)) state = _
  rw [bind_apply]
  cases (action state).result with
  | error failure => rfl
  | ok value =>
    show (⟨_, _, _ ++ []⟩ : Outcome σ ε β) = _
    rw [List.append_nil]
    rfl

/-- What comes second matters only on the value that the first computation answers. -/
theorem bind_eq_bind {first : Action σ ε α} {next other : α → Action σ ε β} {state : σ}
    (same : ∀ value, (first state).result = .ok value →
      next value (first state).state = other value (first state).state) :
    (first >>= next) state = (first >>= other) state := by
  rw [bind_apply, bind_apply]
  cases answered : (first state).result with
  | error failure => rfl
  | ok value => simp only [same value answered]

/-- A computation that comes to its end has a first part that does. -/
theorem returns_first {first : Action σ ε α} {next : α → Action σ ε β} {state : σ}
    (returns : Answer.Returns ((first >>= next) state).result) :
    Answer.Returns (first state).result := by
  intro cause stopped
  rw [bind_apply, stopped] at returns
  exact returns cause rfl

/-- A computation that comes to its end has a second part that does. -/
theorem returns_next {first : Action σ ε α} {next : α → Action σ ε β} {state middle : σ}
    {value : α} {effects : List Effect} (ends : first state = ⟨.ok value, middle, effects⟩)
    (returns : Answer.Returns ((first >>= next) state).result) :
    Answer.Returns (next value middle).result := by
  rw [bind_apply_ok ends] at returns
  exact returns

/-- A computation that answers has a first part that does, and a second part that answers the
same. -/
theorem ok_of_bind {first : Action σ ε α} {next : α → Action σ ε β} {state : σ} {value : β}
    (answers : ((first >>= next) state).result = .ok value) :
    ∃ middle, (first state).result = .ok middle ∧
      (next middle (first state).state).result = .ok value ∧
      ((first >>= next) state).state = (next middle (first state).state).state := by
  rw [bind_apply] at answers ⊢
  cases ends : (first state).result with
  | error failure =>
    rw [ends] at answers
    cases answers
  | ok middle =>
    rw [ends] at answers
    exact ⟨middle, rfl, answers, rfl⟩

theorem get_apply (state : σ) : (get : Action σ ε σ) state = ⟨.ok state, state, []⟩ := rfl

theorem modify_apply (change : σ → σ) (state : σ) :
    (modify change : Action σ ε PUnit) state = ⟨.ok ⟨⟩, change state, []⟩ := rfl

theorem ask_apply (answer : Answer ε α) (state : σ) :
    (ask answer : Action σ ε α) state = ⟨answer, state, []⟩ := rfl

theorem refuse_apply (cause : ε) (state : σ) :
    (refuse cause : Action σ ε α) state = ⟨.error (.refused cause), state, []⟩ := rfl

theorem emit_apply (effect : Effect) (state : σ) :
    (emit effect : Action σ ε Unit) state = ⟨.ok ⟨⟩, state, [effect]⟩ := rfl

theorem report_apply (notice : Notice) (state : σ) :
    (report notice : Action σ ε Unit) state = ⟨.ok ⟨⟩, state, [.report notice]⟩ := rfl

theorem within_apply (part : σ → τ) (put : τ → σ → σ) (action : Action τ ε α) (state : σ) :
    within part put action state =
      ⟨(action (part state)).result, put (action (part state)).state state,
        (action (part state)).effects⟩ := rfl

theorem relabel_apply (rename : ε → δ) (action : Action σ ε α) (state : σ) :
    relabel rename action state =
      ⟨(action state).result.mapError (Failure.map rename), (action state).state,
        (action state).effects⟩ := rfl

/-- Renaming the causes gives no answer where there was none. -/
theorem ok_of_relabel {rename : ε → δ} {action : Action σ ε α} {state : σ} {value : α}
    (answers : (relabel rename action state).result = .ok value) :
    (action state).result = .ok value := by
  rw [relabel_apply] at answers
  cases ends : (action state).result with
  | error failure =>
    rw [ends] at answers
    cases answers
  | ok other =>
    rw [ends] at answers
    cases answers
    rfl

/-- A computation that answers, attempted. -/
theorem attempt_ok {action : Action σ ε α} {state after : σ} {value : α} {effects : List Effect}
    (ends : action state = ⟨.ok value, after, effects⟩) :
    (attempt action : Action σ δ (Except ε α)) state = ⟨.ok (.ok value), after, effects⟩ := by
  simp only [attempt, ends]

/-- A computation that refuses, attempted. -/
theorem attempt_refused {action : Action σ ε α} {state after : σ} {cause : ε}
    {effects : List Effect} (ends : action state = ⟨.error (.refused cause), after, effects⟩) :
    (attempt action : Action σ δ (Except ε α)) state = ⟨.ok (.error cause), after, effects⟩ := by
  simp only [attempt, ends]

/-- A computation that stops in the middle, attempted. -/
theorem attempt_aborted {action : Action σ ε α} {state after : σ} {cause : Abort}
    {effects : List Effect} (ends : action state = ⟨.error (.aborted cause), after, effects⟩) :
    (attempt action : Action σ δ (Except ε α)) state =
      ⟨.error (.aborted cause), after, effects⟩ := by
  simp only [attempt, ends]

/-- An attempt hands on a value only if the computation answers it. -/
theorem ok_of_attempt_ok {action : Action σ ε α} {state : σ} {value : α}
    (answers : (attempt action state : Outcome σ δ (Except ε α)).result = .ok (.ok value)) :
    (action state).result = .ok value := by
  cases ends : action state with
  | mk result after effects =>
    cases result with
    | ok other =>
      rw [attempt_ok ends] at answers
      exact congrArg Except.ok (Except.ok.inj (Except.ok.inj answers))
    | error failure =>
      cases failure with
      | refused cause =>
        rw [attempt_refused ends] at answers
        cases answers
      | aborted cause =>
        rw [attempt_aborted ends] at answers
        cases answers

/-- An attempt that comes to its end was of a computation that does. -/
theorem returns_of_attempt {action : Action σ ε α} {state : σ}
    (returns : Answer.Returns (attempt action state : Outcome σ δ (Except ε α)).result) :
    Answer.Returns (action state).result := by
  cases ends : action state with
  | mk result after effects =>
    rintro cause rfl
    rw [attempt_aborted ends] at returns
    exact returns cause rfl

/-- Who answers after an attempt, and not when that was refused, had it succeed. -/
theorem ok_of_attempt {action : Action σ ε α} {next : Except ε α → Action σ δ β} {state : σ}
    {value : β} (refuses : ∀ cause after, (next (.error cause) after).result ≠ .ok value)
    (answers : ((attempt action >>= next) state).result = .ok value) :
    ∃ found, (action state).result = .ok found ∧
      (next (.ok found) (action state).state).result = .ok value ∧
      ((attempt action >>= next) state).state = (next (.ok found) (action state).state).state := by
  cases ends : action state with
  | mk result after effects =>
    cases result with
    | ok found =>
      rw [bind_apply_ok (attempt_ok ends)] at answers ⊢
      exact ⟨found, rfl, answers, rfl⟩
    | error failure =>
      cases failure with
      | refused cause =>
        rw [bind_apply_ok (attempt_refused ends)] at answers
        exact absurd answers (refuses cause after)
      | aborted cause =>
        rw [bind_apply_error (attempt_aborted ends)] at answers
        cases answers

/-! ### Renamed causes -/

/-- The causes of a computation are renamed part by part. -/
theorem relabel_bind (rename : ε → δ) (first : Action σ ε α) (next : α → Action σ ε β) :
    relabel rename (first >>= next) =
      relabel rename first >>= fun value => relabel rename (next value) := by
  funext state
  simp only [relabel_apply, bind_apply]
  cases (first state).result <;> rfl

/-! ### What a computation leaves alone -/

/-- Whatever comes of the computation, it leaves a part of the state as it was. -/
def Keeps (part : σ → τ) (action : Action σ ε α) : Prop :=
  ∀ state, part (action state).state = part state

section Keeping

variable {part : σ → τ}

theorem keeps_ask (answer : Answer ε α) : Keeps part (ask answer : Action σ ε α) := fun _ => rfl

theorem keeps_emit (effect : Effect) : Keeps part (emit effect : Action σ ε Unit) := fun _ => rfl

theorem Keeps.bind {first : Action σ ε α} {next : α → Action σ ε β} (here : Keeps part first)
    (later : ∀ value, Keeps part (next value)) : Keeps part (first >>= next) := by
  intro state
  rw [bind_apply]
  cases (first state).result with
  | error failure => exact here state
  | ok value => exact (later value _).trans (here state)

end Keeping

/-! ### Monad laws -/

theorem bind_done (action : Action σ ε α) : action >>= pure = action := by
  funext state
  rw [bind_apply]
  cases h : action state with
  | mk result after effects => cases result <;> simp [pure_apply]

theorem bind_bind (first : Action σ ε α) {γ : Type} (second : α → Action σ ε β)
    (third : β → Action σ ε γ) :
    (first >>= second) >>= third = first >>= fun value => second value >>= third := by
  funext state
  simp only [bind_apply]
  cases (first state).result with
  | error failure => rfl
  | ok value =>
    simp only
    cases (second value (first state).state).result <;> simp

instance : LawfulMonad (Action σ ε) :=
  LawfulMonad.mk' _ bind_done (fun _ _ => by funext state; simp [bind_apply, pure_apply])
    (fun first second third => bind_bind first second third)

end Action

end MiniKernel
