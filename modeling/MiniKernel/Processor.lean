/-
**The processor as the kernel drives it.**

The interrupt flag, the vector table it was last pointed at, and counts of flag writes and halts.

* `Processor.masked` — run a computation with the flag clear and leave the flag as it was.
* `Processor.masked_clear`, `Processor.masked_set` — what that does on either flag.
-/

import MiniKernel.Action

namespace MiniKernel

/-- What the kernel can tell of the processor. -/
structure Processor where
  flag : Bool := false
  /-- How often the flag was written. -/
  flagWrites : Nat := 0
  halts : Nat := 0
  /-- The vector table last loaded. -/
  table : Option TableOperand := none
  deriving DecidableEq, Repr

namespace Processor

variable {σ ε α : Type}

/-- Write the interrupt flag. -/
def setFlag (enabled : Bool) : Action Processor ε Unit := do
  Action.emit (.interruptFlag enabled)
  modify fun cpu => { cpu with flag := enabled, flagWrites := cpu.flagWrites + 1 }

/-- Point the processor at a vector table. -/
def pointAt (pointer : TableOperand) : Action Processor ε Unit := do
  Action.emit (.tableLoad pointer)
  modify ({ · with table := some pointer })

/-- Run a computation with the flag clear, on a state that `on` reaches the processor of, and set
the flag again if it was set, whether the computation answers or refuses. -/
def masked (on : {β : Type} → Action Processor ε β → Action σ ε β) (body : Action σ ε α) :
    Action σ ε α := do
  let enabled ← on (do return (← get).flag)
  if enabled then
    on (setFlag false)
    let answer ← body.attempt
    on (setFlag true)
    Action.ofExcept answer
  else body

/-! ### What masking does -/

/-- The processor after a write of the flag. -/
def written (cpu : Processor) (enabled : Bool) : Processor :=
  { cpu with flag := enabled, flagWrites := cpu.flagWrites + 1 }

theorem setFlag_apply (enabled : Bool) (cpu : Processor) :
    (setFlag enabled : Action Processor ε Unit) cpu =
      ⟨.ok ⟨⟩, cpu.written enabled, [.interruptFlag enabled]⟩ := rfl

section Masking

variable {on : {β : Type} → Action Processor ε β → Action σ ε β} {part : σ → Processor}
  {put : Processor → σ → σ} {body : Action σ ε α} {state after : σ}

/-- With the flag clear already, a masked computation is the computation. -/
theorem masked_clear
    (reaches : ∀ {β : Type} (action : Action Processor ε β),
      on action = Action.within part put action)
    (same : put (part state) state = state) (clear : (part state).flag = false) :
    masked on body state = body state := by
  have reads : on (do return (← get).flag) state = ⟨.ok false, state, []⟩ := by
    rw [reaches, Action.within_apply, Action.bind_quiet (Action.get_apply _), Action.pure_apply,
      clear, same]
  rw [masked, Action.bind_quiet reads]
  rfl

/-- With the flag set, it is an attempt between two writes of the flag. -/
theorem masked_of_set
    (reaches : ∀ {β : Type} (action : Action Processor ε β),
      on action = Action.within part put action)
    (same : put (part state) state = state) (set : (part state).flag = true) :
    masked on body state =
      (do on (setFlag false); let answer ← body.attempt; on (setFlag true);
          Action.ofExcept answer : Action σ ε α) state := by
  have reads : on (do return (← get).flag) state = ⟨.ok true, state, []⟩ := by
    rw [reaches, Action.within_apply, Action.bind_quiet (Action.get_apply _), Action.pure_apply,
      set, same]
  rw [masked, Action.bind_quiet reads, if_pos rfl]

/-- With the flag set, it runs with the flag clear and the flag is set again. -/
theorem masked_set
    (reaches : ∀ {β : Type} (action : Action Processor ε β),
      on action = Action.within part put action)
    (same : put (part state) state = state) (set : (part state).flag = true)
    {result : Answer ε α} {effects : List Effect}
    (ends : body (put ((part state).written false) state) = ⟨result, after, effects⟩)
    (returns : result.Returns) :
    masked on body state =
      ⟨result, put ((part after).written true) after,
        [.interruptFlag false] ++ (effects ++ [.interruptFlag true])⟩ := by
  have clears : on (setFlag false) state =
      ⟨.ok ⟨⟩, put ((part state).written false) state, [.interruptFlag false]⟩ := by
    rw [reaches, Action.within_apply, setFlag_apply]
  have sets : on (setFlag true) after =
      ⟨.ok ⟨⟩, put ((part after).written true) after, [.interruptFlag true]⟩ := by
    rw [reaches, Action.within_apply, setFlag_apply]
  rw [masked_of_set reaches same set]
  refine Action.bind_steps clears ?_
  cases result with
  | ok value => exact Action.bind_steps (Action.attempt_ok ends) (Action.bind_steps sets rfl)
  | error failure =>
    cases failure with
    | refused cause =>
      exact Action.bind_steps (Action.attempt_refused ends) (Action.bind_steps sets rfl)
    | aborted cause => exact absurd rfl (returns cause)

/-- A masked computation that comes to its end was one that does. -/
theorem returns_of_masked
    (reaches : ∀ {β : Type} (action : Action Processor ε β),
      on action = Action.within part put action)
    (same : put (part state) state = state) (set : (part state).flag = true)
    (returns : (masked on body state).result.Returns) :
    (body (put ((part state).written false) state)).result.Returns := by
  have clears : on (setFlag false) state =
      ⟨.ok ⟨⟩, put ((part state).written false) state, [.interruptFlag false]⟩ := by
    rw [reaches, Action.within_apply, setFlag_apply]
  rw [masked_of_set reaches same set] at returns
  have rest := Action.returns_next clears returns
  exact Action.returns_of_attempt (Action.returns_first rest)

end Masking

end Processor

end MiniKernel
