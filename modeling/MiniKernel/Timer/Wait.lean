/-
**Waiting for a tick count.**

A wait halts the processor until the counter has reached a target. What a halt amounts to is the
caller's: it only has to let the counter rise.

* `Wait.reach` — halt until a target count.
* `Wait.sleep` — halt for the ticks in some milliseconds.
* `Clock` — a timer beside a processor whose halts each last one tick.
-/

import MiniKernel.Processor
import MiniKernel.Timer.Basic

namespace MiniKernel

namespace Wait

variable {σ ε : Type}

/-- Halt at most `limit` times until the counter that `timer` shows has reached `target`. -/
def reachWithin (timer : σ → Timer) (halt : Action σ ε Unit) (target : Nat) :
    Nat → Action σ ε Unit
  | 0 => do
    if (timer (← get)).ticks < target then Action.abort .endless else return ()
  | limit + 1 => do
    if (timer (← get)).ticks < target then
      halt
      reachWithin timer halt target limit
    else return ()

/-- Halt until the counter has reached `target`. Halts that raise the counter need no more of them
than there are ticks to go. -/
def reach (timer : σ → Timer) (halt : Action σ ε Unit) (target : Nat) : Action σ ε Unit := do
  reachWithin timer halt target (target - (timer (← get)).ticks)

/-- Halt for `count` ticks. -/
def ticks (timer : σ → Timer) (halt : Action σ ε Unit) (count : Nat) : Action σ ε Unit := do
  let target ← Action.ask (Checked.add longLimit (timer (← get)).ticks count)
  reach timer halt target

/-- Halt for the whole ticks in some milliseconds. -/
def sleep (timer : σ → Timer) (halt : Action σ ε Unit) (milliseconds : Nat) :
    Action σ ε Unit := do
  let count ← Action.ask ((timer (← get)).ticksFor milliseconds)
  ticks timer halt count

end Wait

/-- A timer beside a processor. -/
structure Clock where
  timer : Timer
  cpu : Processor := {}
  deriving DecidableEq, Repr

namespace Clock

variable {ε α : Type}

/-- Run a computation on the timer alone. -/
def onTimer (action : Action Timer ε α) : Action Clock ε α :=
  Action.within Clock.timer (fun timer clock => { clock with timer }) action

/-- A halt that lasts until the next tick. -/
def halt : Action Clock ε Unit := do
  modify fun clock => { clock with cpu := { clock.cpu with halts := clock.cpu.halts + 1 } }
  let _ ← onTimer Timer.advance
  return ()

end Clock

end MiniKernel
