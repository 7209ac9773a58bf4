/-
**The tick counter and the time it tells.**

Each timer interrupt raises the counter by one; the frequency turns ticks into seconds and
milliseconds and back. Every product and sum has to fit 64 bits.

* `Timer.advance` — count a tick.
* `Timer.seconds`, `Timer.uptime`, `Timer.ticksFor` — conversions, rounded down.
-/

import MiniKernel.Action
import MiniKernel.Checked

namespace MiniKernel

/-- A tick counter and how many ticks make a second. -/
structure Timer where
  ticks : Nat := 0
  frequency : Nat
  deriving DecidableEq, Repr

namespace Timer

variable {ε : Type}

/-- Count one tick; answers the new count. -/
def advance : Action Timer ε Nat := do
  let old := (← get).ticks
  modify ({ · with ticks := (old + 1) % longLimit })
  Action.ask (Checked.add longLimit old 1)

/-- The timer at a new frequency, at least 1 Hz. -/
def withFrequency (timer : Timer) (frequency : Nat) : Timer :=
  { timer with frequency := max frequency 1 }

/-- Whole seconds counted. -/
def seconds (timer : Timer) : Answer ε Nat := Checked.div timer.ticks timer.frequency

/-- Whole milliseconds counted. -/
def uptime (timer : Timer) : Answer ε Nat := do
  let scaled ← Checked.mul longLimit timer.ticks 1000
  Checked.div scaled timer.frequency

/-- The whole ticks in some milliseconds. -/
def ticksFor (timer : Timer) (milliseconds : Nat) : Answer ε Nat := do
  let scaled ← Checked.mul longLimit milliseconds timer.frequency
  return scaled / 1000

end Timer

end MiniKernel
