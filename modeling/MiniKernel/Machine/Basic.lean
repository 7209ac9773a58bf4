/-
**The machine: dispatcher, timer, kernel core and log together.**

The core is there once a boot has published it. Dispatcher and core are each behind a lock; a lock
is held while a computation works on what it guards and free afterwards, however the computation
ended.

* `Machine.guardDispatcher`, `Machine.guardCore` — work on one part with interrupts masked.
* `Machine.countTick` — what the kernel does on a tick.
-/

import MiniKernel.Boot.Sequence
import MiniKernel.Console.Basic
import MiniKernel.SystemCall
import MiniKernel.Timer.Wait

namespace MiniKernel

/-- Which locks are held. -/
structure Locks where
  dispatcher : Bool := false
  core : Bool := false
  deriving DecidableEq, Repr

/-- The whole machine over a controller. -/
structure Machine (C : Type) where
  dispatcher : Dispatcher C
  timer : Timer := { frequency := standardFrequency }
  core : Option Core := none
  /-- The board of the last boot. -/
  board : Board := {}
  console : Console := {}
  held : Locks := {}

namespace Machine

variable {C ε α : Type}

/-- The processor. -/
def cpu (self : Machine C) : Processor := self.dispatcher.cpu

/-- The machine with another processor state. -/
def withCpu (self : Machine C) (cpu : Processor) : Machine C :=
  { self with dispatcher := { self.dispatcher with cpu } }

/-- Run a computation on the processor. -/
def onCpu (action : Action Processor ε α) : Action (Machine C) ε α :=
  Action.within Machine.cpu (fun cpu self => self.withCpu cpu) action

/-- Run a computation on the dispatcher, by one who owns it. -/
def onDispatcher (action : Action (Dispatcher C) ε α) : Action (Machine C) ε α :=
  Action.within Machine.dispatcher (fun dispatcher self => { self with dispatcher }) action

/-- Run a computation on the timer. -/
def onTimer (action : Action Timer ε α) : Action (Machine C) ε α :=
  Action.within Machine.timer (fun timer self => { self with timer }) action

/-- Run a computation with a lock held, and free it however the computation ended. A lock that is
held already is waited for without end. -/
def locked (isHeld : Locks → Bool) (mark : Bool → Locks → Locks)
    (action : Action (Machine C) ε α) : Action (Machine C) ε α := fun self =>
  if isHeld self.held then Action.abort .endless self
  else
    let outcome := action { self with held := mark true self.held }
    { outcome with state := { outcome.state with held := mark false outcome.state.held } }

/-- Work on the dispatcher under its lock. -/
def lockDispatcher (action : Action (Dispatcher C) ε α) : Action (Machine C) ε α :=
  locked Locks.dispatcher (fun dispatcher held => { held with dispatcher }) (onDispatcher action)

/-- Work on the core under its lock; without a core nothing is done. -/
def lockCore (action : Action Core ε α) : Action (Machine C) ε (Option α) := fun self =>
  match self.core with
  | none => ⟨.ok none, self, []⟩
  | some core =>
    let work : Action (Machine C) ε α := fun self =>
      let outcome := action core
      ⟨outcome.result, { self with core := some outcome.state }, outcome.effects⟩
    (some <$> locked Locks.core (fun core held => { held with core }) work) self

/-- Run a computation with interrupts masked. -/
def masked (action : Action (Machine C) ε α) : Action (Machine C) ε α :=
  Processor.masked onCpu action

/-- Work on the dispatcher with interrupts masked. -/
def guardDispatcher (action : Action (Dispatcher C) ε α) : Action (Machine C) ε α :=
  masked (lockDispatcher action)

/-- Work on the core with interrupts masked; without a core nothing is done. -/
def guardCore (action : Action Core ε α) : Action (Machine C) ε (Option α) :=
  fun self => if self.core.isSome then masked (lockCore action) self else ⟨.ok none, self, []⟩

/-- Count a tick and charge it to the current process, unless the core is being worked on. -/
def countTick : Action (Machine C) ε Unit := do
  let _ ← onTimer Timer.advance
  if (← get).held.core then return ()
  else
    let _ ← lockCore Core.tick
    return ()

/-- Run a handler on a frame. Of a client's handler it is only known that it ran. -/
def invoke (handler : Handler) (frame : Frame) : Action (Machine C) ε Unit :=
  match handler with
  | .tick => countTick
  | .client name => Action.emit (.handlerRun name frame)

/-- Stop the processor for good. -/
def stop : Action (Machine C) ε α := do
  onCpu (Processor.setFlag false)
  Action.abort .halted

/-- Report an interrupt nobody handled and stop. -/
def crash (report : CrashReport) : Action (Machine C) ε α := do
  Action.report (.fatal report)
  stop

end Machine

end MiniKernel
