/-
**Booting the machine.**

* `Machine.assemble` — the phases of a boot but the last, on a fresh board, and the core published.
* `Machine.goLive` — the last phase.
* `Machine.boot` — the console attached and set, then both. A machine that has a core refuses.
-/

import MiniKernel.Machine.Entry

namespace MiniKernel.Machine

variable {C ε α : Type}

/-- Run a boot computation on the machine's dispatcher, timer and board. -/
def onStartup (action : Action (Startup C) ε α) : Action (Machine C) ε α :=
  Action.within
    (fun self => (⟨self.dispatcher, self.timer, self.board⟩ : Startup C))
    (fun startup self =>
      { self with
        dispatcher := startup.dispatcher, timer := startup.timer, board := startup.board })
    action

/-- The same under the dispatcher's lock. -/
def lockStartup (action : Action (Startup C) ε α) : Action (Machine C) ε α :=
  locked Locks.dispatcher (fun dispatcher held => { held with dispatcher }) (onStartup action)

/-- Run every phase but the last on a fresh board and publish the core. -/
def assemble [Controller C] (region : Region) (stubs : Stubs) (config : Config)
    (handler : Handler) : Action (Machine C) KernelRefusal Unit := do
  modify ({ · with board := Board.ofNames (Phase.all.map Phase.name) })
  let core ← lockStartup (Startup.run region stubs config handler)
  modify ({ · with core := some core })

/-- The last phase: let interrupts in under the dispatcher's lock, and set the interrupt flag once the
lock is free, so that the first interrupt can take it. -/
def goLive : Action (Machine C) KernelRefusal Unit :=
  Phase.interrupts.carryOut (fun progress => onStartup (Startup.mark .interrupts progress)) do
    lockStartup (Startup.onDispatcher Dispatcher.arm)
    onCpu (Processor.setFlag true)

/-- Boot the machine. -/
def boot [Controller C] (region : Region) (stubs : Stubs) (config : Config) :
    Action (Machine C) KernelRefusal Unit := do
  modify ({ · with console := { attached := true, level := config.verbosity } })
  Action.report (.bootStarted systemName systemVersion)
  if (← get).core.isSome then
    Action.report .alreadyRunning
    Action.refuse .invalidArgument
  else
    onCpu (Processor.setFlag false)
    match ← (do assemble region stubs config .tick; goLive).attempt with
    | .ok _ => Action.report .bootDone
    | .error cause =>
      Action.report (.bootFailed cause)
      Action.refuse cause

/-- Count a tick while the core is being worked on. -/
def countTickBusy : Action (Machine C) ε Unit :=
  locked Locks.core (fun core held => { held with core }) countTick

end MiniKernel.Machine
