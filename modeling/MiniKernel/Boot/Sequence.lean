/-
**Bringing a machine up.**

Six phases run in order: the heap, the interrupt controller, the interrupt table, the timer, the
process table, and last the interrupts themselves. Each is marked on the board as it starts and as
it ends, and the first one that refuses ends the sequence.

* `Phase.all` — the phases in order; `Phase.carryOut` — the work of one, marked as it starts and ends.
* `Startup.run` — all phases but the last; answers the kernel core.
* `Startup.goLive` — the last phase.
-/

import MiniKernel.Boot.Board
import MiniKernel.Boot.Config
import MiniKernel.Core
import MiniKernel.Interrupt.Dispatcher
import MiniKernel.Timer.Divider

namespace MiniKernel

/-- The phases of a boot. -/
inductive Phase
  | heap
  | controller
  | table
  | timer
  | processes
  | interrupts
  deriving DecidableEq, Repr

namespace Phase

/-- Every phase, in order. -/
def all : List Phase := [.heap, .controller, .table, .timer, .processes, .interrupts]

/-- The name of a phase on the board and in the log. -/
def name : Phase → String
  | .heap => "Heap"
  | .controller => "Interrupt Controller"
  | .table => "Interrupt Table"
  | .timer => "Timer"
  | .processes => "Scheduler"
  | .interrupts => "Interrupts"

/-- The place of a phase in the order, counted from 1. -/
def number (phase : Phase) : Nat := all.idxOf phase + 1

/-- Run the work of a phase and mark how far it has come. -/
def carryOut {σ α : Type} (phase : Phase) (mark : Progress → Action σ KernelRefusal Unit)
    (work : Action σ KernelRefusal α) : Action σ KernelRefusal α := do
  mark .inProgress
  Action.report (.phaseStarted phase.number Phase.all.length phase.name)
  match ← work.attempt with
  | .ok value =>
    mark .completed
    Action.report (.phaseDone phase.name)
    return value
  | .error cause =>
    mark (.failed cause)
    Action.report (.phaseFailed phase.name cause)
    Action.refuse cause

end Phase

/-- What a boot works on. -/
structure Startup (C : Type) where
  dispatcher : Dispatcher C
  timer : Timer
  board : Board

namespace Startup

variable {C ε α : Type}

/-- Run a computation on the dispatcher, its refusals folded into the kernel's. -/
def onDispatcher (action : Action (Dispatcher C) DispatchRefusal α) :
    Action (Startup C) KernelRefusal α :=
  (Action.within Startup.dispatcher (fun dispatcher self => { self with dispatcher })
    action).relabel KernelRefusal.ofDispatch

/-- Mark on the board how far a phase has come. -/
def mark (phase : Phase) (progress : Progress) : Action (Startup C) ε Unit :=
  modify fun self => { self with board := self.board.update phase.name progress }

/-- Run the work of a phase and mark on the board how it went. -/
def during (phase : Phase) (work : Action (Startup C) KernelRefusal α) :
    Action (Startup C) KernelRefusal α :=
  phase.carryOut (mark phase) work

/-- Make the heap. -/
def heapPhase (region : Region) : Action (Startup C) KernelRefusal Heap :=
  during .heap ((Heap.create region).relabel KernelRefusal.ofHeap)

/-- Move the controller to the chosen offsets and let every line through. -/
def controllerPhase [Controller C] (config : Config) : Action (Startup C) KernelRefusal Unit :=
  during .controller do
    onDispatcher (Dispatcher.remap config.windows.master config.windows.slave)
    onDispatcher (Dispatcher.onController (Controller.setMask 0))

/-- Bind the entry stubs and load the table. -/
def tablePhase (stubs : Stubs) : Action (Startup C) KernelRefusal Unit :=
  during .table do
    onDispatcher (Dispatcher.bindStubs stubs)
    onDispatcher Dispatcher.loadGates

/-- Set the timer's frequency and put its handler on line 0. -/
def timerPhase [Controller C] (config : Config) (handler : Handler) :
    Action (Startup C) KernelRefusal Unit :=
  during .timer do
    if config.tickRate = 0 then Action.refuse .invalidArgument
    else
      modify fun self => { self with timer := self.timer.withFrequency config.tickRate }
      let divisor ← Divider.program config.tickRate
      Action.report (.timerProgrammed config.tickRate divisor)
      let _ ← onDispatcher (Dispatcher.registerLine 0 handler)
      onDispatcher (Dispatcher.enableLine 0)

/-- Make the process table and start selection. -/
def processPhase (heap : Heap) (config : Config) : Action (Startup C) KernelRefusal Core :=
  during .processes do
    if config.stackBytes = 0 then Action.refuse .invalidArgument
    else
      let now ← Action.ask (← get).timer.seconds
      return ⟨heap, (ProcessTable.create config.stackBytes now).started⟩

/-- Run every phase but the last; answers the kernel core. -/
def run [Controller C] (region : Region) (stubs : Stubs) (config : Config) (handler : Handler) :
    Action (Startup C) KernelRefusal Core := do
  let heap ← heapPhase region
  controllerPhase config
  tablePhase stubs
  timerPhase config handler
  processPhase heap config

/-- The last phase, by one who owns the dispatcher: let interrupts in and set the interrupt flag. -/
def goLive : Action (Startup C) KernelRefusal Unit :=
  during .interrupts do
    onDispatcher Dispatcher.arm
    onDispatcher (Dispatcher.onCpu (Processor.setFlag true))

end Startup

end MiniKernel
