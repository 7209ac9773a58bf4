/-
**The interrupt dispatcher.**

It owns the vector table, the handler registered on each vector, the controller with the offsets it
was moved to, and the processor's interrupt flag. It comes up in stages: gates are bound, the table
is loaded, interrupts are let in. Once they are, a gate is only replaced with the flag clear.

* `Dispatcher.bindStubs`, `Dispatcher.remap`, `Dispatcher.loadGates`, `Dispatcher.arm` — the way
  up.
* `Dispatcher.register`, `Dispatcher.registerLine` — handlers by vector and by line.
* `Dispatcher.route` — what an interrupted frame calls for, with the controller told first.
-/

import MiniKernel.Interrupt.Controller
import MiniKernel.Processor

namespace MiniKernel

/-- What runs on an interrupt: the kernel's own tick, or code outside the kernel under its name. -/
inductive Handler
  | tick
  | client (name : String)
  deriving DecidableEq, Repr

/-- The entry stubs' addresses. -/
structure Stubs where
  exceptions : Vector UInt32 32
  lines : Vector UInt32 16
  systemCall : Option UInt32

/-- What an interrupted frame calls for. -/
inductive Route
  | invoke (handler : Handler)
  | ignore
  | fatal (report : CrashReport)
  deriving DecidableEq, Repr

/-- The interrupt system over a controller. -/
structure Dispatcher (C : Type) where
  controller : C
  cpu : Processor := {}
  table : GateTable := {}
  handlers : Vector (Option Handler) 256 := Vector.replicate 256 none
  stage : Stage := .down
  windows : Windows := .standard

namespace Dispatcher

variable {C ε α : Type}

/-- Run a computation on the controller. -/
def onController (action : Action C ε α) : Action (Dispatcher C) ε α :=
  Action.within Dispatcher.controller (fun controller self => { self with controller }) action

/-- Run a computation on the processor. -/
def onCpu (action : Action Processor ε α) : Action (Dispatcher C) ε α :=
  Action.within Dispatcher.cpu (fun cpu self => { self with cpu }) action

/-! ### Gates -/

/-- Write a gate. -/
def writeGate (vector : UInt8) (gate : Gate) : Action (Dispatcher C) ε Unit := do
  Action.emit (.gateWrite vector)
  modify fun self => { self with table := self.table.set vector gate }

/-- Bind a gate of a table that is not in use. -/
def bindGate (vector : UInt8) (gate : Gate) : Action (Dispatcher C) DispatchRefusal Unit := do
  if (← get).stage = .live then Action.refuse .tableLive
  else writeGate vector gate

/-- Replace a gate with the interrupt flag clear. -/
def rebindGate (vector : UInt8) (gate : Gate) : Action (Dispatcher C) ε Unit :=
  Processor.masked onCpu (writeGate vector gate)

/-- Bind the exception stubs to the first vectors. -/
def bindExceptions (stubs : Stubs) : Action (Dispatcher C) DispatchRefusal Unit :=
  (List.finRange 32).forM fun vector =>
    bindGate (UInt8.ofNat vector) ⟨stubs.exceptions[vector], kernelSelector, kernelGate⟩

/-- Bind the line stubs to the vectors the lines arrive on. -/
def bindLines (stubs : Stubs) : Action (Dispatcher C) DispatchRefusal Unit :=
  (List.finRange 16).forM fun irq => do
    let vector ← Action.ask ((← get).windows.vector (UInt8.ofNat irq))
    bindGate vector ⟨stubs.lines[irq], kernelSelector, kernelGate⟩

/-- Bind the exception stubs, the line stubs, and the system call stub if there is one. -/
def bindStubs (stubs : Stubs) : Action (Dispatcher C) DispatchRefusal Unit := do
  bindExceptions stubs
  bindLines stubs
  match stubs.systemCall with
  | some address => bindGate systemCallVector ⟨address, kernelSelector, userGate⟩
  | none => return ()

/-! ### Coming up -/

/-- Move the controller to new offsets, if they are acceptable. -/
def remap [Controller C] (master slave : UInt8) : Action (Dispatcher C) DispatchRefusal Unit := do
  if Windows.acceptable ⟨master, slave⟩ then
    onController (Controller.remap master slave)
    modify ({ · with windows := ⟨master, slave⟩ })
    Action.report (.controllerRemapped master slave)
  else Action.refuse (.invalidOffsets master slave)

/-- The vectors of all exceptions. -/
def exceptionRange : List UInt8 := (List.range exceptionCount).map UInt8.ofNat

/-- The vectors all lines arrive on. -/
def lineVectors (windows : Windows) : Answer ε (List UInt8) :=
  (List.range lineCount).mapM fun irq => windows.vector (UInt8.ofNat irq)

/-- Point the processor at the table. Every exception and every line must have a gate. -/
def loadGates : Action (Dispatcher C) DispatchRefusal Unit := do
  let self ← get
  if self.stage = .live then Action.refuse (.invalidState self.stage)
  else
    match self.table.firstUnbound exceptionRange with
    | some vector => Action.refuse (.missingGate vector)
    | none =>
      let lines ← Action.ask (lineVectors self.windows)
      match self.table.firstUnbound lines with
      | some vector => Action.refuse (.missingGate vector)
      | none =>
        onCpu (Processor.pointAt GateTable.pointer)
        modify ({ · with stage := .loaded })
        Action.report (.gatesLoaded 256)

/-- Let interrupts in, as far as the dispatcher goes; the interrupt flag stays as it is. -/
def arm : Action (Dispatcher C) DispatchRefusal Unit := do
  let self ← get
  if self.stage = .loaded then
    modify ({ · with stage := .live })
    Action.report .interruptsOn
  else Action.refuse (.invalidState self.stage)

/-- Let interrupts in and set the interrupt flag. -/
def enable : Action (Dispatcher C) DispatchRefusal Unit := do
  arm
  onCpu (Processor.setFlag true)

/-! ### Handlers -/

/-- The handler registered on a vector. -/
def handler? (self : Dispatcher C) (vector : UInt8) : Option Handler :=
  have inside : vector.toNat < 256 := vector.toNat_lt
  self.handlers[vector.toNat]

/-- The dispatcher with the entry of one vector replaced. -/
def withHandler (self : Dispatcher C) (vector : UInt8) (handler : Option Handler) :
    Dispatcher C :=
  { self with handlers := self.handlers.set vector.toNat handler vector.toNat_lt }

/-- Register a handler on a vector; answers the one it replaced. -/
def register (vector : UInt8) (handler : Handler) :
    Action (Dispatcher C) ε (Option Handler) := do
  let old := (← get).handler? vector
  modify (·.withHandler vector (some handler))
  return old

/-- Remove the handler of a vector; answers it. -/
def unregister (vector : UInt8) : Action (Dispatcher C) ε (Option Handler) := do
  let old := (← get).handler? vector
  modify (·.withHandler vector none)
  return old

/-- Turn down a line number the chips do not have. -/
def requireLine (irq : UInt8) : Action (Dispatcher C) DispatchRefusal Unit :=
  if irq.toNat < lineCount then return () else Action.refuse (.invalidVector irq.toNat)

/-- Register a handler on the vector a line arrives on now; answers the one it replaced. -/
def registerLine (irq : UInt8) (handler : Handler) :
    Action (Dispatcher C) DispatchRefusal (Option Handler) := do
  requireLine irq
  let vector ← Action.ask ((← get).windows.vector irq)
  register vector handler

/-- Let a line through. -/
def enableLine [Controller C] (irq : UInt8) : Action (Dispatcher C) DispatchRefusal Unit := do
  requireLine irq
  onController (Controller.enableLine irq)

/-- Silence a line. -/
def disableLine [Controller C] (irq : UInt8) : Action (Dispatcher C) DispatchRefusal Unit := do
  requireLine irq
  onController (Controller.disableLine irq)

/-! ### Routing -/

/-- The line an exception or interrupt vector belongs to; exceptions belong to none. -/
def lineOf (windows : Windows) (vector : UInt8) : Answer ε (Option UInt8) :=
  if exceptionCount ≤ vector.toNat then windows.line? vector else return none

/-- What an interrupted frame calls for. An interrupt on a line is acknowledged here, so before any
handler runs; nobody needs to handle it. -/
def route [Controller C] (frame : Frame) : Action (Dispatcher C) DispatchRefusal Route := do
  match frame.vector? with
  | none => Action.refuse (.invalidVector frame.number.toNat)
  | some vector =>
    let self ← get
    match ← Action.ask (lineOf self.windows vector) with
    | some irq =>
      onController (Controller.acknowledge irq)
      return (self.handler? vector).elim .ignore .invoke
    | none => return (self.handler? vector).elim (.fatal (.ofFrame frame)) .invoke

theorem handler?_withHandler (self : Dispatcher C) (vector other : UInt8)
    (handler : Option Handler) :
    (self.withHandler vector handler).handler? other =
      if vector = other then handler else self.handler? other := by
  simp only [handler?, withHandler, Vector.getElem_set, UInt8.toNat_inj]

end Dispatcher

end MiniKernel
