/-
**Two chained 8259 chips behind a driver that is told of the end of an interrupt by its vector.**

The driver of the chips is a parameter. It is made with two offsets, brings the chips to them, and
ends an interrupt by its vector, so it needs its offsets to tell the chips apart. A controller on top
of it is asked for lines: it keeps the offsets a second time, to turn a line back into its vector.

* `VectorChips` — a driver of the chips; `Wired` — one and the bus that its chips are on.
* `VectorPair` — a driver with the offsets kept beside it, as a controller.
-/

import MiniKernel.Interrupt.ChipPair

namespace MiniKernel

/-- A driver of two chips, and the bus they are on. -/
structure Wired (P : Type) where
  chips : P
  bus : Bus := {}

/-- Drivers of two chained chips that take the end of an interrupt by its vector. -/
class VectorChips (P : Type) where
  /-- A driver for these offsets. The chips are not told yet. -/
  make (master slave : UInt8) : P
  /-- The offsets a driver is for. -/
  offsets : P → Windows
  /-- Bring the chips to the offsets and keep their masks. -/
  bringUp {ε : Type} : Action (Wired P) ε Unit
  /-- End the interrupt on a vector. -/
  endInterrupt {ε : Type} (vector : UInt8) : Action (Wired P) ε Unit
  /-- Read the master's mask and the slave's. -/
  readMasks {ε : Type} : Action (Wired P) ε (UInt8 × UInt8)
  /-- Replace both masks. -/
  writeMasks {ε : Type} (master slave : UInt8) : Action (Wired P) ε Unit

/-- A driver of two chips with the offsets it was last made for. -/
structure VectorPair (P : Type) [VectorChips P] extends Wired P where
  chips := VectorChips.make Windows.standard.master Windows.standard.slave
  master : UInt8 := Windows.standard.master
  slave : UInt8 := Windows.standard.slave

namespace VectorPair

variable {P ε α : Type} [VectorChips P]

/-- Run a computation of the driver. -/
def onChips (action : Action (Wired P) ε α) : Action (VectorPair P) ε α :=
  Action.within VectorPair.toWired (fun wired pair => { pair with toWired := wired }) action

/-- The offsets a line is turned into a vector by. -/
def windows (pair : VectorPair P) : Windows := ⟨pair.master, pair.slave⟩

instance : Controller (VectorPair P) where
  remap master slave := do
    modify fun pair => { pair with chips := VectorChips.make master slave }
    onChips VectorChips.bringUp
    modify fun pair => { pair with master, slave }
  acknowledge irq := do
    let pair ← get
    let vector ← Action.ask (pair.windows.vector irq)
    onChips (VectorChips.endInterrupt vector)
  mask := onChips do
    let (master, slave) ← VectorChips.readMasks
    return joinMask master slave
  setMask mask := onChips (VectorChips.writeMasks mask.toUInt8 (mask >>> 8).toUInt8)

end VectorPair

end MiniKernel
