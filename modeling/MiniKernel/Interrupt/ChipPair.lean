/-
**Two chained 8259 chips, each addressed on its own.**

The slave hangs on line 2 of the master. A move to new offsets goes through the chips' four
initialization words, written over the data ports that otherwise hold the masks, so the masks are
read first and written back last. Masking one line touches only the chip that owns it, and the end
of an interrupt on a slave's line goes to the slave first and then to the master.
-/

import MiniKernel.Interrupt.Controller
import MiniKernel.Bus

namespace MiniKernel

/-- The master's command port. -/
def masterCommand : UInt16 := 0x20

/-- The master's data port. -/
def masterData : UInt16 := 0x21

/-- The slave's command port. -/
def slaveCommand : UInt16 := 0xA0

/-- The slave's data port. -/
def slaveData : UInt16 := 0xA1

/-- The command that ends an interrupt. -/
def endOfInterrupt : UInt8 := 0x20

/-- The first initialization word: start, and a fourth word will come. -/
def initCommand : UInt8 := 0x11

/-- The master line the slave hangs on. -/
def cascadeLine : UInt8 := 2

/-- The fourth initialization word: 8086 mode. -/
def mode8086 : UInt8 := 0x01

/-- A 16-bit mask of its two halves, the master's low. -/
def joinMask (master slave : UInt8) : UInt16 := master.toUInt16 ||| slave.toUInt16 <<< 8

/-- Two chips on a bus. -/
structure ChipPair where
  bus : Bus := {}
  deriving DecidableEq, Repr

namespace ChipPair

variable {ε α : Type}

/-- Run a computation on the bus. -/
def onBus (action : Action Bus ε α) : Action ChipPair ε α :=
  Action.within ChipPair.bus (fun bus _ => ⟨bus⟩) action

/-- Write an initialization word and let the chip settle. -/
def initWord (port : UInt16) (value : UInt8) : Action Bus ε Unit := do
  Bus.write port value
  Bus.pause

/-- The data port of the chip that owns a line, and the line's number on that chip. -/
def chipLine (irq : UInt8) : UInt16 × UInt8 :=
  if irq < 8 then (masterData, irq) else (slaveData, irq - 8)

/-- Move the chips to new offsets. -/
def moveTo (master slave : UInt8) : Action Bus ε Unit := do
  let masterMask ← Bus.read masterData
  let slaveMask ← Bus.read slaveData
  initWord masterCommand initCommand
  initWord slaveCommand initCommand
  initWord masterData master
  initWord slaveData slave
  initWord masterData (1 <<< cascadeLine)
  initWord slaveData cascadeLine
  initWord masterData mode8086
  initWord slaveData mode8086
  Bus.write masterData masterMask
  Bus.write slaveData slaveMask

/-- End the interrupt on a line. -/
def endInterrupt (irq : UInt8) : Action Bus ε Unit := do
  if 8 ≤ irq then Bus.write slaveCommand endOfInterrupt
  Bus.write masterCommand endOfInterrupt

/-- Read both masks. -/
def readMask : Action Bus ε UInt16 := do
  let master ← Bus.read masterData
  let slave ← Bus.read slaveData
  return joinMask master slave

/-- Write both masks. -/
def writeMask (mask : UInt16) : Action Bus ε Unit := do
  Bus.write masterData mask.toUInt8
  Bus.write slaveData (mask >>> 8).toUInt8

/-- Clear a line's bit on its chip. -/
def clearLine (irq : UInt8) : Action Bus ε Unit := do
  let (port, line) := chipLine irq
  let old ← Bus.read port
  let bit ← Action.ask (Checked.bit8 line.toNat)
  Bus.write port (old &&& ~~~bit)

/-- Set a line's bit on its chip. -/
def setLine (irq : UInt8) : Action Bus ε Unit := do
  let (port, line) := chipLine irq
  let old ← Bus.read port
  let bit ← Action.ask (Checked.bit8 line.toNat)
  Bus.write port (old ||| bit)

instance : Controller ChipPair where
  remap master slave := onBus (moveTo master slave)
  acknowledge irq := onBus (endInterrupt irq)
  mask := onBus readMask
  setMask mask := onBus (writeMask mask)
  enableLine irq := onBus (clearLine irq)
  disableLine irq := onBus (setLine irq)

/-- Move the chips to the standard offsets and let every line through. -/
def reset : Action ChipPair ε Unit := do
  Controller.remap Windows.standard.master Windows.standard.slave
  Controller.setMask 0

end ChipPair

end MiniKernel
