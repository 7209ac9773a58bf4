/-
**A driver of two chips at their usual ports.**

Each chip knows its offset and so the vectors it delivers. Both chips go through initialization
together, word by word, with time for the chips after each word.
-/

import MiniKernel.Interrupt.VectorPair

namespace MiniKernel

/-- One chip of the pair. -/
structure Chip where
  offset : UInt8
  command : UInt16
  data : UInt16
  deriving DecidableEq, Repr

namespace Chip

variable {ε : Type}

/-- Whether the chip delivers a vector. -/
def delivers (chip : Chip) (vector : UInt8) : Answer ε Bool :=
  if chip.offset ≤ vector then do
    let stop ← Windows.addBytes chip.offset 8
    return vector < stop
  else return false

/-- Tell the chip that its interrupt is over. -/
def finish (chip : Chip) : Action Bus ε Unit := Bus.write chip.command endOfInterrupt

/-- The words the chip is initialized with and the port of each; `wiring` is the third. -/
def initWords (chip : Chip) (wiring : UInt8) : List (UInt16 × UInt8) :=
  [(chip.command, initCommand), (chip.data, chip.offset), (chip.data, wiring),
    (chip.data, mode8086)]

end Chip

/-- Two chips with these offsets. -/
structure ChainedChips where
  offsets : Windows
  deriving DecidableEq, Repr

namespace ChainedChips

variable {ε α : Type}

/-- The master chip. -/
def master (chips : ChainedChips) : Chip := ⟨chips.offsets.master, masterCommand, masterData⟩

/-- The slave chip. -/
def slave (chips : ChainedChips) : Chip := ⟨chips.offsets.slave, slaveCommand, slaveData⟩

/-- Write words to two chips in turn, a pause after each. -/
def writeTurns : List (UInt16 × UInt8) → List (UInt16 × UInt8) → Action Bus ε Unit
  | (port, value) :: rest, (otherPort, otherValue) :: otherRest => do
    Bus.write port value
    Bus.pause
    Bus.write otherPort otherValue
    Bus.pause
    writeTurns rest otherRest
  | _, _ => return ()

/-- Initialize both chips and keep their masks. -/
def bring (chips : ChainedChips) : Action Bus ε Unit := do
  let masterMask ← Bus.read masterData
  let slaveMask ← Bus.read slaveData
  writeTurns (chips.master.initWords (1 <<< cascadeLine)) (chips.slave.initWords cascadeLine)
  Bus.write masterData masterMask
  Bus.write slaveData slaveMask

/-- End the interrupt on a vector: on the slave if it delivers it, then on the master if either
does. -/
def finish (chips : ChainedChips) (vector : UInt8) : Action Bus ε Unit := do
  let ofMaster ← Action.ask (chips.master.delivers vector)
  let ofPair ← if ofMaster then pure true else Action.ask (chips.slave.delivers vector)
  if ofPair then
    if ← Action.ask (chips.slave.delivers vector) then chips.slave.finish
    chips.master.finish

/-- Run what these chips do on their bus. -/
def onBus (action : ChainedChips → Action Bus ε α) : Action (Wired ChainedChips) ε α := fun wired =>
  Action.within Wired.bus (fun bus wired => { wired with bus }) (action wired.chips) wired

instance : VectorChips ChainedChips where
  make master slave := ⟨⟨master, slave⟩⟩
  offsets := ChainedChips.offsets
  bringUp := onBus bring
  endInterrupt vector := onBus (finish · vector)
  readMasks := onBus fun _ => do
    let master ← Bus.read masterData
    let slave ← Bus.read slaveData
    return (master, slave)
  writeMasks master slave := onBus fun _ => do
    Bus.write masterData master
    Bus.write slaveData slave

end ChainedChips

end MiniKernel
