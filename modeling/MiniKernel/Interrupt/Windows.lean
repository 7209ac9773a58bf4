/-
**The vectors the interrupt lines arrive on.**

Each of the two chips delivers its eight lines on eight vectors in a row, from an offset of its own:
lines 0 to 7 from the master's offset, lines 8 to 15 from the slave's.

* `Windows.vector` — the vector of a line.
* `Windows.line?` — the line of a vector.
* `Windows.acceptable` — offsets whose windows meet neither the exceptions, nor the system call
  vector, nor each other.
-/

import MiniKernel.Checked
import MiniKernel.Interrupt.Gate

namespace MiniKernel

/-- The offsets of the two chips. -/
structure Windows where
  master : UInt8
  slave : UInt8
  deriving DecidableEq, Repr

namespace Windows

variable {ε : Type}

/-- The offsets the kernel starts from, right above the exceptions. -/
def standard : Windows := ⟨0x20, 0x28⟩

/-- The sum of two bytes, if it is a byte. -/
def addBytes (left right : UInt8) : Answer ε UInt8 := do
  let sum ← Checked.add byteLimit left.toNat right.toNat
  return UInt8.ofNat sum

/-- The vector of a line. -/
def vector (windows : Windows) (irq : UInt8) : Answer ε UInt8 :=
  if irq < 8 then addBytes windows.master irq else addBytes windows.slave (irq - 8)

/-- Whether a vector is one of the eight from `offset` on. -/
def within (offset vector : UInt8) : Answer ε Bool := do
  let stop ← addBytes offset 8
  return offset ≤ vector && vector < stop

/-- The line of a vector, if there is one. -/
def line? (windows : Windows) (vector : UInt8) : Answer ε (Option UInt8) := do
  if ← within windows.master vector then return some (vector - windows.master)
  else if ← within windows.slave vector then return some (vector - windows.slave + 8)
  else return none

/-- Whether an offset starts a window above the exceptions that leaves the system call vector
alone. -/
def offsetAcceptable (offset : UInt8) : Bool :=
  decide (exceptionCount ≤ offset.toNat) && offset % 8 == 0 && decide (offset ≤ 0xF0) &&
    !(decide (offset ≤ systemCallVector) && decide (systemCallVector < offset + 8))

/-- Whether a controller may be moved to these offsets. -/
def acceptable (windows : Windows) : Bool :=
  offsetAcceptable windows.master && offsetAcceptable windows.slave &&
    windows.master != windows.slave

end Windows

/-- The interrupts that have a vector of their own at the standard offsets. -/
inductive Source
  | timer
  | keyboard
  | clock
  | systemCall
  deriving DecidableEq, Repr

/-- The vector of a source at the standard offsets. -/
def Source.vector : Source → UInt8
  | .timer => Windows.standard.master
  | .keyboard => Windows.standard.master + 1
  | .clock => Windows.standard.slave
  | .systemCall => systemCallVector

end MiniKernel
