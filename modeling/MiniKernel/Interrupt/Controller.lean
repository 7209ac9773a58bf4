/-
**Interrupt controllers.**

A controller can be moved to new offsets, takes the end of an interrupt on a line, and has a mask of
sixteen lines in which a set bit silences its line, the master's lines in the low byte.

* `Controller` — the operations, with masking of one line through the whole mask unless a
  controller has a way of its own.
* `StoredMask` — a controller that is only a mask, known from outside by its requests.
-/

import MiniKernel.Action
import MiniKernel.Interrupt.Windows

namespace MiniKernel

/-- The mask with the set bits of `bit` cleared. -/
def clearBit (mask bit : UInt16) : UInt16 := mask &&& ~~~bit

/-- A pair of interrupt chips as the dispatcher drives it. -/
class Controller (C : Type) where
  /-- Move lines 0 to 7 and 8 to 15 to new offsets and keep the mask. -/
  remap {ε : Type} (master slave : UInt8) : Action C ε Unit
  /-- Tell the chips that the interrupt on a line is over. -/
  acknowledge {ε : Type} (irq : UInt8) : Action C ε Unit
  /-- Read the mask. -/
  mask {ε : Type} : Action C ε UInt16
  /-- Replace the mask. -/
  setMask {ε : Type} (mask : UInt16) : Action C ε Unit
  /-- Let a line through. -/
  enableLine {ε : Type} (irq : UInt8) : Action C ε Unit := do
    let old ← mask
    let bit ← Action.ask (Checked.bit16 irq.toNat)
    setMask (clearBit old bit)
  /-- Silence a line. -/
  disableLine {ε : Type} (irq : UInt8) : Action C ε Unit := do
    let old ← mask
    let bit ← Action.ask (Checked.bit16 irq.toNat)
    setMask (old ||| bit)

/-- A controller that is only a mask. -/
structure StoredMask where
  mask : UInt16 := 0
  deriving DecidableEq, Repr

instance : Controller StoredMask where
  remap master slave := Action.emit (.lineRequest (.remap master slave))
  acknowledge irq := Action.emit (.lineRequest (.acknowledge irq))
  mask := do
    Action.emit (.lineRequest .readMask)
    return (← get).mask
  setMask mask := do
    Action.emit (.lineRequest (.writeMask mask))
    set (⟨mask⟩ : StoredMask)

end MiniKernel
