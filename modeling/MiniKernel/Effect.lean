/-
**What the outside can see of a computation.**

Port traffic, processor instructions, gate writes, handlers being run, requests to an interrupt
controller known only by its requests, and reports for the log, each as one `Effect`. A computation
leaves them in the order they happened.
-/

import MiniKernel.Console.Notice

namespace MiniKernel

/-- A request to an interrupt controller. -/
inductive LineRequest
  | remap (master slave : UInt8)
  | acknowledge (irq : UInt8)
  | readMask
  | writeMask (mask : UInt16)
  deriving DecidableEq, Repr

/-- The operand of a vector table load: the last byte's offset and the vector of the first gate. -/
structure TableOperand where
  limit : UInt16
  first : UInt8
  deriving DecidableEq, Repr

/-- One thing the outside can see. -/
inductive Effect
  | portWrite (port : UInt16) (value : UInt8)
  | portRead (port : UInt16)
  /-- The processor was pointed at a vector table. -/
  | tableLoad (pointer : TableOperand)
  /-- The processor's interrupt flag was written. -/
  | interruptFlag (enabled : Bool)
  /-- A gate of the vector table was written. -/
  | gateWrite (vector : UInt8)
  | lineRequest (request : LineRequest)
  /-- A handler outside the kernel ran on a frame. -/
  | handlerRun (name : String) (frame : Frame)
  | report (notice : Notice)
  deriving DecidableEq, Repr

end MiniKernel
