/-
**Causes of refusal.**

One enumeration per part of the kernel, each with its wording, and `KernelRefusal`, into which the
others fold at the system call boundary, with the negative numbers handed to user code.
-/

import MiniKernel.Text.Digits

namespace MiniKernel

/-- Why the heap refuses. -/
inductive HeapRefusal
  /-- No free block holds the request. -/
  | outOfMemory
  /-- A request for nothing. -/
  | invalidSize
  /-- The handle is not the payload of a live allocation. -/
  | invalidAddress
  /-- The arena cannot hold one smallest block. -/
  | arenaTooSmall
  deriving DecidableEq, Repr

/-- The short name of a heap refusal. -/
def HeapRefusal.name : HeapRefusal → String
  | .outOfMemory => "OutOfMemory"
  | .invalidSize => "InvalidSize"
  | .invalidAddress => "InvalidAddress"
  | .arenaTooSmall => "ArenaTooSmall"

/-- The wording of a heap refusal. -/
def HeapRefusal.message : HeapRefusal → String
  | .outOfMemory => "out of memory"
  | .invalidSize => "invalid allocation size"
  | .invalidAddress => "address is not a live allocation"
  | .arenaTooSmall => "heap arena too small"

/-- Why the process table refuses. -/
inductive ProcessRefusal
  | noFreeSlot
  | outOfMemory
  /-- The kernel's own process, or no live process with that number. -/
  | invalidTarget
  deriving DecidableEq, Repr

/-- The short name of a process table refusal. -/
def ProcessRefusal.name : ProcessRefusal → String
  | .noFreeSlot => "NoFreeSlot"
  | .outOfMemory => "OutOfMemory"
  | .invalidTarget => "InvalidTarget"

/-- The wording of a process table refusal. -/
def ProcessRefusal.message : ProcessRefusal → String
  | .noFreeSlot => "process table full"
  | .outOfMemory => "no memory for process stack"
  | .invalidTarget => "no such process"

/-- How far the interrupt system has come up. -/
inductive Stage
  | down
  | loaded
  | live
  deriving DecidableEq, Repr

/-- The name of a stage. -/
def Stage.name : Stage → String
  | .down => "Uninitialized"
  | .loaded => "TableLoaded"
  | .live => "InterruptsEnabled"

/-- Why the interrupt dispatcher refuses. -/
inductive DispatchRefusal
  /-- A vector above 255, or an interrupt line above 15. -/
  | invalidVector (number : Nat)
  /-- Offsets that overlap the exceptions, the system call vector or each other. -/
  | invalidOffsets (master slave : UInt8)
  /-- A gate that must be present before the table is loaded. -/
  | missingGate (vector : UInt8)
  | invalidState (stage : Stage)
  /-- An unmasked gate write on a table in use. -/
  | tableLive
  deriving DecidableEq, Repr

/-- The short name of a dispatcher refusal. -/
def DispatchRefusal.name : DispatchRefusal → String
  | .invalidVector _ => "InvalidVector"
  | .invalidOffsets .. => "InvalidOffsets"
  | .missingGate _ => "MissingGate"
  | .invalidState _ => "InvalidState"
  | .tableLive => "TableLive"

/-- The wording of a dispatcher refusal. -/
def DispatchRefusal.message : DispatchRefusal → String
  | .invalidVector number => "invalid vector " ++ toString number
  | .invalidOffsets master slave =>
    "invalid PIC offsets " ++ Text.hex master.toNat ++ "/" ++ Text.hex slave.toNat
  | .missingGate vector => "no gate installed for vector " ++ toString vector.toNat
  | .invalidState stage => "operation not valid in state " ++ stage.name
  | .tableLive => "vector table is live, mask interrupts first"

/-- Why a stack image is not a frame. -/
inductive FrameRefusal
  | truncated (needed got : Nat)
  deriving DecidableEq, Repr

/-- The short name of a rejected stack image. -/
def FrameRefusal.name : FrameRefusal → String
  | .truncated .. => "Truncated"

/-- The wording of a rejected stack image. -/
def FrameRefusal.message : FrameRefusal → String
  | .truncated needed got =>
    "interrupt frame truncated: " ++ toString got ++ " of " ++ toString needed ++ " words"

/-- The kernel's own causes of refusal, as user code sees them. -/
inductive KernelRefusal
  | outOfMemory
  | invalidArgument
  | noFreeSlot
  | invalidTarget
  | fatalException
  deriving DecidableEq, Repr

namespace KernelRefusal

/-- Every cause. -/
def all : List KernelRefusal :=
  [.outOfMemory, .invalidArgument, .noFreeSlot, .invalidTarget, .fatalException]

/-- The short name of a kernel refusal. -/
def name : KernelRefusal → String
  | .outOfMemory => "OutOfMemory"
  | .invalidArgument => "InvalidArgument"
  | .noFreeSlot => "NoFreeSlot"
  | .invalidTarget => "InvalidTarget"
  | .fatalException => "FatalException"

/-- The wording of a kernel refusal. -/
def message : KernelRefusal → String
  | .outOfMemory => "out of memory"
  | .invalidArgument => "invalid argument"
  | .noFreeSlot => "no free process slot"
  | .invalidTarget => "no such process"
  | .fatalException => "fatal exception"

/-- The negative number that stands for a refusal in a register. -/
def errno : KernelRefusal → Int
  | .outOfMemory => -12
  | .invalidArgument => -22
  | .noFreeSlot => -11
  | .invalidTarget => -3
  | .fatalException => -14

/-- A heap refusal seen from outside the heap. -/
def ofHeap : HeapRefusal → KernelRefusal
  | .outOfMemory => .outOfMemory
  | .invalidSize | .invalidAddress | .arenaTooSmall => .invalidArgument

/-- A process table refusal seen from outside the table. -/
def ofProcess : ProcessRefusal → KernelRefusal
  | .noFreeSlot => .noFreeSlot
  | .outOfMemory => .outOfMemory
  | .invalidTarget => .invalidTarget

/-- A dispatcher refusal seen from outside the dispatcher. -/
def ofDispatch : DispatchRefusal → KernelRefusal := fun _ => .invalidArgument

end KernelRefusal

end MiniKernel
