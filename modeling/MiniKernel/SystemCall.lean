/-
**System calls.**

User code puts a call's number into `eax` and up to five arguments into `ebx`, `ecx`, `edx`, `esi`
and `edi`. The answer goes back into `eax`: a value, or a negative number for a refusal.

* `SystemCall.perform` — a call against the kernel core.
* `SystemCall.encode` — the register form of an answer.
-/

import MiniKernel.Core

namespace MiniKernel.SystemCall

/-- The calls that are served. -/
inductive Number
  | exit
  | getPid
  | sleep
  | time
  | malloc
  | free
  | yield
  | kill
  | unknown
  deriving DecidableEq, Repr

namespace Number

/-- The call of a number; gaps belong to calls that are not served. -/
def ofWord : Nat → Number
  | 0 => .exit
  | 5 => .getPid
  | 9 => .sleep
  | 10 => .time
  | 11 => .malloc
  | 12 => .free
  | 13 => .yield
  | 14 => .kill
  | _ => .unknown

/-- The number of a call. -/
def toWord : Number → Nat
  | .exit => 0
  | .getPid => 5
  | .sleep => 9
  | .time => 10
  | .malloc => 11
  | .free => 12
  | .yield => 13
  | .kill => 14
  | .unknown => 4294967295

/-- The name of a call. -/
def name : Number → String
  | .exit => "Exit"
  | .getPid => "GetPid"
  | .sleep => "Sleep"
  | .time => "Time"
  | .malloc => "Malloc"
  | .free => "Free"
  | .yield => "Yield"
  | .kill => "Kill"
  | .unknown => "Unknown"

end Number

/-- A call as it arrives: its number and five arguments. -/
structure Call where
  number : Nat
  arg0 : Nat := 0
  arg1 : Nat := 0
  arg2 : Nat := 0
  arg3 : Nat := 0
  arg4 : Nat := 0
  deriving DecidableEq, Repr

/-- The call in an interrupted frame. -/
def Call.ofFrame (frame : Frame) : Call where
  number := frame.eax.toNat
  arg0 := frame.ebx.toNat
  arg1 := frame.ecx.toNat
  arg2 := frame.edx.toNat
  arg3 := frame.esi.toNat
  arg4 := frame.edi.toNat

/-- What a served call asks for. -/
inductive Reply
  /-- Hand a value back. -/
  | value (value : Nat)
  /-- Wait, then hand 0 back. -/
  | sleep (milliseconds : Nat)
  deriving DecidableEq, Repr

/-- The 32-bit word as a signed number. -/
def signedWord (value : Nat) : Int := (Int.ofNat value).bmod wordLimit

/-- The address of a new block of `size` bytes. -/
def malloc (size : Nat) : Action Core KernelRefusal Reply := do
  let handle ← Core.allocate size
  return .value ((← get).heap.address handle)

/-- Give back the block at an address. -/
def free (address : Nat) : Action Core KernelRefusal Reply := do
  match (← get).heap.handleAt address with
  | .error cause => Action.refuse (.ofHeap cause)
  | .ok handle =>
    Core.release handle
    return .value 0

/-- End the process of a number. -/
def kill (pid : Nat) : Action Core KernelRefusal Reply := do
  if pid < wordLimit then
    Core.killProcess pid
    return .value 0
  else Action.refuse .invalidTarget

/-- Serve a call on the core, with the timer read as it stands. -/
def perform (timer : Timer) (call : Call) : Action Core KernelRefusal Reply := do
  let number := Number.ofWord call.number
  Action.report (.systemCall number.name call.arg0 call.arg1)
  match number with
  | .exit =>
    Core.exit (signedWord call.arg0)
    return .value 0
  | .getPid => return .value (← get).processes.running.pid
  | .yield =>
    Core.yield
    return .value 0
  | .kill => kill call.arg0
  | .sleep => return .sleep call.arg0
  | .time => return .value (← Action.ask timer.seconds)
  | .malloc => malloc call.arg0
  | .free => free call.arg0
  | .unknown =>
    Action.report (.unknownCall call.number)
    Action.refuse .invalidArgument

/-- The register form of an answer. -/
def encode : Except KernelRefusal Reply → UInt32
  | .ok (.value value) => UInt32.ofNat value
  | .ok (.sleep _) => 0
  | .error cause => UInt32.ofInt cause.errno

end MiniKernel.SystemCall
