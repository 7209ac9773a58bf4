/-
**Processes.**

A slot of the process table holds one `ProcessEntry`, live or vacant. A live one is ready, running,
blocked or a zombie; all but the kernel's own have a stack on the heap until they end.

* `Context.fresh` — the registers a new process starts from.
* `ProcessEntry.vacant` — what a free slot holds.
-/

import MiniKernel.Heap.Basic
import MiniKernel.Process.Name

namespace MiniKernel

/-- Where a slot stands in the life of its process. -/
inductive RunState
  | free
  | ready
  | running
  | blocked
  | zombie
  deriving DecidableEq, Repr

/-- The name of a state. -/
def RunState.text : RunState → String
  | .free => "FREE"
  | .ready => "READY"
  | .running => "RUNNING"
  | .blocked => "BLOCKED"
  | .zombie => "ZOMBIE"

/-- How important a process is said to be. -/
inductive Priority
  | low
  | normal
  | high
  | realtime
  deriving DecidableEq, Repr

/-- The name of a priority. -/
def Priority.name : Priority → String
  | .low => "Low"
  | .normal => "Normal"
  | .high => "High"
  | .realtime => "Realtime"

/-- The registers a process is resumed with. -/
structure Context where
  eax : Nat := 0
  ebx : Nat := 0
  ecx : Nat := 0
  edx : Nat := 0
  esi : Nat := 0
  edi : Nat := 0
  esp : Nat := 0
  ebp : Nat := 0
  eip : Nat := 0
  eflags : Nat := 0
  deriving DecidableEq, Repr

namespace Context

/-- The flags of a new process: the reserved bit and the interrupt flag. -/
def initialFlags : Nat := 0x202

/-- The registers of a new process: `entry` to run at and one word below the stack's top. -/
def fresh {ε : Type} (entry top : Nat) : Answer ε Context := do
  let esp ← Checked.sub top 4
  return { esp, ebp := esp, eip := entry, eflags := initialFlags }

end Context

/-- A process's stack: its heap block and the addresses it covers. -/
structure Stack where
  handle : Handle
  base : Nat
  size : Nat
  deriving DecidableEq, Repr

/-- The address right past a stack. -/
def Stack.top {ε : Type} (stack : Stack) : Answer ε Nat :=
  Checked.add longLimit stack.base stack.size

/-- What a slot of the process table holds. -/
structure ProcessEntry where
  pid : Nat := 0
  name : Name := .empty
  state : RunState := .free
  priority : Priority := .low
  context : Context := {}
  stack : Option Stack := none
  parent : Nat := 0
  /-- Seconds counted when the process was created. -/
  since : Nat := 0
  /-- Ticks spent running. -/
  ticksRun : Nat := 0
  entry : Nat := 0
  exitStatus : Int := 0
  deriving DecidableEq

/-- What is told of a process from outside. -/
structure Info where
  pid : Nat
  name : Name
  state : RunState
  priority : Priority
  ticksRun : Nat
  deriving DecidableEq

namespace ProcessEntry

/-- What is told of a process from outside. -/
def info (process : ProcessEntry) : Info where
  pid := process.pid
  name := process.name
  state := process.state
  priority := process.priority
  ticksRun := process.ticksRun

/-- What a free slot holds. -/
def vacant : ProcessEntry := {}

/-- Whether the slot holds no process. -/
def isFree (process : ProcessEntry) : Bool := process.state == .free

end ProcessEntry

end MiniKernel
