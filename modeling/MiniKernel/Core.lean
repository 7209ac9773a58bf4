/-
**The kernel core: heap and process table behind one owner.**

Processes have their stacks on the heap, so creating, ending and killing one changes both. Refusals
of either part fold into the kernel's own.

* `Core.spawn`, `Core.exit`, `Core.kill` — the life of a process, refused for the table's causes.
* `Core.launch`, `Core.allocate` and the like — the same operations refused for the kernel's.
-/

import MiniKernel.Heap.Payload
import MiniKernel.Process.Table
import MiniKernel.Timer.Basic

namespace MiniKernel

/-- A heap and the processes whose stacks it holds. -/
structure Core where
  heap : Heap
  processes : ProcessTable

namespace Core

variable {ε α : Type}

/-- Run a computation on the heap. -/
def onHeap (action : Action Heap ε α) : Action Core ε α :=
  Action.within Core.heap (fun heap core => { core with heap }) action

/-- Run a computation on the process table. -/
def onProcesses (action : Action ProcessTable ε α) : Action Core ε α :=
  Action.within Core.processes (fun processes core => { core with processes }) action

/-! ### Processes and their stacks -/

/-- Create a process in the first free slot, with a stack from the heap and the next number. -/
def spawn (name : String) (entry : Nat) (priority : Priority) (now : Nat) :
    Action Core ProcessRefusal Nat := do
  let table := (← get).processes
  match table.freeSlot? with
  | none => Action.refuse .noFreeSlot
  | some slot =>
    let pid := table.nextNumber
    if pid + 1 < wordLimit then
      let handle ← (onHeap (Heap.allocate table.stackBytes)).relabel fun _ => .outOfMemory
      let stack : Stack :=
        { handle, base := (← get).heap.address handle, size := table.stackBytes }
      onProcesses (modify ({ · with nextNumber := pid + 1 }))
      let parent := table.running.pid
      let top ← Action.ask stack.top
      let context ← Action.ask (Context.fresh entry top)
      let name := Name.ofString name
      onProcesses (modify (·.put slot
        { pid, name, state := .ready, priority, context, stack := some stack, parent,
          since := now, entry }))
      Action.report (.processCreated pid name.text parent)
      return pid
    else Action.refuse .noFreeSlot

/-- Give a process's stack back to the heap; one the heap does not know is reported. -/
def returnStack (slot : Slot) : Action Core ε Unit := do
  let process := (← get).processes.process slot
  match process.stack with
  | none => return ()
  | some stack =>
    onProcesses (modify (·.put slot { process with stack := none }))
    match ← (onHeap (Heap.release stack.handle)).attempt with
    | .ok _ => return ()
    | .error cause => Action.report (.stackKept process.pid cause)

/-- End the current process; its slot is cleared by a later selection pass. The kernel's own process
does not end. -/
def exit (code : Int) : Action Core ε Unit := do
  let table := (← get).processes
  if table.current = ProcessTable.ownSlot then return ()
  else
    onProcesses (modify fun table =>
      table.put table.current { table.running with state := .zombie, exitStatus := code })
    returnStack table.current
    Action.report (.processExited table.running.pid code)
    onProcesses ProcessTable.reschedule

/-- End a process and clear its slot at once. -/
def kill (pid : Nat) : Action Core ProcessRefusal Unit := do
  if pid = 0 then Action.refuse .invalidTarget
  else
    let slot ← onProcesses (ProcessTable.requireSlot pid)
    onProcesses (modify (·.setState slot .zombie))
    returnStack slot
    onProcesses (modify (·.put slot ProcessEntry.vacant))
    Action.report (.processKilled pid)
    if slot = (← get).processes.current then onProcesses ProcessTable.reschedule

/-- Let the next ready process run. -/
def yield : Action Core ε Unit := onProcesses ProcessTable.reschedule

/-- Charge the current process one tick. -/
def tick : Action Core ε Unit := onProcesses ProcessTable.tick

/-- Turn selection and tick accounting on. -/
def start : Action Core ε Unit := onProcesses (modify ProcessTable.started)

/-! ### The same operations refused for the kernel's causes -/

/-- A core over a region whose selection is not on yet. -/
def create {σ : Type} (region : Region) (timer : Timer) (stackBytes : Nat) :
    Action σ KernelRefusal Core := do
  let heap ← (Heap.create region).relabel KernelRefusal.ofHeap
  let now ← Action.ask timer.seconds
  return ⟨heap, ProcessTable.create stackBytes now⟩

/-- Create a process as of the timer's time. -/
def launch (timer : Timer) (name : String) (entry : Nat) (priority : Priority) :
    Action Core KernelRefusal Nat := do
  let now ← Action.ask timer.seconds
  (spawn name entry priority now).relabel KernelRefusal.ofProcess

/-- End a process and clear its slot at once. -/
def killProcess (pid : Nat) : Action Core KernelRefusal Unit := (kill pid).relabel .ofProcess

/-- Block a running process; answers whether it was one. -/
def blockProcess (pid : Nat) : Action Core KernelRefusal Bool :=
  (onProcesses (ProcessTable.block pid)).relabel .ofProcess

/-- Make a blocked process ready; answers whether it was blocked. -/
def unblockProcess (pid : Nat) : Action Core KernelRefusal Bool :=
  (onProcesses (ProcessTable.unblock pid)).relabel .ofProcess

/-- Hand out a block of at least `size` bytes. -/
def allocate (size : Nat) : Action Core KernelRefusal Handle :=
  (onHeap (Heap.allocate size)).relabel .ofHeap

/-- Take back the block behind a handle. -/
def release (handle : Handle) : Action Core KernelRefusal Unit :=
  (onHeap (Heap.release handle)).relabel .ofHeap

/-- Keep or move a block so that it holds `size` bytes. -/
def reallocate (handle : Handle) (size : Nat) : Action Core KernelRefusal Handle :=
  (onHeap (Heap.reallocate handle size)).relabel .ofHeap

end Core

end MiniKernel
