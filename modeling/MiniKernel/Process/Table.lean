/-
**The process table and the choice of who runs.**

Slot 0 holds the kernel's own process, the other sixteen slots hold the rest. A selection pass
clears the slots of ended processes and then gives the processor to the next ready process in cyclic
order after the current slot, the kernel's included. With none ready, a process that still runs goes
on; otherwise the kernel takes over.

* `ProcessTable.select` — one selection pass.
* `ProcessTable.block`, `ProcessTable.unblock`, `ProcessTable.tick` — what touches the table alone.
-/

import MiniKernel.Process.Basic

namespace MiniKernel

/-- Processes beside the kernel's own. -/
def processLimit : Nat := 16

/-- Slots of the process table. -/
abbrev slotCount : Nat := 17

/-- A position in the process table. -/
abbrev Slot := Fin slotCount

/-- The processes and who runs. -/
structure ProcessTable where
  slots : Vector ProcessEntry slotCount
  current : Slot
  /-- The number of the next process. -/
  nextNumber : Nat
  /-- Stack bytes of every new process. -/
  stackBytes : Nat
  /-- Whether selection and tick accounting are on. -/
  enabled : Bool

namespace ProcessTable

variable {ε : Type}

/-- The slot of the kernel's own process. -/
def ownSlot : Slot := 0

/-- The kernel's own process, running since `now`. -/
def kernelProcess (now : Nat) : ProcessEntry :=
  { name := Name.ofString "kernel", state := .running, priority := .realtime, since := now }

/-- A table with only the kernel's own process. -/
def create (stackBytes now : Nat) : ProcessTable where
  slots := (Vector.replicate slotCount ProcessEntry.vacant).set 0 (kernelProcess now)
  current := ownSlot
  nextNumber := 1
  stackBytes := stackBytes
  enabled := false

/-- The table with selection and tick accounting on. -/
def started (table : ProcessTable) : ProcessTable := { table with enabled := true }

/-! ### Looking -/

/-- The process in a slot. -/
def process (table : ProcessTable) (slot : Slot) : ProcessEntry := table.slots[slot]

/-- The table with the process of one slot replaced. -/
def put (table : ProcessTable) (slot : Slot) (process : ProcessEntry) : ProcessTable :=
  { table with slots := table.slots.set slot process }

/-- The process that has the processor. -/
def running (table : ProcessTable) : ProcessEntry := table.process table.current

/-- The slots in order. -/
def slotOrder : List Slot := List.finRange slotCount

/-- The first slot with a live process of this number. -/
def slotWith? (table : ProcessTable) (pid : Nat) : Option Slot :=
  slotOrder.find? fun slot =>
    !(table.process slot).isFree && (table.process slot).pid == pid

/-- The first free slot beside the kernel's. -/
def freeSlot? (table : ProcessTable) : Option Slot :=
  slotOrder.find? fun slot => slot != ownSlot && (table.process slot).isFree

/-- The live process of this number. -/
def find? (table : ProcessTable) (pid : Nat) : Option ProcessEntry :=
  (table.slotWith? pid).map table.process

/-- The live processes in slot order. -/
def live (table : ProcessTable) : List ProcessEntry :=
  (slotOrder.map table.process).filter fun process => !process.isFree

/-- The entries of a list overwritten from the front with the live processes, and how many were. -/
def fillInfos (table : ProcessTable) (entries : List Info) : Nat × List Info :=
  let written := (table.live.map ProcessEntry.info).take entries.length
  (written.length, written ++ entries.drop written.length)

/-! ### Selection -/

/-- The slots whose processes have ended, the current one apart. -/
def ended (table : ProcessTable) : List Slot :=
  slotOrder.filter fun slot => slot != table.current && (table.process slot).state == .zombie

/-- The table with the slots of ended processes vacant, the current one apart. -/
def reap (table : ProcessTable) : ProcessTable :=
  { table with
    slots := Vector.ofFn fun slot : Slot =>
      if slot ≠ table.current ∧ (table.process slot).state = .zombie then ProcessEntry.vacant
      else table.process slot }

/-- The slot some steps further in cyclic order. -/
def stepFrom (slot : Slot) (steps : Nat) : Slot :=
  ⟨(slot.val + steps) % slotCount, Nat.mod_lt _ (by decide)⟩

/-- The next ready slot after the current one in cyclic order, the current one excluded. -/
def successor? (table : ProcessTable) : Option Slot :=
  ((List.range processLimit).map fun steps => stepFrom table.current (steps + 1)).find?
    fun slot => (table.process slot).state == .ready

/-- The slot to switch to; none when the current process goes on. -/
def choice? (table : ProcessTable) : Option Slot :=
  match table.successor? with
  | some slot => some slot
  | none => if table.running.state = .running then none else some ownSlot

/-- The table with one slot's process in another state. -/
def setState (table : ProcessTable) (slot : Slot) (state : RunState) : ProcessTable :=
  table.put slot { table.process slot with state }

/-- The table after the processor goes to another slot. -/
def switchTo (table : ProcessTable) (slot : Slot) : ProcessTable :=
  let paused :=
    if table.running.state = .running then table.setState table.current .ready else table
  { paused.setState slot .running with current := slot }

/-- The table after one selection pass. -/
def select (table : ProcessTable) : ProcessTable :=
  if table.enabled then
    match table.reap.choice? with
    | some slot => table.reap.switchTo slot
    | none => table.reap
  else table

/-- What a selection pass reports. -/
def selectNotices (table : ProcessTable) : List Notice :=
  if table.enabled then
    table.ended.map (fun slot => .processReaped (table.process slot).pid) ++
      match table.reap.choice? with
      | some slot =>
        [.processSwitched (table.reap.process table.current).pid (table.reap.process slot).pid]
      | none => []
  else []

/-- Run one selection pass. -/
def reschedule : Action ProcessTable ε Unit := do
  Action.reportAll (← get).selectNotices
  modify select

/-! ### Changes to the table alone -/

/-- The slot of a live process; its number must be in use. -/
def requireSlot (pid : Nat) : Action ProcessTable ProcessRefusal Slot := do
  match (← get).slotWith? pid with
  | some slot => return slot
  | none => Action.refuse .invalidTarget

/-- Block a running process, the kernel's own apart; answers whether it was one. -/
def block (pid : Nat) : Action ProcessTable ProcessRefusal Bool := do
  let slot ← requireSlot pid
  if slot = ownSlot ∨ ((← get).process slot).state ≠ .running then return false
  else
    modify (·.setState slot .blocked)
    reschedule
    return true

/-- Make a blocked process ready; answers whether it was blocked. -/
def unblock (pid : Nat) : Action ProcessTable ProcessRefusal Bool := do
  let slot ← requireSlot pid
  if ((← get).process slot).state ≠ .blocked then return false
  else
    modify (·.setState slot .ready)
    return true

/-- Charge the current process one tick. -/
def tick : Action ProcessTable ε Unit := do
  let table ← get
  if table.enabled then
    let ticksRun ← Action.ask (Checked.add longLimit table.running.ticksRun 1)
    modify fun table => table.put table.current { table.running with ticksRun }
  else return ()

theorem process_put (table : ProcessTable) (slot other : Slot) (process : ProcessEntry) :
    (table.put slot process).process other =
      if slot = other then process else table.process other := by
  simp only [ProcessTable.process, put, Fin.getElem_fin, Vector.getElem_set, Fin.ext_iff]

theorem process_reap (table : ProcessTable) (slot : Slot) :
    table.reap.process slot =
      if slot ≠ table.current ∧ (table.process slot).state = .zombie then ProcessEntry.vacant
      else table.process slot := by
  simp [ProcessTable.process, reap]

end ProcessTable

end MiniKernel
