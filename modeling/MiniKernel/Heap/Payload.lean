/-
**An owner and its bytes.**

* `Heap.capacity`, `Heap.payload` — what an owner may use, and what it holds.
* `Heap.write`, `Heap.fill` — changes inside a payload.
* `Heap.reallocate` — the payload kept in place if it is large enough, and moved otherwise.
-/

import MiniKernel.Heap.Allocation
import MiniKernel.Heap.Release

namespace MiniKernel

namespace Heap

variable {ε : Type}

/-- The bytes an owner may use, which may be more than it asked for. -/
def capacity (heap : Heap) (handle : Handle) : Answer HeapRefusal Nat := do
  let block ← heap.locate handle
  return block.size

/-- The contents of a payload. -/
def payload (heap : Heap) (handle : Handle) : Answer HeapRefusal (List UInt8) := do
  let block ← heap.locate handle
  match heap.arena.rangeFault? handle.offset block.size with
  | some fault => .abort fault
  | none => return heap.arena.slice handle.offset block.size

/-- Write bytes into a payload from position `start` on, as many as fit; answers how many. -/
def write (handle : Handle) (start : Nat) (values : List UInt8) :
    Action Heap HeapRefusal Nat := do
  let block ← Action.ask ((← get).locate handle)
  requireRange handle.offset block.size
  let kept := values.take (block.size - start)
  modify fun heap => { heap with arena := heap.arena.write (handle.offset + start) kept }
  return kept.length

/-- Fill a whole payload with one byte; answers its length. -/
def fill (handle : Handle) (value : UInt8) : Action Heap HeapRefusal Nat := do
  let block ← Action.ask ((← get).locate handle)
  requireRange handle.offset block.size
  modify fun heap => { heap with arena := heap.arena.fill handle.offset value block.size }
  return block.size

/-- Copy `count` bytes inside the arena. -/
def copy (source target count : Nat) : Action Heap ε Unit := do
  requireRange source count
  requireRange target count
  modify fun heap => { heap with arena := heap.arena.write target (heap.arena.slice source count) }

/-- Keep a block that already holds `size` bytes; otherwise move its contents to a new block and
release the old one. -/
def reallocate (handle : Handle) (size : Nat) : Action Heap HeapRefusal Handle := do
  if size = 0 then Action.refuse .invalidSize
  else
    let block ← Action.ask ((← get).locate handle)
    if size ≤ block.size then
      storeHeader block.offset { block.toHeader with requested := size }
      return handle
    else
      let moved ← allocate size
      copy handle.offset moved.offset block.size
      release handle
      return moved

end Heap

end MiniKernel
