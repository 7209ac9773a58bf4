/-
**A heap: one arena cut into a chain of blocks, and the counters kept beside it.**

The blocks tile the arena, each a header and its payload. All decisions come from the header words,
whatever they hold, so every operation is defined on a damaged arena too.

* `Heap.create` — a heap over a region, the whole arena one free block.
* `Heap.address`, `Heap.handleAt` — handles and machine addresses.
* `Heap.fetchHeader`, `Heap.storeHeader` — a header in the arena, read and written.
* `Heap.locate` — the live block behind a handle.
-/

import MiniKernel.Heap.Chain

namespace MiniKernel

/-- What an owner holds: the offset of its payload. -/
structure Handle where
  offset : Nat
  deriving DecidableEq, Repr

/-- An arena with the counters kept beside it. -/
structure Heap where
  arena : Arena
  /-- Header and payload bytes of all live blocks. -/
  used : Nat
  /-- Header and payload bytes of all free blocks. -/
  free : Nat
  allocations : Nat
  releases : Nat

namespace Heap

variable {σ ε : Type}

/-! ### The heap as a whole -/

/-- A heap whose arena is one free block. -/
def ofArena (arena : Arena) : Heap where
  arena := arena.setHeader 0
    { size := arena.size - headerBytes, next := endOfChain, flags := 1, requested := 0 }
  used := 0
  free := arena.size
  allocations := 0
  releases := 0

/-- Make a heap of a region, if there is room for one. -/
def create (region : Region) : Action σ HeapRefusal Heap := do
  match Arena.ofRegion? region with
  | none => Action.refuse .arenaTooSmall
  | some arena =>
    Action.report (.heapReady arena.size arena.base)
    return ofArena arena

/-- The machine address of the first byte. -/
def base (heap : Heap) : Nat := heap.arena.base

/-- Bytes of the arena. -/
def total (heap : Heap) : Nat := heap.arena.size

/-- The machine address of a payload. -/
def address (heap : Heap) (handle : Handle) : Nat := heap.base + handle.offset

/-- The handle for a machine address, which has only to lie in the arena. -/
def handleAt (heap : Heap) (address : Nat) : Except HeapRefusal Handle :=
  if heap.base ≤ address ∧ address - heap.base < heap.total then
    .ok ⟨address - heap.base⟩
  else .error .invalidAddress

/-- The blocks in chain order. -/
def blocks (heap : Heap) : Answer ε (List Block) := heap.arena.chain.complete

/-- The payload bytes of the largest free block; 0 when none is free. -/
def largestRoom (heap : Heap) : Answer ε Nat := do
  let blocks ← heap.blocks
  return ((blocks.filter (·.isFree)).map (·.size)).foldr max 0

/-! ### Headers and ranges -/

/-- Read the header at an offset. -/
def fetchHeader (offset : Nat) : Action Heap ε Header := do
  let heap ← get
  match heap.arena.headerFault? offset with
  | some fault => Action.abort fault
  | none => return heap.arena.header offset

/-- Write the header at an offset; words that cross the arena's end are not written. -/
def storeHeader (offset : Nat) (header : Header) : Action Heap ε Unit := do
  let fault? := (← get).arena.headerFault? offset
  modify fun heap => { heap with arena := heap.arena.setHeader offset header }
  match fault? with
  | some fault => Action.abort fault
  | none => return ()

/-- The live block behind a handle. -/
def locate (heap : Heap) (handle : Handle) : Answer HeapRefusal Block :=
  if handle.offset % alignment = 0 ∧ headerBytes ≤ handle.offset then
    heap.arena.chain.find (handle.offset - headerBytes)
  else .refuse .invalidAddress

/-- Stop if a range of bytes is not inside the arena. -/
def requireRange (offset count : Nat) : Action Heap ε Unit := do
  match (← get).arena.rangeFault? offset count with
  | some fault => Action.abort fault
  | none => return ()

end Heap

end MiniKernel
