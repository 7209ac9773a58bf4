/-
**Handing out blocks: the best fit.**

A request takes the smallest free block that holds it, the first one among equals, and gives back
what is left over if that makes a block.

* `Heap.bestFit` — the block a request takes.
* `Heap.allocate`, `Heap.allocateClear` — the operations.
-/

import MiniKernel.Heap.Basic

namespace MiniKernel

namespace Heap

variable {ε : Type}

/-- The smallest free block of at least `wanted` bytes, the first one among equals. -/
def bestFitAmong (wanted : Nat) : List Block → Option Block
  | [] => none
  | block :: rest =>
    if block.isFree ∧ wanted ≤ block.size then
      match bestFitAmong wanted rest with
      | some other => if other.size < block.size then some other else some block
      | none => some block
    else bestFitAmong wanted rest

/-- The block a request of `wanted` bytes takes. -/
def bestFit (heap : Heap) (wanted : Nat) : Answer ε (Option Block) := do
  let blocks ← heap.blocks
  return bestFitAmong wanted blocks

/-- Cut a block down to `wanted` bytes when what is left over makes a block, which becomes a free
one right behind it. Answers the header of the first part, which is not written yet. -/
def split (block : Block) (wanted : Nat) : Action Heap ε Header := do
  if wanted + headerBytes + smallestPayload ≤ block.size then
    let tail ← Action.ask (Checked.add wordLimit (block.offset + headerBytes) wanted)
    storeHeader tail
      { size := block.size - wanted - headerBytes, next := block.next, flags := 1, requested := 0 }
    return { block.toHeader with size := wanted, next := tail }
  else return block.toHeader

/-- Count a block of `span` bytes as taken. -/
def chargeTaken (span : Nat) : Action Heap ε Unit := do
  let used ← Action.ask (Checked.add longLimit (← get).used span)
  modify ({ · with used })
  let free ← Action.ask (Checked.sub (← get).free span)
  modify ({ · with free })
  let allocations ← Action.ask (Checked.add longLimit (← get).allocations 1)
  modify ({ · with allocations })

/-- Hand a free block to an owner that asked for `size` bytes, rounded up to `wanted`. -/
def take (block : Block) (wanted size : Nat) : Action Heap ε Handle := do
  let header ← split block wanted
  storeHeader block.offset (header.taken size)
  chargeTaken header.span
  return ⟨block.payload⟩

/-- Hand out a block of at least `size` bytes. -/
def allocate (size : Nat) : Action Heap HeapRefusal Handle := do
  let heap ← get
  if size = 0 then Action.refuse .invalidSize
  else if heap.total < size then Action.refuse .outOfMemory
  else
    match ← Action.ask (heap.bestFit (roundUp size)) with
    | some block => take block (roundUp size) size
    | none =>
      Action.report (.noBlock size heap.free)
      Action.refuse .outOfMemory

/-- Hand out a block for `count` items of `size` bytes, with those bytes zero. -/
def allocateClear (count size : Nat) : Action Heap HeapRefusal Handle := do
  if count * size < longLimit then
    let handle ← allocate (count * size)
    requireRange handle.offset (count * size)
    modify fun heap => { heap with arena := heap.arena.fill handle.offset 0 (count * size) }
    return handle
  else Action.refuse .outOfMemory

end Heap

end MiniKernel
