/-
**Taking blocks back.**

A release marks the block free and then merges every run of free neighbours in the chain into its
first block.

* `Heap.coalesce` — the merge.
* `Heap.release` — the operation.
-/

import MiniKernel.Heap.Basic

namespace MiniKernel

namespace Heap

variable {ε : Type}

/-- Count a block of `span` bytes as given back. -/
def chargeReleased (span : Nat) : Action Heap ε Unit := do
  let used ← Action.ask (Checked.sub (← get).used span)
  modify ({ · with used })
  let free ← Action.ask (Checked.add longLimit (← get).free span)
  modify ({ · with free })
  let releases ← Action.ask (Checked.add longLimit (← get).releases 1)
  modify ({ · with releases })

/-- Merge each free block from `cursor` on with the free blocks that follow it, in at most `limit`
steps. A merge does not move on, so a run of any length collapses into its first block. -/
def coalesceFrom : Nat → Nat → Action Heap ε Unit
  | 0, _ => Action.abort .endless
  | limit + 1, cursor => do
    let current ← fetchHeader cursor
    if current.next = endOfChain then return ()
    else
      let following ← fetchHeader current.next
      if current.isFree && following.isFree then
        let gained ← Action.ask (Checked.add wordLimit headerBytes following.size)
        let size ← Action.ask (Checked.add wordLimit current.size gained)
        storeHeader cursor { current with size, next := following.next }
        coalesceFrom limit cursor
      else coalesceFrom limit current.next

/-- Merge all free neighbours. -/
def coalesce : Action Heap ε Unit := do
  coalesceFrom ((← get).total + 1) 0

/-- Take back the block behind a handle and merge it with free neighbours. -/
def release (handle : Handle) : Action Heap HeapRefusal Unit := do
  let block ← Action.ask ((← get).locate handle)
  storeHeader block.offset block.freed
  chargeReleased block.span
  coalesce

end Heap

end MiniKernel
