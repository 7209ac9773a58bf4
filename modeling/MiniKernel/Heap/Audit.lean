/-
**Whether chain, arena and counters agree.**

* `Heap.verify` — agreement, or the first thing wrong along the chain.
* `Heap.dump` — the counters and every block, reported to the log.
-/

import MiniKernel.Heap.Basic

namespace MiniKernel

/-- What is wrong with a chain of blocks. -/
inductive Violation
  /-- No block stands where the one before ended. -/
  | gap (offset : Nat)
  /-- The block at `offset` ends past the arena. -/
  | overrun (offset : Nat)
  /-- The chain ends at `stop`, before the arena does. -/
  | short (stop : Nat)
  /-- The free block at `offset` follows a free block. -/
  | adjacentFree (offset : Nat)
  /-- The chain is whole, these are its sums, and the counters say otherwise. -/
  | accounting (used free : Nat)
  deriving DecidableEq, Repr

/-- The short name of a violation. -/
def Violation.name : Violation → String
  | .gap _ => "Gap"
  | .overrun _ => "Overrun"
  | .short _ => "Short"
  | .adjacentFree _ => "AdjacentFree"
  | .accounting .. => "Accounting"

/-- The wording of a violation. -/
def Violation.message : Violation → String
  | .gap offset => "gap at " ++ Text.hex offset
  | .overrun offset => "block at " ++ Text.hex offset ++ " overruns arena"
  | .short stop => "block list ends early at " ++ Text.hex stop
  | .adjacentFree offset => "uncoalesced free block at " ++ Text.hex offset
  | .accounting used free =>
    "counters disagree with blocks (used " ++ toString used ++ ", free " ++ toString free ++ ")"

namespace Heap

variable {ε : Type}

/-- Walk the blocks against the offset each must stand at, with the sums so far, and answer the sums
of the live and of the free blocks. -/
def tally (length : Nat) (fault : Option Abort) :
    List Block → (expected used free : Nat) → (afterFree : Bool) → Answer Violation (Nat × Nat)
  | [], expected, used, free, _ =>
    match fault with
    | some fault => .abort fault
    | none => if expected = length then .ok (used, free) else .refuse (.short expected)
  | block :: rest, expected, used, free, afterFree =>
    if block.offset ≠ expected then .refuse (.gap expected)
    else if afterFree && block.isFree then .refuse (.adjacentFree block.offset)
    else if length < block.stop then .refuse (.overrun block.offset)
    else if block.isFree then tally length fault rest block.stop used (free + block.span) true
    else tally length fault rest block.stop (used + block.span) free false

/-- Check that the blocks tile the arena, that no two free ones touch, and that the counters are
their sums. -/
def verify (heap : Heap) : Answer Violation Unit := do
  let chain := heap.arena.chain
  let (used, free) ← tally heap.total chain.fault chain.blocks 0 0 0 false
  if used = heap.used ∧ free = heap.free then return ()
  else .refuse (.accounting used free)

/-- Report the counters and every block. -/
def dump : Action Heap ε Unit := do
  let heap ← get
  Action.report (.heapUsage heap.used heap.free heap.allocations heap.releases)
  let chain := heap.arena.chain
  Action.reportAll (chain.blocks.zipIdx.map fun (block, index) =>
    .heapBlock index block.offset block.size block.isFree)
  let _ ← Action.ask chain.complete
  return ()

end Heap

end MiniKernel
