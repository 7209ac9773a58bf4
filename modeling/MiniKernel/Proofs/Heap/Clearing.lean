/-
**Blocks handed out cleared.**

A block may be larger than what was asked for, and its bytes are what the last owner or an old
header left there. Only the bytes asked for are cleared.

* `Arena.slice_of_fill` — a stretch of the arena whose first bytes were filled.
* `Heap.ClearedAt` — a heap after a plain allocation, with the bytes asked for cleared.
* `Heap.Ran.allocateClear_cases` — a cleared allocation fails as the plain one does, or answers the
  same handle and leaves it so.
* `Heap.clear_allocation` — **every cleared allocation** in every run, with those that are refused.
* `Heap.stained_allocation` — the bytes behind those asked for can be seen, and are not cleared.
-/

import MiniKernel.Proofs.Heap.Releasing

namespace MiniKernel

-- A written header is known by its lemmas only.
seal Arena.setHeader

namespace Arena

/-- A slice whose first bytes were filled: those, and the others as they were. -/
theorem slice_of_fill (arena : Arena) {offset count room : Nat} (value : UInt8)
    (inside : offset + count ≤ arena.size) (within : count ≤ room) :
    (arena.fill offset value count).slice offset room =
      List.replicate count value ++ (arena.slice offset room).drop count := by
  obtain ⟨more, rfl⟩ := Nat.exists_eq_add_of_le within
  have behind : (arena.fill offset value count).slice (offset + count) more =
      arena.slice (offset + count) more := by
    refine (arena.changedIn_fill offset value count).slice fun step _ => ?_
    rw [Set.mem_Ico]
    omega
  rw [slice_add, slice_fill arena value inside, behind, slice_add,
    List.drop_left' (arena.length_slice offset count)]

end Arena

namespace Heap

variable {heap plain : Heap} {block : Block} {blocks front back : List Block}
  {history : List Exchange} {handle : Handle} {count size wanted : Nat} {effects : List Effect}

/-! ### A plain allocation and the clearing -/

/-- **`after` is what a plain allocation left, with `count` bytes cleared behind its handle**: the
bytes behind those stay as they were found, and nobody else's block was touched. -/
structure ClearedAt (before plain : Heap) (history : List Exchange) (handle : Handle) (count : Nat)
    (after : Heap) : Prop where
  blocks : (after.blocks : Answer HeapRefusal (List Block)) = plain.blocks
  bytes : ∀ offset, offset < handle.offset ∨ handle.offset + count ≤ offset →
    after.arena.byte offset = plain.arena.byte offset
  capacity : after.capacity handle = plain.capacity handle
  payload : ∃ found, plain.payload handle = .ok found ∧ count ≤ found.length ∧
    after.payload handle = .ok (List.replicate count 0 ++ found.drop count)
  others : ∀ other, Live history other → after.capacity other = before.capacity other ∧
    after.payload other = before.payload other
  used : after.used = plain.used
  free : after.free = plain.free
  allocations : after.allocations = plain.allocations
  releases : after.releases = plain.releases

/-- The block that an allocation handed out. -/
theorem Sound.handedOut (sound : heap.Sound blocks)
    (run : allocate size heap = ⟨.ok handle, plain, effects⟩) :
    ∃ front block back, blocks = front ++ block :: back ∧ block.isFree = true ∧ size ≠ 0 ∧
      roundUp size ≤ block.size ∧ handle = ⟨block.payload⟩ ∧ effects = [] ∧
      heap.HandedOut front block back (roundUp size) size plain := by
  have returns : (allocate size heap).result.Returns := by
    rw [run]
    exact Answer.returns_ok _
  rcases allocate_cases sound size (Or.inr returns) with ⟨_, refused⟩ | ⟨_, _, _, _, refused⟩ |
    ⟨positive, _, front, block, back, after, rfl, chosen, out, given⟩
  · rw [run] at refused
    cases refused
  · rw [run] at refused
    cases refused
  · rw [run] at given
    cases given
    obtain ⟨_, free, fits⟩ := bestFitAmong_mem chosen
    exact ⟨front, block, back, rfl, free, positive, fits, rfl, rfl, out⟩

/-- The bytes asked for are cleared, and the rest of the payload is as it was found. -/
theorem HandedOut.payload_cleared (regular : heap.Regular (front ++ block :: back))
    (out : heap.HandedOut front block back (roundUp wanted) wanted plain)
    (fits : roundUp wanted ≤ block.size) :
    ∃ found, plain.payload ⟨block.payload⟩ = .ok found ∧ wanted ≤ found.length ∧
      (plain.cleared ⟨block.payload⟩ wanted).payload ⟨block.payload⟩ =
        .ok (List.replicate wanted 0 ++ found.drop wanted) := by
  have cleared := out.filled fits le_rfl (plain.arena.changedIn_fill block.payload 0 wanted)
  have large : wanted ≤ (block.handed (roundUp wanted) wanted).size :=
    (le_roundUp wanted).trans (Block.size_handed wanted fits).1
  refine ⟨_, payload_of_locate out.tiled (out.located regular), ?_, ?_⟩
  · rw [Arena.length_slice]
    exact large
  · rw [← Arena.slice_of_fill plain.arena 0 (out.inside fits) large]
    exact payload_of_locate cleared.tiled (cleared.located regular)

/-- **What a cleared allocation leaves.** -/
theorem Ran.clearedAt (ran : heap.Ran history) (regular : heap.Regular (front ++ block :: back))
    (free : block.isFree = true) (positive : count * size ≠ 0)
    (fits : roundUp (count * size) ≤ block.size)
    (out : heap.HandedOut front block back (roundUp (count * size)) (count * size) plain) :
    heap.ClearedAt plain history ⟨block.payload⟩ (count * size)
      (plain.cleared ⟨block.payload⟩ (count * size)) := by
  have changed := plain.arena.changedIn_fill block.payload 0 (count * size)
  have cleared := out.filled fits le_rfl changed
  have course : heap.Course (front ++ block :: back) (.allocateClear count size)
      (.ok (.handle ⟨block.payload⟩)) (plain.cleared ⟨block.payload⟩ (count * size)) :=
    .handedOut rfl rfl free positive fits cleared
  refine ⟨(blocks_eq cleared.tiled).trans (blocks_eq out.tiled).symm, fun offset outside => ?_,
    ?_, out.payload_cleared regular fits, fun other live => ?_, rfl, rfl, rfl, rfl⟩
  · refine changed.kept offset fun inside => ?_
    obtain ⟨low, high⟩ := Set.mem_Ico.mp inside
    exact outside.elim (Nat.not_lt.mpr low) (Nat.not_le.mpr high)
  · exact (capacity_eq_of_locate (cleared.located regular)).trans
      (capacity_eq_of_locate (out.located regular)).symm
  · obtain ⟨_, located⟩ := ran.located_iff.mpr live
    exact course.kept regular.toSound located id

/-! ### Every cleared allocation -/

/-- A cleared allocation fails as the plain one does, or hands out the same block and clears it. -/
theorem Ran.allocateClear_cases (ran : heap.Ran history) (regular : heap.Regular blocks)
    (small : count * size < longLimit) :
    (∃ failure plain effects,
      allocate (count * size) heap = ⟨.error failure, plain, effects⟩ ∧
      allocateClear count size heap = ⟨.error failure, plain, effects⟩) ∨
    ∃ handle plain after, allocate (count * size) heap = ⟨.ok handle, plain, []⟩ ∧
      allocateClear count size heap = ⟨.ok handle, after, []⟩ ∧
      heap.ClearedAt plain history handle (count * size) after := by
  rcases run : allocate (count * size) heap with ⟨result, plain, effects⟩
  cases result with
  | error failure =>
    exact Or.inl ⟨failure, plain, effects, rfl, allocateClear_of_error small run⟩
  | ok handle =>
    obtain ⟨front, block, back, rfl, free, positive, fits, rfl, rfl, out⟩ :=
      regular.toSound.handedOut run
    exact Or.inr ⟨_, plain, _, rfl, out.allocateClear_eq fits small run,
      ran.clearedAt regular free positive fits out⟩

/-- **A cleared allocation clears what was asked for.** In every run, a number of bytes that the
machine cannot count is refused for want of memory. Any other one is answered as a plain allocation
of that many bytes is, with the same reports. A refusal leaves the heap as it was. And behind a
handle that is answered, the bytes asked for are zero, those of the block behind them are what the
plain allocation would have left there, and what others hold stays as it was. -/
theorem clear_allocation (ran : heap.Ran history) (count size : Nat) :
    (longLimit ≤ count * size →
      allocateClear count size heap = ⟨.error (.refused .outOfMemory), heap, []⟩) ∧
    (count * size < longLimit →
      (allocateClear count size heap).result = (allocate (count * size) heap).result ∧
      (allocateClear count size heap).effects = (allocate (count * size) heap).effects) ∧
    (∀ cause, (allocateClear count size heap).result = .error (.refused cause) →
      (allocateClear count size heap).state = heap) ∧
    ∀ handle, (allocateClear count size heap).result = .ok handle →
      heap.ClearedAt (allocate (count * size) heap).state history handle (count * size)
        (allocateClear count size heap).state := by
  obtain ⟨blocks, honours⟩ := ran.reached.honours
  have cases_of := fun small : count * size < longLimit =>
    ran.allocateClear_cases honours.toRegular small
  refine ⟨heap.allocateClear_overflows, fun small => ?_, fun cause refused => ?_,
    fun handle given => ?_⟩
  · rcases cases_of small with ⟨_, _, _, plainly, run⟩ | ⟨_, _, _, plainly, run, _⟩
    · rw [plainly, run]
      exact ⟨rfl, rfl⟩
    · rw [plainly, run]
      exact ⟨rfl, rfl⟩
  · rcases Nat.lt_or_ge (count * size) longLimit with small | large
    · rcases cases_of small with ⟨_, _, _, plainly, run⟩ | ⟨_, _, _, _, run, _⟩
      · rw [run] at refused ⊢
        cases refused
        exact honours.not_allocated plainly
      · rw [run] at refused
        cases refused
    · rw [heap.allocateClear_overflows large]
  · rcases Nat.lt_or_ge (count * size) longLimit with small | large
    · rcases cases_of small with ⟨_, _, _, _, run⟩ | ⟨_, _, _, plainly, run, cleared⟩
      · rw [run] at given
        cases given
      · rw [run] at given ⊢
        cases given
        rw [plainly]
        exact cleared
    · rw [heap.allocateClear_overflows large] at given
      cases given

/-- What was asked of `stainedHeap`, the latest first. -/
def stainedHistory : List Exchange :=
  [⟨.release ⟨16⟩, .ok .done⟩, ⟨.fill ⟨16⟩ 170, .ok (.count 16)⟩,
    ⟨.allocate 16, .ok (.handle ⟨16⟩)⟩]

/-- The first block of `roomyRegion` was handed out, filled by its owner and taken back. -/
def stainedHeap : Heap :=
  [Request.allocate 16, .fill ⟨16⟩ 170, .release ⟨16⟩].foldl
    (fun heap request => (request.perform heap).state) roomyHeap

theorem ran_stainedHeap : stainedHeap.Ran stainedHistory := by
  have fresh := Ran.fresh create_roomyRegion
  have one := fresh.answered (.allocate 16) (.handle ⟨16⟩) (by decide +kernel)
  have two := one.answered (.fill ⟨16⟩ 170) (.count 16) (by decide +kernel)
  exact two.answered (.release ⟨16⟩) .done (by decide +kernel)

theorem allocateClear_stainedHeap : (allocateClear 1 1 stainedHeap).result = .ok ⟨16⟩ := by
  decide +kernel

/-- One byte is asked for and cleared. More bytes than can be counted are refused. -/
theorem clear_allocation_stainedHeap :
    stainedHeap.Ran stainedHistory ∧ longLimit ≤ longLimit / 2 * 2 ∧
      allocateClear (longLimit / 2) 2 stainedHeap =
        ⟨.error (.refused .outOfMemory), stainedHeap, []⟩ ∧
      (allocateClear 1 1 stainedHeap).result = .ok ⟨16⟩ ∧
      ∃ found, (allocate 1 stainedHeap).state.payload ⟨16⟩ = .ok found ∧
        (allocateClear 1 1 stainedHeap).state.payload ⟨16⟩ = .ok (0 :: found.drop 1) := by
  have large : longLimit ≤ longLimit / 2 * 2 := by decide
  obtain ⟨overflows, _⟩ := clear_allocation ran_stainedHeap (longLimit / 2) 2
  obtain ⟨_, _, _, given⟩ := clear_allocation ran_stainedHeap 1 1
  obtain ⟨found, before, _, after⟩ := (given ⟨16⟩ allocateClear_stainedHeap).payload
  exact ⟨ran_stainedHeap, large, overflows large, allocateClear_stainedHeap, found, before, after⟩

/-- **A cleared block may show what its last owner wrote**, behind the one byte asked for: the block
has 8 bytes, and all of them can be read through its handle. -/
theorem stained_allocation :
    stainedHeap.Ran stainedHistory ∧ (allocateClear 1 1 stainedHeap).result = .ok ⟨16⟩ ∧
      (allocateClear 1 1 stainedHeap).state.capacity ⟨16⟩ = .ok 8 ∧
      (allocateClear 1 1 stainedHeap).state.payload ⟨16⟩ =
        .ok [0, 170, 170, 170, 170, 170, 170, 170] :=
  ⟨ran_stainedHeap, allocateClear_stainedHeap, by decide +kernel, by decide +kernel⟩

end Heap

end MiniKernel
