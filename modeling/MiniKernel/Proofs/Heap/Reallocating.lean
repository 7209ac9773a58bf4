/-
**A reallocation keeps the data.**

The bytes of a block that is too small go to another one inside the same arena. Two headers may be
written before they are copied, and what merging writes comes after, none of it onto the bytes or
their copy.

* `Heap.KeptInPlace` — what is left of a heap when a block is kept for another number of bytes.
* `Heap.MovedTo` — what is left of it when the contents of a block were moved.
* `Heap.Ran.keptInPlace`, `Heap.Ran.movedTo` — a reallocation of a live handle does the one if the
  block is large enough, and the other if it is not and there is room for a larger one.
* `Heap.reallocate_keeps` — **every reallocation of a live handle**, with those that are refused.
-/

import MiniKernel.Proofs.Heap.Releasing

namespace MiniKernel

-- A written header is known by its lemmas only.
seal Arena.setHeader

namespace Heap

variable {heap after : Heap} {block old : Block} {blocks front back : List Block}
  {history : List Exchange} {handle moved : Handle} {size : Nat}

/-- A reallocation was answered with another handle. -/
def Exchange.moving (handle : Handle) (size : Nat) (moved : Handle) : Exchange :=
  ⟨.reallocate handle size, .ok (.handle moved)⟩

/-! ### In place -/

/-- **`after` is `before` with a block kept for an owner that now asks for `size` bytes**: no byte
outside the header of that block changed, and no counter. -/
structure KeptInPlace (before : Heap) (history : List Exchange) (front : List Block) (block : Block)
    (back : List Block) (size : Nat) (after : Heap) : Prop where
  blocks : (after.blocks : Answer HeapRefusal (List Block)) =
    .ok (front ++ { block with requested := size } :: back)
  bytes : ∀ offset, offset < block.offset ∨ block.payload ≤ offset →
    after.arena.byte offset = before.arena.byte offset
  payloads : ∀ handle, Live history handle → after.capacity handle = before.capacity handle ∧
    after.payload handle = before.payload handle
  used : after.used = before.used
  free : after.free = before.free
  allocations : after.allocations = before.allocations
  releases : after.releases = before.releases

/-- **A block that is large enough is kept.** -/
theorem Ran.keptInPlace (ran : heap.Ran history) (regular : heap.Regular (front ++ block :: back))
    (located : heap.locate handle = .ok block) (positive : size ≠ 0) (fits : size ≤ block.size) :
    ∃ after, reallocate handle size heap = ⟨.ok handle, after, []⟩ ∧
      heap.KeptInPlace history front block back size after := by
  obtain ⟨after, resized, run⟩ := reallocate_kept regular.tiled located positive fits
  have course : heap.Course (front ++ block :: back) (.reallocate handle size)
      (.ok (.handle handle)) after := .resized rfl located positive fits resized
  refine ⟨after, run, blocks_eq resized.tiled, fun offset outside => ?_, fun other live => ?_,
    ?_, ?_, ?_, ?_⟩
  · refine resized.changed.kept offset fun inside => ?_
    rw [Set.mem_Ico] at inside
    omega
  · obtain ⟨_, found⟩ := ran.located_iff.mpr live
    exact course.kept regular.toSound found fun disturbs => disturbs.2 disturbs.1
  all_goals rw [resized.counters]

/-! ### From one block to another -/

/-- **In `after` the contents behind `handle` were moved to `moved`**, where there is room for
`size` bytes, and all that others hold is where it was. -/
structure MovedTo (before : Heap) (history : List Exchange) (handle : Handle)
    (contents : List UInt8) (size : Nat) (moved : Handle) (after : Heap) : Prop where
  apart : moved ≠ handle
  ran : after.Ran (.moving handle size moved :: history)
  live : Live (.moving handle size moved :: history) moved
  gone : ¬ Live (.moving handle size moved :: history) handle
  room : ∃ room, after.capacity moved = .ok room ∧ size ≤ room
  copied : ∃ bytes, after.payload moved = .ok bytes ∧ bytes.take contents.length = contents
  others : ∀ other, other ≠ handle → Live history other →
    after.capacity other = before.capacity other ∧ after.payload other = before.payload other
  allocations : after.allocations = before.allocations + 1
  releases : after.releases = before.releases + 1

/-- A handle that was moved away from is no longer live, the other one is. -/
theorem live_moving (apart : moved ≠ handle) :
    Live (.moving handle size moved :: history) moved ∧
      ¬ Live (.moving handle size moved :: history) handle := by
  refine ⟨standing_cons.mpr (Or.inl rfl), fun live => ?_⟩
  rcases standing_cons.mp live with given | ⟨untaken, _⟩
  · exact apart given
  · exact untaken ⟨rfl, apart⟩

/-- **The copy outlives the release of the block it was made of.** -/
theorem TakenBack.copy_kept {filled : Heap} {ahead behind : List Block}
    (copied : heap.HandedOut front block back (roundUp size) size filled)
    (regular : heap.Regular (front ++ block :: back)) (free : block.isFree = true)
    (fits : roundUp size ≤ block.size) (live : old.isFree = false) (grows : old.size < size)
    (apart : block.payload ≠ old.payload)
    (carved : front ++ block.carve (roundUp size) size ++ back = ahead ++ old :: behind)
    (back_again : filled.TakenBack ahead old behind after) :
    (∃ room, after.capacity ⟨block.payload⟩ = .ok room ∧ size ≤ room) ∧
      ∃ bytes, after.payload ⟨block.payload⟩ = .ok bytes ∧
        bytes.take old.size = filled.arena.slice block.payload old.size := by
  have located := copied.located regular
  have sound := copied.sound regular.toSound free
  rw [carved] at sound
  have alike : filled.Alike after ⟨block.payload⟩ := back_again.alike sound live apart
  have large : size ≤ (block.handed (roundUp size) size).size :=
    (le_roundUp size).trans (Block.size_handed size fits).1
  refine ⟨⟨_, capacity_eq_of_locate (alike.located.trans located), large⟩, ?_⟩
  refine ⟨_, alike.contents.trans (payload_of_locate copied.tiled located), ?_⟩
  exact Arena.take_slice _ (grows.le.trans large)

/-- **The contents of a block that is too small are moved**, if there is room for a larger one. -/
theorem Ran.movedTo (ran : heap.Ran history) (regular : heap.Regular blocks)
    (located : heap.locate handle = .ok old) (grows : old.size < size)
    (within : size ≤ roomAmong blocks)
    (going : heap.allocations + 1 < longLimit ∨ (reallocate handle size heap).result.Returns) :
    heap.allocations + 1 < longLimit ∧ ∃ moved after,
      reallocate handle size heap = ⟨.ok moved, after, []⟩ ∧
      heap.MovedTo history handle (heap.arena.slice handle.offset old.size) size moved after := by
  have positive : size ≠ 0 := Nat.ne_zero_of_lt grows
  have allocating : heap.allocations + 1 < longLimit ∨ (allocate size heap).result.Returns := by
    rw [reallocate_grows located grows] at going
    exact going.imp_right Action.returns_first
  obtain ⟨front, block, back, middle, rfl, chosen, out, taken⟩ :=
    regular.allocate_fits positive within allocating
  obtain ⟨_, free, fits⟩ := bestFitAmong_mem chosen
  obtain ⟨filled, ahead, behind, after, copied, bytes, carved, back_again, run⟩ :=
    out.moved regular.toSound free fits located grows taken
      (Or.inl (regular.releasable ran.counted located))
  have course : heap.Course (front ++ block :: back) (.reallocate handle size)
      (.ok (.handle ⟨block.payload⟩)) after :=
    .moved rfl free positive fits copied located carved back_again
  have apart : Handle.mk block.payload ≠ handle :=
    (ne_of_free regular.toSound free located).symm
  have step := ran.answered (.reallocate handle size) (.handle ⟨block.payload⟩)
    (congrArg Outcome.result (Request.perform_reallocate run))
  rw [Request.perform_reallocate run] at step
  obtain ⟨_, live, there⟩ := mem_of_locate regular.tiled located
  obtain ⟨room, kept⟩ := back_again.copy_kept copied regular free fits live grows
    (fun same => apart (congrArg Handle.mk (same.trans there))) carved
  refine ⟨out.countable, ⟨block.payload⟩, after, run, apart, step, (live_moving apart).1,
    (live_moving apart).2, room, ?_, fun other different others => ?_, ?_, ?_⟩
  · rw [Arena.length_slice, ← bytes]
    exact kept
  · obtain ⟨_, found⟩ := ran.located_iff.mpr others
    exact course.kept regular.toSound found fun disturbs => different disturbs.1.symm
  · rw [back_again.allocations, copied.allocations]
  · rw [back_again.releases, copied.releases]

/-! ### Every reallocation -/

/-- A reallocation for which there is no room leaves the block as it is. -/
theorem Regular.reallocate_short (regular : heap.Regular blocks)
    (located : heap.locate handle = .ok old) (grows : old.size < size)
    (short : roomAmong blocks < size) :
    ∃ effects, reallocate handle size heap = ⟨.error (.refused .outOfMemory), heap, effects⟩ := by
  obtain ⟨effects, run⟩ := regular.allocate_short (Nat.ne_zero_of_lt grows) short
  rw [reallocate_grows located grows]
  exact ⟨effects, Action.bind_apply_error run⟩

/-- **A reallocation keeps the data.** In every run a live handle can be asked to have room for
another number of bytes. None at all is invalid. A number that the block holds is written down in
its header, and nothing else changes. For a larger one there is a new block, if there is room for
it: it opens with the bytes of the old one, which is taken back, and what others hold stays where it
was; the kernel stops instead where the count of allocations is full. If there is no room the heap
stays as it was. -/
theorem reallocate_keeps (ran : heap.Ran history) (live : Live history handle) (size : Nat) :
    ∃ front block back contents room,
      (heap.blocks : Answer HeapRefusal (List Block)) = .ok (front ++ block :: back) ∧
      block.payload = handle.offset ∧ heap.capacity handle = .ok block.size ∧
      heap.payload handle = .ok contents ∧ contents.length = block.size ∧
      (heap.largestRoom : Answer HeapRefusal Nat) = .ok room ∧
      (size = 0 → reallocate handle size heap = ⟨.error (.refused .invalidSize), heap, []⟩) ∧
      (size ≠ 0 → size ≤ block.size → ∃ after,
        reallocate handle size heap = ⟨.ok handle, after, []⟩ ∧
        heap.KeptInPlace history front block back size after) ∧
      (block.size < size → room < size → ∃ effects,
        reallocate handle size heap = ⟨.error (.refused .outOfMemory), heap, effects⟩) ∧
      (block.size < size → size ≤ room →
        ((reallocate handle size heap).result.Returns ↔ heap.allocations + 1 < longLimit)) ∧
      (block.size < size → size ≤ room → heap.allocations + 1 < longLimit → ∃ moved after,
        reallocate handle size heap = ⟨.ok moved, after, []⟩ ∧
        heap.MovedTo history handle contents size moved after) := by
  obtain ⟨blocks, honours⟩ := ran.reached.honours
  have regular := honours.toRegular
  obtain ⟨block, located⟩ := ran.located_iff.mpr live
  obtain ⟨member, _, there⟩ := mem_of_locate regular.tiled located
  obtain ⟨front, back, rfl⟩ := List.append_of_mem member
  refine ⟨front, block, back, _, _, blocks_eq regular.tiled, there, capacity_eq_of_locate located,
    payload_of_locate regular.tiled located, Arena.length_slice .., largestRoom_eq regular.tiled,
    ?_, ran.keptInPlace regular located, regular.reallocate_short located, fun grows within => ?_,
    fun grows within countable => (ran.movedTo regular located grows within (Or.inl countable)).2⟩
  · rintro rfl
    rfl
  · refine ⟨fun returns => (ran.movedTo regular located grows within (Or.inr returns)).1,
      fun countable => ?_⟩
    obtain ⟨_, moved, _, run, _⟩ := ran.movedTo regular located grows within (Or.inl countable)
    rw [run]
    exact Answer.returns_ok moved

/-- What was asked of `notedHeap`, the latest first. -/
def notedHistory : List Exchange :=
  [⟨.write ⟨16⟩ 0 [1, 2, 3], .ok (.count 3)⟩, ⟨.allocate 16, .ok (.handle ⟨16⟩)⟩]

/-- The first block of `roomyRegion` was handed out, and its owner wrote into it. -/
def notedHeap : Heap :=
  [Request.allocate 16, .write ⟨16⟩ 0 [1, 2, 3]].foldl
    (fun heap request => (request.perform heap).state) roomyHeap

theorem ran_notedHeap : notedHeap.Ran notedHistory := by
  have fresh := Ran.fresh create_roomyRegion
  have one := fresh.answered (.allocate 16) (.handle ⟨16⟩) (by decide +kernel)
  exact one.answered (.write ⟨16⟩ 0 [1, 2, 3]) (.count 3) (by decide +kernel)

/-- The block is kept for 10 bytes and moved for 20, and there is no room for 49. -/
theorem reallocate_keeps_notedHeap :
    notedHeap.Ran notedHistory ∧ Live notedHistory ⟨16⟩ ∧
      (∃ after, reallocate ⟨16⟩ 10 notedHeap = ⟨.ok ⟨16⟩, after, []⟩ ∧
        after.payload ⟨16⟩ = notedHeap.payload ⟨16⟩) ∧
      (∃ moved after bytes, reallocate ⟨16⟩ 20 notedHeap = ⟨.ok moved, after, []⟩ ∧
        moved ≠ ⟨16⟩ ∧ after.payload moved = .ok bytes ∧ bytes.take 3 = [1, 2, 3]) ∧
      (∃ effects, reallocate ⟨16⟩ 49 notedHeap =
        ⟨.error (.refused .outOfMemory), notedHeap, effects⟩) ∧
      reallocate ⟨16⟩ 0 notedHeap = ⟨.error (.refused .invalidSize), notedHeap, []⟩ := by
  have live : Live notedHistory ⟨16⟩ := by
    simp [Live, notedHistory, standing_cons, Exchange.Gives, Exchange.Takes]
  have capacity : notedHeap.capacity ⟨16⟩ = .ok 16 := by decide +kernel
  have payload : notedHeap.payload ⟨16⟩ = .ok ([1, 2, 3] ++ List.replicate 13 0) := by
    decide +kernel
  have largest : (notedHeap.largestRoom : Answer HeapRefusal Nat) = .ok 48 := by decide +kernel
  have countable : notedHeap.allocations + 1 < longLimit := by decide +kernel
  -- the block and the largest room are the same whatever is asked for
  have known : ∀ {size room : Nat}, notedHeap.capacity ⟨16⟩ = .ok size →
      (notedHeap.largestRoom : Answer HeapRefusal Nat) = .ok room → size = 16 ∧ room = 48 :=
    fun has had => ⟨Except.ok.inj (has.symm.trans capacity), Except.ok.inj (had.symm.trans largest)⟩
  refine ⟨ran_notedHeap, live, ?_, ?_, ?_, ?_⟩
  · obtain ⟨_, block, _, _, _, _, _, has, _, _, had, _, kept, _⟩ :=
      reallocate_keeps ran_notedHeap live 10
    obtain ⟨size, rfl⟩ := known has had
    obtain ⟨after, run, same⟩ := kept (by decide) (by omega)
    exact ⟨after, run, (same.payloads ⟨16⟩ live).2⟩
  · obtain ⟨_, block, _, contents, _, _, _, has, held, _, had, _, _, _, _, moves⟩ :=
      reallocate_keeps ran_notedHeap live 20
    obtain ⟨size, rfl⟩ := known has had
    obtain ⟨moved, after, run, done⟩ := moves (by omega) (by decide) countable
    obtain ⟨bytes, found, copied⟩ := done.copied
    obtain rfl := Except.ok.inj (payload.symm.trans held)
    refine ⟨moved, after, bytes, run, done.apart, found, ?_⟩
    have first := congrArg (List.take 3) copied
    rw [List.take_take] at first
    exact first
  · obtain ⟨_, block, _, _, _, _, _, has, _, _, had, _, _, short, _⟩ :=
      reallocate_keeps ran_notedHeap live 49
    obtain ⟨size, rfl⟩ := known has had
    exact short (by omega) (by decide)
  · obtain ⟨_, _, _, _, _, _, _, _, _, _, _, invalid, _⟩ := reallocate_keeps ran_notedHeap live 0
    exact invalid rfl

end Heap

end MiniKernel
