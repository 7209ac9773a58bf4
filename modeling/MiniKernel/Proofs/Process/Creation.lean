/-
**A process is created exactly where a slot is free and the heap has a stack to give.**

* `ProcessTable.Full`, `ProcessTable.LowestFree` — no slot is free, and the lowest slot that is.
* `Heap.Added` — one live block more; `Heap.Regular.lent` — an allocation that is served adds one,
  and a release takes it away again.
* `Core.Created` — the process a creation makes, and all it leaves alone.
* `Core.spawn_short`, `Core.spawn_lent` — **one creation** without a stack to give, and with one;
  `Core.kill_created` — one undone.
* `Core.creation_exact` — **when a creation is refused and for which cause, what it makes otherwise,
  and that a kill undoes it.**
-/

import MiniKernel.Proofs.Heap.Canonical
import MiniKernel.Proofs.Process.Numbers

namespace MiniKernel

-- A selection pass and a written header are known by their lemmas only.
seal ProcessTable.select ProcessTable.selectNotices Arena.setHeader

/-! ### The slot of a new process -/

namespace ProcessTable

variable {table : ProcessTable} {slot : Slot}

/-- **No slot beside the kernel's is free.** A process that has ended holds its slot until it is
cleared away. -/
def Full (table : ProcessTable) : Prop :=
  ∀ slot, slot ≠ ownSlot → (table.process slot).state ≠ .free

/-- **The lowest free slot** beside the kernel's. -/
structure LowestFree (table : ProcessTable) (slot : Slot) : Prop where
  user : slot ≠ ownSlot
  free : (table.process slot).state = .free
  below : ∀ other < slot, other ≠ ownSlot → (table.process other).state ≠ .free

theorem freeSlot?_eq_none_iff : table.freeSlot? = none ↔ table.Full := by
  simp [freeSlot?, slotOrder, Full, ProcessEntry.isFree]

theorem lowestFree_of_freeSlot? (found : table.freeSlot? = some slot) : table.LowestFree slot := by
  obtain ⟨user, free⟩ := free_of_freeSlot? found
  refine ⟨user, free, fun other less apart taken => ?_⟩
  obtain ⟨_, ahead, behind, order, passed⟩ := List.find?_eq_some_iff_append.mp found
  have sorted : (ahead ++ slot :: behind).Pairwise (· < ·) := order ▸ List.pairwise_lt_finRange _
  have listed : other ∈ ahead ++ slot :: behind := order ▸ List.mem_finRange other
  -- what stands from the slot on is not below it
  rcases List.mem_append.mp listed with early | late
  · have skipped := passed other early
    simp [apart, ProcessEntry.isFree, taken] at skipped
  · have later := (List.pairwise_append.mp sorted).2.1
    rcases List.mem_cons.mp late with rfl | further
    · exact absurd less (Fin.lt_irrefl _)
    · exact absurd less (Fin.lt_asymm (List.rel_of_pairwise_cons later further))

end ProcessTable

/-! ### The stack of a new process -/

namespace Heap

variable {heap after : Heap} {block : Block} {blocks later front back : List Block}
  {wanted size : Nat}

/-- **One live block was added**, for an owner that asked for `size` bytes. -/
structure Added (before : Heap) (blocks : List Block) (block : Block) (size : Nat) (after : Heap)
    (later : List Block) : Prop where
  listed : (after.blocks : Answer HeapRefusal (List Block)) = .ok later
  live : ∃ ahead behind, liveBlocks blocks = ahead ++ behind ∧
    liveBlocks later = ahead ++ block :: behind
  requested : block.requested = size
  holds : size ≤ block.size
  used : after.used = before.used + block.span
  free : after.free + block.span = before.free

theorem HandedOut.added (out : heap.HandedOut front block back wanted size after)
    (free : block.isFree = true) (within : size ≤ wanted) (fits : wanted ≤ block.size) :
    heap.Added (front ++ block :: back) (block.handed wanted size) size after
      (front ++ block.carve wanted size ++ back) where
  listed := blocks_eq out.tiled
  live := by
    refine ⟨liveBlocks front, liveBlocks back, ?_, ?_⟩
    · rw [liveBlocks_append, liveBlocks_cons_free free]
    · rw [liveBlocks_append, liveBlocks_append, liveBlocks_carve, List.append_assoc,
        List.singleton_append]
  requested := block.requested_handed wanted size
  holds := within.trans (Block.size_handed size fits).1
  used := out.used
  free := out.free

/-- **A block that was lent**: the bytes behind its handle lie in the arena, it is one live block
more, and a release brings back the list of before. -/
structure Lent (before : Heap) (blocks : List Block) (size : Nat) (handle : Handle)
    (after : Heap) : Prop where
  below : headerBytes ≤ handle.offset
  inside : handle.offset + size ≤ after.arena.size
  added : ∃ block later, block.payload = handle.offset ∧ before.Added blocks block size after later
  undone : ∃ again, release handle after = ⟨.ok (), again, []⟩ ∧ again.Regular blocks

/-- Where there is room an allocation lends a block, unless the count of allocations is full. -/
theorem Regular.lent (regular : heap.Regular blocks) (positive : size ≠ 0)
    (within : size ≤ roomAmong blocks)
    (going : heap.allocations + 1 < longLimit ∨ (allocate size heap).result.Returns) :
    heap.allocations + 1 < longLimit ∧ ∃ handle after,
      allocate size heap = ⟨.ok handle, after, []⟩ ∧ heap.Lent blocks size handle after := by
  obtain ⟨front, block, back, after, rfl, chosen, out, run⟩ :=
    regular.allocate_fits positive within going
  obtain ⟨_, free, fits⟩ := bestFitAmong_mem chosen
  have regular_after := out.regular regular free positive fits
  obtain ⟨ahead, behind, again, shape, back_again, release_run⟩ :=
    regular_after.released (out.allocations ▸ out.countable) (out.located regular)
  refine ⟨out.countable, ⟨block.payload⟩, after, run, Nat.le_add_left _ _, out.inside fits,
    ⟨_, _, block.payload_handed _ _, out.added free (le_roundUp size) fits⟩, again, release_run, ?_⟩
  exact out.undone regular free shape back_again (shape ▸ regular_after)

end Heap

/-! ### One creation -/

namespace Core

open ProcessTable

variable {core after : Core} {blocks : List Block} {slot : Slot} {name : String} {entry now : Nat}
  {priority : Priority}

/-- **What a creation makes of the core**: a process in the lowest free slot, ready to run at
`entry` with its stack pointer one word below the top of its stack. All else in the table stays. -/
structure Created (before : Core) (name : String) (entry : Nat) (priority : Priority) (now : Nat)
    (slot : Slot) (stack : Stack) (after : Core) : Prop where
  lowest : before.processes.LowestFree slot
  process : after.processes.process slot =
    { pid := before.processes.nextNumber, name := Name.ofString name, state := .ready, priority
      context :=
        { esp := stack.base + stack.size - 4, ebp := stack.base + stack.size - 4, eip := entry
          eflags := 0x202 }
      stack := some stack, parent := before.processes.running.pid, since := now, ticksRun := 0
      entry }
  others : ∀ other, other ≠ slot → after.processes.process other = before.processes.process other
  current : after.processes.current = before.processes.current
  size : stack.size = before.processes.stackBytes
  base : stack.base = after.heap.address stack.handle

/-- The registers a new process starts from, its stack ending at `top`. -/
def startingContext (entry top : Nat) : Context :=
  { esp := top - 4, ebp := top - 4, eip := entry, eflags := 0x202 }

/-- The registers of a new process whose stack is behind a block's header. -/
theorem registers_eq {ε : Type} (entry : Nat) (stack : Stack) (deep : 4 ≤ stack.base + stack.size)
    (within : stack.base + stack.size < longLimit) :
    (stack.top >>= Context.fresh entry : Answer ε Context) =
      .ok (startingContext entry (stack.base + stack.size)) := by
  rw [Stack.top, Checked.add_eq_ok within]
  show Context.fresh entry (stack.base + stack.size) = _
  rw [Context.fresh, Checked.sub_eq_ok deep]
  rfl

theorem eq_of_top {ε : Type} {stack : Stack} {top : Nat}
    (topped : (stack.top : Answer ε Nat) = .ok top) : top = stack.base + stack.size := by
  unfold Stack.top Checked.add at topped
  split at topped
  · exact (Except.ok.inj topped).symm
  · cases topped

theorem eq_of_fresh {ε : Type} {entry top : Nat} {context : Context}
    (fresh : (Context.fresh entry top : Answer ε Context) = .ok context) :
    4 ≤ top ∧ context = startingContext entry top := by
  unfold Context.fresh Checked.sub at fresh
  split at fresh
  · rename_i deep
    exact ⟨deep, (Except.ok.inj fresh).symm⟩
  · cases fresh

section Outcomes

variable {heap again : Heap} {handle : Handle} {stack : Stack} {process : ProcessEntry}

theorem created_recruit (name : String) (entry : Nat) (priority : Priority) (now : Nat)
    (heap : Heap) (handle : Handle) (found : core.processes.freeSlot? = some slot) :
    core.Created name entry priority now slot
      ⟨handle, heap.address handle, core.processes.stackBytes⟩
      ⟨heap, (numbered core.processes).put slot (recruit core.processes name entry priority now
        ⟨handle, heap.address handle, core.processes.stackBytes⟩
        (startingContext entry (heap.address handle + core.processes.stackBytes)))⟩ where
  lowest := lowestFree_of_freeSlot? found
  process := process_put_same _ _ _
  others _ apart := process_put_other apart
  current := rfl
  size := rfl
  base := rfl

/-- **A creation that answers** gave the lowest free slot to the new process, with what the heap
handed out for its stack. -/
theorem created_of_spawn {pid : Nat}
    (answers : (spawn name entry priority now core).result = .ok pid) :
    pid = core.processes.nextNumber ∧ ∃ slot handle heap effects process,
      core.processes.freeSlot? = some slot ∧
      Heap.allocate core.processes.stackBytes core.heap = ⟨.ok handle, heap, effects⟩ ∧
      4 ≤ heap.address handle + core.processes.stackBytes ∧
      (spawn name entry priority now core).state =
        ⟨heap, (numbered core.processes).put slot process⟩ ∧
      core.Created name entry priority now slot
        ⟨handle, heap.address handle, core.processes.stackBytes⟩
        ⟨heap, (numbered core.processes).put slot process⟩ := by
  rcases spawn_cases name entry priority now (answers ▸ Answer.returns_ok pid) with
    ⟨_, run⟩ | ⟨_, _, _, _, _, _, _, run⟩ |
    ⟨slot, handle, heap, effects, top, context, found, _, served, topped, fresh, run⟩
  · rw [run] at answers
    cases answers
  · rw [run] at answers
    cases answers
  · obtain rfl := eq_of_top topped
    obtain ⟨deep, rfl⟩ := eq_of_fresh fresh
    rw [run] at answers ⊢
    exact ⟨(Except.ok.inj answers).symm, slot, handle, heap, effects, _, found, served, deep, rfl,
      created_recruit name entry priority now heap handle found⟩

/-- **A creation with a slot and a stack.** -/
theorem spawn_lent (name : String) (entry : Nat) (priority : Priority) (now : Nat)
    (found : core.processes.freeSlot? = some slot)
    (small : core.processes.nextNumber + 1 < wordLimit)
    (run : Heap.allocate core.processes.stackBytes core.heap = ⟨.ok handle, heap, []⟩)
    (lent : core.heap.Lent blocks core.processes.stackBytes handle heap) :
    ∃ process notices, spawn name entry priority now core =
        ⟨.ok core.processes.nextNumber, ⟨heap, (numbered core.processes).put slot process⟩,
          notices⟩ ∧
      core.Created name entry priority now slot
        ⟨handle, heap.address handle, core.processes.stackBytes⟩
        ⟨heap, (numbered core.processes).put slot process⟩ := by
  have deep : 4 ≤ heap.address handle + core.processes.stackBytes := by
    have below := lent.below
    rw [headerBytes] at below
    unfold Heap.address
    omega
  have within : heap.address handle + core.processes.stackBytes < longLimit := by
    have inside := lent.inside
    have addressable := heap.arena.addressable
    show heap.arena.base + handle.offset + core.processes.stackBytes < longLimit
    change handle.offset + core.processes.stackBytes ≤ heap.arena.bytes.size at inside
    omega
  have registers := registers_eq (ε := ProcessRefusal) entry
    ⟨handle, heap.address handle, core.processes.stackBytes⟩ deep within
  rw [spawn_served name entry priority now found small run, registers]
  exact ⟨_, _, rfl, created_recruit name entry priority now heap handle found⟩

/-- A new process cleared away leaves the table as it was, but for the number it had. -/
theorem cleared_enlisted (consistent : core.processes.Consistent)
    (found : core.processes.freeSlot? = some slot) (process : ProcessEntry) :
    Core.cleared ((numbered core.processes).put slot process) slot =
      numbered core.processes := by
  have free := (free_of_freeSlot? found).2
  have waiting : slot ≠ ((numbered core.processes).put slot process).current := by
    intro current
    rw [show slot = core.processes.current from current] at free
    exact consistent.seated_current.1 free
  rw [Core.cleared, if_neg waiting, put_put, ← consistent.vacant slot free]
  exact (numbered core.processes).put_self slot

/-- **A process just created can be killed**, and its slot is as it was. -/
theorem kill_created (consistent : core.processes.Consistent)
    (found : core.processes.freeSlot? = some slot)
    (created : core.Created name entry priority now slot stack
      ⟨heap, (numbered core.processes).put slot process⟩)
    (released : Heap.release stack.handle heap = ⟨.ok (), again, []⟩) :
    ∃ notices, kill core.processes.nextNumber
        ⟨heap, (numbered core.processes).put slot process⟩ =
      ⟨.ok (), ⟨again, numbered core.processes⟩, notices⟩ := by
  have here := created.process
  rw [process_put_same] at here
  have enlisted : ((numbered core.processes).put slot process).Consistent :=
    consistent.enlist found (by rw [here]) (by rw [here])
  have seated : ((numbered core.processes).put slot process).Seated core.processes.nextNumber
      slot := by
    rw [seated_put, if_pos rfl, here]
    exact ⟨nofun, rfl⟩
  have positive : core.processes.nextNumber ≠ 0 := by
    have := consistent.positive
    omega
  have returned : StackReturned heap
      (((numbered core.processes).put slot process).process slot).pid
      (((numbered core.processes).put slot process).process slot).stack again [] := by
    rw [process_put_same, here]
    exact .released released
  have found_again : ((numbered core.processes).put slot process).slotWith?
      core.processes.nextNumber = some slot := enlisted.slotWith?_iff.mpr seated
  have run : kill core.processes.nextNumber
      ⟨heap, (numbered core.processes).put slot process⟩ = _ :=
    kill_found positive found_again returned
  rw [cleared_enlisted consistent found] at run
  exact ⟨_, run⟩

/-- **A creation with a slot but no stack.** -/
theorem spawn_short (name : String) (entry : Nat) (priority : Priority) (now : Nat)
    (regular : core.heap.Regular blocks)
    (found : core.processes.freeSlot? = some slot)
    (small : core.processes.nextNumber + 1 < wordLimit)
    (short : core.processes.stackBytes = 0 ∨ Heap.roomAmong blocks < core.processes.stackBytes) :
    ∃ notices, spawn name entry priority now core =
      ⟨.error (.refused .outOfMemory), core, notices⟩ := by
  have refused : ∃ cause notices, Heap.allocate core.processes.stackBytes core.heap =
      ⟨.error (.refused cause), core.heap, notices⟩ := by
    rcases short with zero | short
    · exact ⟨_, _, zero ▸ Heap.allocate_zero core.heap⟩
    · obtain ⟨notices, run⟩ := regular.allocate_short (Nat.ne_zero_of_lt short) short
      exact ⟨_, notices, run⟩
  obtain ⟨cause, notices, run⟩ := refused
  exact ⟨notices, spawn_unserved name entry priority now found small run⟩

/-- A creation that comes to its end asked the heap for something that did. -/
theorem allocate_returns (found : core.processes.freeSlot? = some slot)
    (small : core.processes.nextNumber + 1 < wordLimit)
    (returns : (spawn name entry priority now core).result.Returns) :
    (Heap.allocate core.processes.stackBytes core.heap).result.Returns := by
  intro cause stopped
  cases outcome : Heap.allocate core.processes.stackBytes core.heap with
  | mk result heap effects =>
    rw [outcome] at stopped
    obtain rfl : result = .error (.aborted cause) := stopped
    rw [spawn_unserved name entry priority now found small outcome] at returns
    exact returns cause rfl

/-- **A creation with room for its stack**, and the kill that undoes it. -/
theorem spawn_stacked (name : String) (entry : Nat) (priority : Priority) (now : Nat)
    (regular : core.heap.Regular blocks) (consistent : core.processes.Consistent)
    (found : core.processes.freeSlot? = some slot)
    (small : core.processes.nextNumber + 1 < wordLimit) (positive : core.processes.stackBytes ≠ 0)
    (within : core.processes.stackBytes ≤ Heap.roomAmong blocks)
    (going : core.heap.allocations + 1 < longLimit ∨
      (spawn name entry priority now core).result.Returns) :
    core.heap.allocations + 1 < longLimit ∧ ∃ stack after notices,
      spawn name entry priority now core = ⟨.ok core.processes.nextNumber, after, notices⟩ ∧
      core.Created name entry priority now slot stack after ∧
      (∃ block later, block.payload = stack.handle.offset ∧
        core.heap.Added blocks block core.processes.stackBytes after.heap later) ∧
      ∃ again more, kill core.processes.nextNumber after =
          ⟨.ok (), ⟨again, numbered core.processes⟩, more⟩ ∧
        again.Regular blocks := by
  obtain ⟨countable, handle, heap, run, lent⟩ :=
    regular.lent positive within (going.imp_right (allocate_returns found small))
  obtain ⟨process, notices, spawned, created⟩ :=
    spawn_lent name entry priority now found small run lent
  obtain ⟨again, released, regular_again⟩ := lent.undone
  obtain ⟨more, killed⟩ := kill_created consistent found created released
  exact ⟨countable, _, _, notices, spawned, created, lent.added, again, more, killed,
    regular_again⟩

end Outcomes

/-- **A creation is exact.** With any heap and any process table that are met, and numbers left to
give, a creation is refused for want of a slot where no slot is free, and otherwise for want of
memory where the stack asked for is empty or exceeds the largest room; the core is then as it was.
In all other cases it answers the next number, and the lowest free slot holds the new process, whose
stack is the one live block that was added. A kill of that number then puts every slot, the blocks
and the counts of bytes back. The kernel stops instead where the count of allocations is full. -/
theorem creation_exact {ledger : Heap.Ledger} {answer : Answer ProcessRefusal Nat}
    {notices : List Effect} (heap_met : core.heap.Reached ledger) (met : core.processes.Reached)
    (numbers : core.processes.nextNumber + 1 < wordLimit)
    (asked : spawn name entry priority now core = ⟨answer, after, notices⟩) :
    ∃ blocks room, (core.heap.blocks : Answer HeapRefusal (List Block)) = .ok blocks ∧
      (core.heap.largestRoom : Answer HeapRefusal Nat) = .ok room ∧
      (answer = .error (.refused .noFreeSlot) ↔ core.processes.Full) ∧
      (answer = .error (.refused .outOfMemory) ↔ ¬ core.processes.Full ∧
        (core.processes.stackBytes = 0 ∨ room < core.processes.stackBytes)) ∧
      (core.processes.Full ∨ core.processes.stackBytes = 0 ∨ room < core.processes.stackBytes →
        after = core) ∧
      (¬ core.processes.Full → core.processes.stackBytes ≠ 0 →
        core.processes.stackBytes ≤ room →
        (answer.Returns ↔ core.heap.allocations + 1 < longLimit) ∧
        (answer.Returns → answer = .ok core.processes.nextNumber ∧
          (∃ slot stack block later, core.Created name entry priority now slot stack after ∧
            block.payload = stack.handle.offset ∧
            core.heap.Added blocks block core.processes.stackBytes after.heap later) ∧
          ∃ again more, kill core.processes.nextNumber after = ⟨.ok (), ⟨again,
              { core.processes with nextNumber := core.processes.nextNumber + 1 }⟩, more⟩ ∧
            (again.blocks : Answer HeapRefusal (List Block)) = .ok blocks ∧
            again.used = core.heap.used ∧ again.free = core.heap.free)) := by
  obtain ⟨blocks, honours⟩ := heap_met.honours
  have regular := honours.toRegular
  refine ⟨blocks, _, Heap.blocks_eq regular.tiled, Heap.largestRoom_eq regular.tiled, ?_⟩
  cases found : core.processes.freeSlot? with
  | none =>
    have full := freeSlot?_eq_none_iff.mp found
    rw [spawn_full name entry priority now (Or.inl found)] at asked
    cases asked
    exact ⟨iff_of_true rfl full, iff_of_false nofun fun both => both.1 full, fun _ => rfl,
      fun not_full => absurd full not_full⟩
  | some slot =>
    have not_full : ¬ core.processes.Full := fun full => by
      rw [freeSlot?_eq_none_iff.mpr full] at found
      cases found
    by_cases short : core.processes.stackBytes = 0 ∨
        Heap.roomAmong blocks < core.processes.stackBytes
    · obtain ⟨_, run⟩ := spawn_short name entry priority now regular found numbers short
      rw [run] at asked
      cases asked
      exact ⟨iff_of_false nofun not_full, iff_of_true rfl ⟨not_full, short⟩, fun _ => rfl,
        fun _ positive within => absurd short (not_or.mpr ⟨positive, Nat.not_lt.mpr within⟩)⟩
    · obtain ⟨positive, large⟩ := not_or.mp short
      have served := spawn_stacked name entry priority now regular met.consistent found numbers
        positive (Nat.le_of_not_lt large)
      rw [asked] at served
      have answered : answer.Returns → answer = .ok core.processes.nextNumber := by
        intro returns
        obtain ⟨_, _, _, _, run, _⟩ := served (Or.inr returns)
        exact congrArg Outcome.result run
      have unrefused : ∀ cause, answer ≠ .error (.refused cause) := by
        rintro cause rfl
        cases answered (Answer.returns_refused cause)
      refine ⟨iff_of_false (unrefused _) not_full,
        iff_of_false (unrefused _) fun both => short both.2,
        fun either => absurd either (not_or.mpr ⟨not_full, short⟩),
        fun _ _ _ => ⟨⟨fun returns => (served (Or.inr returns)).1, fun countable => ?_⟩,
          fun returns => ⟨answered returns, ?_⟩⟩⟩
      · obtain ⟨_, _, _, _, run, _⟩ := served (Or.inl countable)
        cases run
        exact Answer.returns_ok _
      · obtain ⟨_, stack, _, _, run, created, ⟨block, later, payload, added⟩, again, more, killed,
          regular_again⟩ := served (Or.inr returns)
        cases run
        refine ⟨⟨slot, stack, block, later, created, payload, added⟩, again, more, killed,
          Heap.blocks_eq regular_again.tiled, ?_, ?_⟩
        · rw [regular_again.used, regular.used]
        · rw [regular_again.free, regular.free]

/-- A table with one process beside the kernel's, and a heap that lent nothing yet. -/
def sparseCore : Core := ⟨Heap.smallHeap, smallCore.processes⟩

/-- A second process takes the second slot, and a kill takes it away again. -/
theorem creation_exact_sparseCore :
    (spawn "next" 128 .low 7 sparseCore).result = .ok 2 ∧
    (∃ slot stack, sparseCore.Created "next" 128 .low 7 slot stack
      (spawn "next" 128 .low 7 sparseCore).state) ∧
    ∃ again more, kill 2 (spawn "next" 128 .low 7 sparseCore).state =
        ⟨.ok (), ⟨again, { sparseCore.processes with nextNumber := 3 }⟩, more⟩ ∧
      again.used = 0 := by
  have next : sparseCore.processes.nextNumber = 2 := by
    decide +kernel
  have bytes : sparseCore.processes.stackBytes = 16 := by
    decide +kernel
  have unused : (sparseCore.processes.process 2).state = .free := by
    decide +kernel
  have widest : (sparseCore.heap.largestRoom : Answer HeapRefusal Nat) = .ok 48 := by
    decide +kernel
  have met : sparseCore.heap.Reached .empty := .fresh Heap.create_smallRegion
  have numbers : sparseCore.processes.nextNumber + 1 < wordLimit := by
    rw [next]
    decide
  obtain ⟨blocks, room, _, has_room, _, _, _, otherwise⟩ :=
    creation_exact met reached_smallCore numbers (rfl : spawn "next" 128 .low 7 sparseCore = _)
  obtain rfl := Except.ok.inj (has_room.symm.trans widest)
  obtain ⟨returns, serves⟩ := otherwise (fun full => full 2 (by decide) unused)
    (by rw [bytes]; decide) (by rw [bytes]; decide)
  obtain ⟨answers, ⟨slot, stack, _, _, created, _⟩, again, more, killed, _, used, _⟩ :=
    serves (returns.mpr (by decide +kernel))
  rw [next] at answers killed
  exact ⟨answers, ⟨slot, stack, created⟩, again, more, killed, used⟩

end Core

end MiniKernel
