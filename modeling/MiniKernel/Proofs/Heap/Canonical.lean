/-
**The live blocks decide all the others.**

No two free blocks are neighbours, so each of them fills a whole gap between live ones. The list is
known from its live blocks, however they came to be those.

* `Orderly.unique` — **two lists of one stretch with the same live blocks are the same**, and
  `Heap.Regular.unique` says so of two heaps.
* `Heap.Cleared` — a heap from which the blocks behind some handles were taken back.
  `Heap.Regular.cleared`: live handles are taken back one after another without a refusal, and
  `Heap.Cleared.twins`: in whatever order, the same heap comes of it but for its payloads.
* `Heap.release_order` — **the order of releases does not matter.**
* `Heap.round_trip` — **a block that is taken back at once leaves everything as it was**, and the
  same block answers the same request again.
-/

import MiniKernel.Proofs.Heap.Independence
import MiniKernel.Proofs.Heap.Releasing

namespace MiniKernel

-- A written header is known by its lemmas only.
seal Arena.setHeader

/-! ### Lists with the same live blocks -/

/-- What a block is, without the link behind it: where it stands, the bytes of its payload, and the
bytes its owner asked for. -/
def Block.entry (block : Block) : Nat × Nat × Nat := (block.offset, block.size, block.requested)

/-- **A stretch cut as a heap cuts its arena**: tidy blocks, of which no two free ones are
neighbours. -/
structure Orderly (length start : Nat) (blocks : List Block) (stop : Nat) : Prop where
  tiles : Tiles length start blocks stop
  spaced : Spaced blocks
  tidy : ∀ block ∈ blocks, block.Tidy

section Orders

variable {length start stop : Nat} {block other : Block} {blocks others rest further : List Block}

/-- Two tidy blocks of an arena, both free or both live, are known by their entries. -/
theorem Block.eq_of_entry (linked : block.next = linkAt length block.stop)
    (linked_too : other.next = linkAt length other.stop) (tidy : block.Tidy)
    (tidy_too : other.Tidy) (alike : block.isFree = other.isFree)
    (same : block.entry = other.entry) : block = other := by
  obtain ⟨⟨size, next, flags, requested⟩, offset⟩ := block
  obtain ⟨⟨size_too, next_too, flags_too, requested_too⟩, offset_too⟩ := other
  obtain ⟨rfl, rfl, rfl⟩ : offset = offset_too ∧ size = size_too ∧ requested = requested_too := by
    simpa [Block.entry] using same
  obtain rfl : next = next_too := linked.trans linked_too.symm
  obtain rfl : flags = flags_too := by
    have bit : (flags % 2 == 1) = (flags_too % 2 == 1) := alike
    have flag := tidy.flags
    have flag_too := tidy_too.flags
    rw [Bool.eq_iff_iff, beq_iff_eq, beq_iff_eq] at bit
    dsimp only at flag flag_too
    omega
  rfl

/-- The live blocks behind the first one. -/
theorem mem_liveBlocks_tail (once : (block :: rest).Nodup) :
    other ∈ liveBlocks rest ↔ other ∈ liveBlocks (block :: rest) ∧ other ≠ block := by
  have absent := (List.nodup_cons.mp once).1
  simp only [mem_liveBlocks, List.mem_cons]
  constructor
  · rintro ⟨inside, live⟩
    exact ⟨⟨Or.inr inside, live⟩, fun same => absent (same ▸ inside)⟩
  · rintro ⟨⟨inside, live⟩, apart⟩
    exact ⟨inside.resolve_left apart, live⟩

namespace Orderly

theorem tail (orderly : Orderly length start (block :: rest) stop) :
    Orderly length block.stop rest stop :=
  ⟨orderly.tiles.2.2, (List.isChain_cons.mp orderly.spaced).2, fun member inside =>
    orderly.tidy member (List.mem_cons_of_mem _ inside)⟩

theorem linked (orderly : Orderly length start blocks stop) (member : block ∈ blocks) :
    block.next = linkAt length block.stop := by
  obtain ⟨front, back, rfl⟩ := List.append_of_mem member
  exact orderly.tiles.around.2.1

/-- A live block is known by its entry in whatever list of the arena it stands. -/
theorem mem_of_entry (orderly : Orderly length start blocks stop)
    (orderly_too : Orderly length start others stop) (member : block ∈ liveBlocks blocks)
    (listed : block.entry ∈ (liveBlocks others).map Block.entry) : block ∈ liveBlocks others := by
  obtain ⟨inside, live⟩ := mem_liveBlocks.mp member
  obtain ⟨other, owned, same⟩ := List.mem_map.mp listed
  obtain ⟨inside_too, live_too⟩ := mem_liveBlocks.mp owned
  have equal : block = other :=
    Block.eq_of_entry (orderly.linked inside) (orderly_too.linked inside_too)
      (orderly.tidy block inside) (orderly_too.tidy other inside_too) (live.trans live_too.symm)
      same.symm
  rwa [equal]

/-- What stands behind a free block that is not the last one is live, so a free block in the same
place ends no later if its list has that block too. -/
theorem stop_le (tiles : Tiles length start (block :: rest) stop) (free : block.isFree = true)
    (orderly_too : Orderly length start (other :: further) stop) (free_too : other.isFree = true)
    (known : ∀ live ∈ liveBlocks (other :: further), live ∈ block :: rest) :
    block.stop ≤ other.stop := by
  obtain ⟨_, _, follow⟩ := tiles
  obtain ⟨_, _, follow_too⟩ := orderly_too.tiles
  cases further with
  | nil => exact follow_too ▸ follow.le
  | cons next further =>
    obtain ⟨follows, _⟩ := List.isChain_cons_cons.mp orderly_too.spaced
    have live := follows free_too
    rcases List.mem_cons.mp (known next (mem_liveBlocks.mpr ⟨by simp, live⟩)) with rfl | behind
    · rw [free] at live
      cases live
    · rw [← follow_too.1]
      exact (follow.bounds behind).1

/-- Two lists with the same live blocks open with the same block. -/
theorem head_eq (orderly : Orderly length start (block :: rest) stop)
    (orderly_too : Orderly length start (other :: further) stop)
    (same : ∀ live, live ∈ liveBlocks (block :: rest) ↔ live ∈ liveBlocks (other :: further)) :
    block = other := by
  have here : block.offset = other.offset := orderly.tiles.1.trans orderly_too.tiles.1.symm
  -- a live one stands in both lists, and two free ones fill the same gap
  cases free : block.isFree with
  | false =>
    have inside := (same block).mp (mem_liveBlocks.mpr ⟨List.mem_cons_self, free⟩)
    exact orderly_too.tiles.eq_of_offset (mem_liveBlocks.mp inside).1 List.mem_cons_self here
  | true =>
    cases free_too : other.isFree with
    | false =>
      have inside := (same other).mpr (mem_liveBlocks.mpr ⟨List.mem_cons_self, free_too⟩)
      exact orderly.tiles.eq_of_offset List.mem_cons_self (mem_liveBlocks.mp inside).1 here
    | true =>
      have tidy := orderly.tidy block List.mem_cons_self
      have tidy_too := orderly_too.tidy other List.mem_cons_self
      have stops : block.stop = other.stop := le_antisymm
        (stop_le orderly.tiles free orderly_too free_too fun live member =>
          (mem_liveBlocks.mp ((same live).mpr member)).1)
        (stop_le orderly_too.tiles free_too orderly free fun live member =>
          (mem_liveBlocks.mp ((same live).mp member)).1)
      have size : block.size = other.size := by
        rw [block.stop_eq, other.stop_eq] at stops
        omega
      refine Block.eq_of_entry orderly.tiles.2.1 orderly_too.tiles.2.1 tidy tidy_too
        (free.trans free_too.symm) ?_
      rw [Block.entry, Block.entry, here, size, tidy.vacant free, tidy_too.vacant free_too]

/-- **Two lists of one stretch with the same live blocks are the same.** -/
theorem unique (orderly : Orderly length start blocks stop)
    (orderly_too : Orderly length start others stop)
    (same : ∀ live, live ∈ liveBlocks blocks ↔ live ∈ liveBlocks others) : blocks = others := by
  induction blocks generalizing start others with
  | nil =>
    cases others with
    | nil => rfl
    | cons other further =>
      have room := orderly_too.tiles.length_le
      rw [orderly.tiles, List.length_cons] at room
      omega
  | cons block rest ih =>
    cases others with
    | nil =>
      have room := orderly.tiles.length_le
      rw [orderly_too.tiles, List.length_cons] at room
      omega
    | cons other further =>
      obtain rfl := orderly.head_eq orderly_too same
      have tails := ih orderly.tail orderly_too.tail fun live => by
        rw [mem_liveBlocks_tail orderly.tiles.nodup, same live,
          ← mem_liveBlocks_tail orderly_too.tiles.nodup]
      rw [tails]

end Orderly

end Orders

namespace Heap

variable {heap other after twin : Heap} {blocks others later again : List Block} {block : Block}
  {handles permuted : List Handle} {history : List Exchange} {handle : Handle} {size : Nat}

theorem Regular.orderly (regular : heap.Regular blocks) :
    Orderly heap.total 0 blocks heap.total :=
  ⟨regular.tiled.tiles, regular.spaced, regular.tidy⟩

/-- **Two heaps of one length with the same live blocks have the same blocks.** -/
theorem Regular.unique (regular : heap.Regular blocks) (regular_too : other.Regular others)
    (total : other.total = heap.total)
    (same : ∀ live, live ∈ liveBlocks blocks ↔ live ∈ liveBlocks others) : blocks = others :=
  regular.orderly.unique (total ▸ regular_too.orderly) same

/-- Where no block is live there is one free block. -/
theorem Regular.eq_whole (regular : heap.Regular blocks)
    (vacant : ∀ live, live ∉ liveBlocks blocks) : blocks = [heap.arena.whole] := by
  have whole := regular_whole heap.arena
  have none_live : liveBlocks [heap.arena.whole] = [] :=
    liveBlocks_cons_free (show heap.arena.whole.isFree = true from rfl) []
  refine regular.unique whole (Arena.size_setHeader ..) fun live => ?_
  rw [none_live]
  exact iff_of_false (vacant live) List.not_mem_nil

/-! ### Releases one after another -/

/-- **`after` is `before` with the blocks behind these handles taken back.** -/
structure Cleared (before : Heap) (blocks : List Block) (handles : List Handle) (after : Heap)
    (later : List Block) : Prop where
  regular : after.Regular later
  live : ∀ block, block ∈ liveBlocks later ↔
    block ∈ liveBlocks blocks ∧ Handle.mk block.payload ∉ handles
  base : after.base = before.base
  total : after.total = before.total
  allocations : after.allocations = before.allocations
  releases : after.releases = before.releases + handles.length

/-- One block taken back, and then those behind the other handles. -/
theorem TakenBack.cleared {front back : List Block}
    (back_again : heap.TakenBack front block back other)
    (regular : heap.Regular (front ++ block :: back))
    (cleared : Cleared other (merged (front ++ block.vacated :: back)) handles after later) :
    Cleared heap (front ++ block :: back) (⟨block.payload⟩ :: handles) after later := by
  refine ⟨cleared.regular, fun member => ?_, cleared.base.trans back_again.changed.base,
    cleared.total.trans back_again.changed.size,
    cleared.allocations.trans back_again.allocations, ?_⟩
  · rw [cleared.live, mem_liveBlocks_vacated regular.tiled.tiles, List.mem_cons, not_or,
      Handle.mk.injEq, and_assoc]
  · rw [cleared.releases, back_again.releases, List.length_cons]
    omega

/-- **Live handles are taken back one after another**, and none is refused. -/
theorem Regular.cleared (regular : heap.Regular blocks) (counted : heap.allocations < longLimit)
    (distinct : handles.Nodup)
    (located : ∀ handle ∈ handles, ∃ block, heap.locate handle = .ok block) :
    ∃ after later, handles.forM release heap = ⟨.ok ⟨⟩, after, []⟩ ∧
      Cleared heap blocks handles after later := by
  induction handles generalizing heap blocks with
  | nil =>
    refine ⟨heap, blocks, rfl, regular, fun block => ?_, rfl, rfl, rfl, rfl⟩
    exact (and_iff_left List.not_mem_nil).symm
  | cons handle rest ih =>
    obtain ⟨block, here⟩ := located handle List.mem_cons_self
    obtain ⟨absent, rest_distinct⟩ := List.nodup_cons.mp distinct
    obtain ⟨member, live, _⟩ := mem_of_locate regular.tiled here
    obtain ⟨front, back, middle, rfl, back_again, run⟩ := regular.released counted here
    obtain rfl := handle_eq regular.tiled here
    -- the other handles lead where they led before
    have still : ∀ other ∈ rest, ∃ block, middle.locate other = .ok block := by
      intro other inside
      obtain ⟨found, known⟩ := located other (List.mem_cons_of_mem _ inside)
      have apart : other ≠ ⟨block.payload⟩ := fun same => absent (same ▸ inside)
      have alike := back_again.alike regular.toSound live (offset_ne apart)
      exact ⟨found, alike.located.trans known⟩
    obtain ⟨after, later, runs, cleared⟩ := ih (back_again.regular regular live)
      (back_again.allocations ▸ counted) rest_distinct still
    exact ⟨after, later, Action.bind_steps run runs, back_again.cleared regular cleared⟩

/-- **In whatever order blocks are taken back**, the same blocks and counters come of it. -/
theorem Cleared.twins (cleared : Cleared heap blocks handles after later)
    (cleared_too : Cleared heap blocks permuted twin again) (perm : permuted.Perm handles) :
    after.Twins twin later := by
  have same : later = again := by
    refine cleared.regular.unique cleared_too.regular
      (cleared_too.total.trans cleared.total.symm) fun live => ?_
    rw [cleared.live, cleared_too.live, perm.mem_iff]
  subst same
  refine ⟨cleared.regular.toSound, cleared_too.regular.toSound,
    cleared_too.base.trans cleared.base.symm,
    cleared_too.allocations.trans cleared.allocations.symm, ?_⟩
  rw [cleared_too.releases, cleared.releases, perm.length_eq]

/-- In every run live handles are taken back one after another. -/
theorem Ran.cleared (ran : heap.Ran history) (regular : heap.Regular blocks)
    (distinct : handles.Nodup) (live : ∀ handle ∈ handles, Live history handle) :
    ∃ after later, handles.forM release heap = ⟨.ok ⟨⟩, after, []⟩ ∧
      Cleared heap blocks handles after later :=
  regular.cleared ran.counted distinct fun handle inside => ran.located_iff.mpr (live handle inside)

/-- **When all live handles are taken back** there is one free block. -/
theorem Cleared.eq_whole (cleared : Cleared heap blocks handles after later)
    (regular : heap.Regular blocks)
    (all : ∀ handle block, heap.locate handle = .ok block → handle ∈ handles) :
    later = [after.arena.whole] := by
  refine cleared.regular.eq_whole fun block member => ?_
  obtain ⟨owned, unnamed⟩ := (cleared.live block).mp member
  exact unnamed (all _ block (regular.locate_eq_ok_iff.mpr ⟨owned, rfl⟩))

/-- Two heaps of one length with the same entries among their live blocks have the same blocks. -/
theorem Regular.unique_of_entries (regular : heap.Regular blocks)
    (regular_too : other.Regular others) (total : other.total = heap.total)
    (same : ∀ entry, entry ∈ (liveBlocks blocks).map Block.entry ↔
      entry ∈ (liveBlocks others).map Block.entry) : blocks = others := by
  have orderly_too : Orderly heap.total 0 others heap.total := total ▸ regular_too.orderly
  refine regular.orderly.unique orderly_too fun live => ⟨fun member => ?_, fun member => ?_⟩
  · exact regular.orderly.mem_of_entry orderly_too member
      ((same _).mp (List.mem_map_of_mem member))
  · exact orderly_too.mem_of_entry regular.orderly member
      ((same _).mpr (List.mem_map_of_mem member))

/-- **The order of releases does not matter.** In every run distinct live handles can be released
one after another in any order. The blocks, the counters, the largest room and all that is told in
any run from there on are the same for every order, and once all live handles are released there is
one free block with the whole arena. In general the entries of the live blocks decide the list: two
heaps of one length that agree on them have the same blocks. -/
theorem release_order (ran : heap.Ran history) :
    (∀ handles permuted : List Handle, handles.Nodup → (∀ handle ∈ handles, Live history handle) →
      permuted.Perm handles → ∃ after twin blocks room,
        handles.forM release heap = ⟨.ok ⟨⟩, after, []⟩ ∧
        permuted.forM release heap = ⟨.ok ⟨⟩, twin, []⟩ ∧
        (after.blocks : Answer HeapRefusal (List Block)) = .ok blocks ∧
        (twin.blocks : Answer HeapRefusal (List Block)) = .ok blocks ∧
        (after.largestRoom : Answer HeapRefusal Nat) = .ok room ∧
        (twin.largestRoom : Answer HeapRefusal Nat) = .ok room ∧
        twin.used = after.used ∧ twin.free = after.free ∧ twin.releases = after.releases ∧
        (∀ size, (allocate size twin).result = (allocate size after).result) ∧
        ∀ requests, twin.transcript requests = after.transcript requests) ∧
    (∀ handles : List Handle, handles.Nodup → (∀ handle, handle ∈ handles ↔ Live history handle) →
      ∃ after whole, handles.forM release heap = ⟨.ok ⟨⟩, after, []⟩ ∧
        (after.blocks : Answer HeapRefusal (List Block)) = .ok [whole] ∧ whole.isFree = true ∧
        whole.offset = 0 ∧ whole.span = heap.total ∧ after.used = 0) ∧
    ∀ (other : Heap) (past : List Exchange), other.Ran past → other.total = heap.total →
      ∃ blocks others, (heap.blocks : Answer HeapRefusal (List Block)) = .ok blocks ∧
        (other.blocks : Answer HeapRefusal (List Block)) = .ok others ∧
        ((∀ entry, entry ∈ (liveBlocks blocks).map Block.entry ↔
          entry ∈ (liveBlocks others).map Block.entry) → others = blocks) := by
  obtain ⟨blocks, honours⟩ := ran.reached.honours
  have regular := honours.toRegular
  refine ⟨fun handles permuted distinct live perm => ?_, fun handles distinct live => ?_,
    fun other past ran_too total => ?_⟩
  · obtain ⟨after, later, run, cleared⟩ := ran.cleared regular distinct live
    obtain ⟨twin, again, run_too, cleared_too⟩ := ran.cleared regular
      (perm.nodup_iff.mpr distinct) fun handle inside => live handle (perm.mem_iff.mp inside)
    have twins := cleared.twins cleared_too perm
    exact ⟨after, twin, later, _, run, run_too, blocks_eq twins.sound.tiled,
      blocks_eq twins.other.tiled, largestRoom_eq twins.sound.tiled,
      largestRoom_eq twins.other.tiled, twins.used, twins.free, twins.releases,
      fun size => (twins.allocate_alike size).result, fun _ => twins.transcript_eq rfl⟩
  · obtain ⟨after, later, run, cleared⟩ := ran.cleared regular distinct fun handle inside =>
      (live handle).mp inside
    have whole := cleared.eq_whole regular fun handle block located =>
      (live handle).mpr (ran.located_iff.mp ⟨block, located⟩)
    have sound := cleared.regular.toSound
    rw [whole] at sound
    refine ⟨after, after.arena.whole, run, blocks_eq sound.tiled, rfl, rfl, ?_, ?_⟩
    · have span := sound.tiled.tiles.spanSum_eq
      rw [spanSum_cons, spanSum_nil, Nat.zero_add, Nat.add_zero] at span
      exact span.trans cleared.total
    · rw [sound.used, liveBlocks_cons_free (show after.arena.whole.isFree = true from rfl)]
      rfl
  · obtain ⟨others, honours_too⟩ := ran_too.reached.honours
    exact ⟨blocks, others, blocks_eq regular.tiled, blocks_eq honours_too.tiled, fun same =>
      (regular.unique_of_entries honours_too.toRegular total same).symm⟩

/-- Two blocks are given back in either order, and nothing is in use any more. -/
theorem release_order_pairedHeap :
    pairedHeap.Ran pairedHistory ∧ ∃ after twin whole,
      [Handle.mk 16, ⟨48⟩].forM release pairedHeap = ⟨.ok ⟨⟩, after, []⟩ ∧
      [Handle.mk 48, ⟨16⟩].forM release pairedHeap = ⟨.ok ⟨⟩, twin, []⟩ ∧
      (after.blocks : Answer HeapRefusal (List Block)) = .ok [whole] ∧
      (twin.blocks : Answer HeapRefusal (List Block)) = .ok [whole] ∧
      whole.span = pairedHeap.total ∧ after.used = 0 ∧ twin.used = 0 := by
  have distinct : [Handle.mk 16, ⟨48⟩].Nodup := by decide
  have live : ∀ handle, handle ∈ [Handle.mk 16, ⟨48⟩] ↔ Live pairedHistory handle := by
    simp [Live, pairedHistory, standing_cons, Exchange.Gives, Exchange.Takes, eq_comm, or_comm]
  obtain ⟨any, all, _⟩ := release_order ran_pairedHeap
  obtain ⟨after, whole, run, listed, _, _, span, unused⟩ := all _ distinct live
  obtain ⟨_, twin, blocks, _, run_one, run_two, listed_one, listed_two, _, _, same_used, _⟩ :=
    any [⟨16⟩, ⟨48⟩] [⟨48⟩, ⟨16⟩] distinct (fun handle => (live handle).mp) (.swap _ _ _)
  obtain rfl := congrArg Outcome.state (run.symm.trans run_one)
  obtain rfl := Except.ok.inj (listed.symm.trans listed_one)
  exact ⟨ran_pairedHeap, after, twin, whole, run, run_two, listed, listed_two, span, unused,
    same_used.trans unused⟩

/-! ### There and back -/

/-- **A block handed out and taken back at once leaves the list as it was**: its blocks that were
live are still there, and no others. -/
theorem HandedOut.undone {front back ahead behind : List Block} {wanted : Nat}
    (out : heap.HandedOut front block back wanted size after)
    (regular : heap.Regular (front ++ block :: back)) (free : block.isFree = true)
    (shape : front ++ block.carve wanted size ++ back =
      ahead ++ block.handed wanted size :: behind)
    (back_again : after.TakenBack ahead (block.handed wanted size) behind other)
    (regular_after : after.Regular (ahead ++ block.handed wanted size :: behind)) :
    other.Regular (front ++ block :: back) := by
  have regular_again := back_again.regular regular_after (Block.isFree_handed ..)
  have total : other.total = heap.total := back_again.changed.size.trans out.changed.size
  have same : front ++ block :: back =
      merged (ahead ++ (block.handed wanted size).vacated :: behind) := by
    refine regular.unique regular_again total fun live => ?_
    rw [mem_liveBlocks_vacated regular_after.tiled.tiles, ← shape, mem_liveBlocks_carve free,
      Block.payload_handed]
    constructor
    · exact fun member => ⟨Or.inl member, regular.tiled.tiles.payload_ne (by simp) free member⟩
    · rintro ⟨member | rfl, apart⟩
      · exact member
      · exact absurd (Block.payload_handed ..) apart
  rw [same]
  exact regular_again

/-- The block that is due answers, with the room it has once it is handed out. -/
theorem Regular.allocate_due (regular : heap.Regular blocks) (positive : size ≠ 0)
    (within : size ≤ roomAmong blocks) (due : bestFitAmong (roundUp size) blocks = some block)
    (going : heap.allocations + 1 < longLimit ∨ (allocate size heap).result.Returns) :
    heap.allocations + 1 < longLimit ∧ ∃ after,
      allocate size heap = ⟨.ok ⟨block.payload⟩, after, []⟩ ∧
      after.capacity ⟨block.payload⟩ = .ok (block.handed (roundUp size) size).size := by
  obtain ⟨front, found, back, after, rfl, chosen, out, run⟩ :=
    regular.allocate_fits positive within going
  obtain rfl := Option.some.inj (due.symm.trans chosen)
  exact ⟨out.countable, after, run, capacity_eq_of_locate (out.located regular)⟩

/-- **There and back.** In every run a block that was just handed out is taken back, and the blocks,
the counts of bytes and the largest room are as they were before. The same request is then answered
with the same handle and the same room behind it; the kernel stops instead where the count of
allocations is full. -/
theorem round_trip (ran : heap.Ran history) (given : (allocate size heap).result = .ok handle) :
    ∃ taken freed blocks room kept, allocate size heap = ⟨.ok handle, taken, []⟩ ∧
      taken.capacity handle = .ok kept ∧ release handle taken = ⟨.ok (), freed, []⟩ ∧
      (heap.blocks : Answer HeapRefusal (List Block)) = .ok blocks ∧
      (freed.blocks : Answer HeapRefusal (List Block)) = .ok blocks ∧
      (heap.largestRoom : Answer HeapRefusal Nat) = .ok room ∧
      (freed.largestRoom : Answer HeapRefusal Nat) = .ok room ∧
      freed.used = heap.used ∧ freed.free = heap.free ∧
      ((allocate size freed).result.Returns ↔ heap.allocations + 2 < longLimit) ∧
      (heap.allocations + 2 < longLimit →
        ∃ again, allocate size freed = ⟨.ok handle, again, []⟩ ∧
          again.capacity handle = .ok kept) := by
  obtain ⟨blocks, honours⟩ := ran.reached.honours
  have regular := honours.toRegular
  have returns : (allocate size heap).result.Returns := given.symm ▸ Answer.returns_ok handle
  obtain ⟨positive, within⟩ := regular.within_of_allocate given
  obtain ⟨front, block, back, taken, rfl, chosen, out, run⟩ :=
    regular.allocate_fits positive within (Or.inr returns)
  obtain ⟨_, free, fits⟩ := bestFitAmong_mem chosen
  obtain rfl : Handle.mk block.payload = handle := by
    rw [run] at given
    exact Except.ok.inj given
  have located := out.located regular
  have regular_taken := out.regular regular free positive fits
  obtain ⟨ahead, behind, freed, shape, back_again, release_run⟩ :=
    regular_taken.released (out.allocations ▸ out.countable) located
  have regular_freed := out.undone regular free shape back_again (shape ▸ regular_taken)
  -- the list is the one of before, so the search ends at the same block
  have counted : freed.allocations + 1 = heap.allocations + 2 := by
    rw [back_again.allocations, out.allocations]
  have further := regular_freed.allocate_due positive within chosen
  rw [counted] at further
  refine ⟨taken, freed, front ++ block :: back, _, _, run, capacity_eq_of_locate located,
    release_run, blocks_eq regular.tiled, blocks_eq regular_freed.tiled,
    largestRoom_eq regular.tiled, largestRoom_eq regular_freed.tiled, ?_, ?_,
    ⟨fun returns => (further (Or.inr returns)).1, fun countable => ?_⟩,
    fun countable => (further (Or.inl countable)).2⟩
  · rw [regular_freed.used, regular.used]
  · rw [regular_freed.free, regular.free]
  · obtain ⟨_, again, run_again, _⟩ := further (Or.inl countable)
    rw [run_again]
    exact Answer.returns_ok _

/-- A pit is filled, emptied and filled again. -/
theorem round_trip_pittedHeap :
    (allocate 10 pittedHeap).result = .ok ⟨16⟩ ∧
      ∃ taken freed again, allocate 10 pittedHeap = ⟨.ok ⟨16⟩, taken, []⟩ ∧
        release ⟨16⟩ taken = ⟨.ok (), freed, []⟩ ∧
        (freed.blocks : Answer HeapRefusal (List Block)) = .ok pittedBlocks ∧
        allocate 10 freed = ⟨.ok ⟨16⟩, again, []⟩ ∧
        again.capacity ⟨16⟩ = taken.capacity ⟨16⟩ := by
  have given : (allocate 10 pittedHeap).result = .ok ⟨16⟩ := by decide +kernel
  have countable : pittedHeap.allocations + 2 < longLimit := by decide +kernel
  obtain ⟨taken, freed, blocks, _, kept, run, has_room, back, listed, listed_too, _, _, _, _, _,
    further⟩ := round_trip ran_pittedHeap given
  obtain ⟨again, run_again, same_room⟩ := further countable
  obtain rfl := Except.ok.inj (blocks_pittedHeap.symm.trans listed)
  exact ⟨given, taken, freed, again, run, back, listed_too, run_again,
    same_room.trans has_room.symm⟩

end Heap

end MiniKernel
