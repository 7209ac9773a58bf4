/-
**The sweep takes any pattern of free and live blocks.**

The requests never leave two free neighbours behind, so after one release a run has three blocks at
most. The sweep itself relies on none of that: a run may have any length, and the flags of a block
may have any other bits set.

* `Block.StandsFor` — one block in the place of a run of free ones.
* `Collapses` — a list with each maximal run replaced by one block and the live blocks as they are.
  `collapses_merged`: this is what merging does to every list.
* `Heap.coalesceFrom_limit` — the sweep takes fewer steps than there are blocks.
* `Heap.Swept` — a heap after the sweep.
* `Heap.sweep_collapses` — **every tiled heap is swept to the end, and a second sweep changes
  nothing.**
-/

import Mathlib.Data.List.TakeWhile
import MiniKernel.Proofs.Heap.Releasing

namespace MiniKernel

-- A written header is known by its lemmas only.
seal Arena.setHeader

/-! ### Runs of free blocks, each replaced by one -/

/-- **The block `joined` stands for the run `first :: others`**: at the offset of the first block,
with its flags and what it says was asked for, and as long as all of them together. -/
structure Block.StandsFor (joined first : Block) (others : List Block) : Prop where
  offset : joined.offset = first.offset
  span : joined.span = spanSum (first :: others)
  flags : joined.flags = first.flags
  requested : joined.requested = first.requested

/-- **The second list is the first with one block for each maximal run of free blocks.** A live
block stays. A run starts where the list does or behind a live block or an earlier run, and ends
where the list does or before a live block. -/
inductive Collapses : List Block → List Block → Prop
  | nil : Collapses [] []
  | live {block : Block} {rest swept : List Block} (live : block.isFree = false)
      (later : Collapses rest swept) : Collapses (block :: rest) (block :: swept)
  | run {first joined : Block} {others back swept : List Block}
      (free : ∀ member ∈ first :: others, member.isFree = true)
      (closes : ∀ next ∈ back.head?, next.isFree = false)
      (stands : joined.StandsFor first others) (later : Collapses back swept) :
      Collapses (first :: (others ++ back)) (joined :: swept)

section Collapsing

variable {block : Block} {run rest back : List Block}

@[simp] theorem Block.flags_joined (block : Block) (run : List Block) :
    (block.joined run).flags = block.flags := by
  induction run generalizing block with
  | nil => rfl
  | cons follower rest ih => exact ih (block.absorb follower)

theorem Block.standsFor_joined (block : Block) (run : List Block) :
    (block.joined run).StandsFor block run :=
  ⟨block.offset_joined run, block.span_joined run, block.flags_joined run,
    block.requested_joined run⟩

/-- A block that is not merged with the one behind it is left to itself. -/
theorem mergeFrom_apart (apart : ∀ next ∈ rest.head?, (block.isFree && next.isFree) = false) :
    mergeFrom block rest = block :: merged rest := by
  cases rest with
  | nil => rfl
  | cons follower rest => exact mergeFrom_else (apart follower rfl)

theorem merged_cons_live (live : block.isFree = false) (rest : List Block) :
    merged (block :: rest) = block :: merged rest :=
  mergeFrom_apart fun next _ => by rw [live, Bool.false_and]

theorem merged_cons_run (free : ∀ member ∈ block :: run, member.isFree = true)
    (closes : ∀ next ∈ back.head?, next.isFree = false) :
    merged (block :: (run ++ back)) = block.joined run :: merged back := by
  obtain ⟨opens, others⟩ := List.forall_mem_cons.mp free
  refine (mergeFrom_run opens others back).trans (mergeFrom_apart fun next member => ?_)
  rw [closes next member, Bool.and_false]

/-- The free blocks a list starts with, up to the first live one. -/
theorem exists_run (blocks : List Block) : ∃ run back, blocks = run ++ back ∧
    (∀ member ∈ run, member.isFree = true) ∧ ∀ next ∈ back.head?, next.isFree = false := by
  refine ⟨blocks.takeWhile fun block => block.isFree, blocks.dropWhile fun block => block.isFree,
    List.takeWhile_append_dropWhile.symm, fun member inside => ?_, fun next member => ?_⟩
  · have free := List.mem_takeWhile_imp inside
    exact free
  · have stopped := List.head?_dropWhile_not (fun block : Block => block.isFree) blocks
    rw [Option.mem_def.mp member] at stopped
    simpa using stopped

/-- **Merging replaces each maximal run of free blocks by one block.** -/
theorem collapses_merged (blocks : List Block) : Collapses blocks (merged blocks) := by
  match blocks with
  | [] => exact .nil
  | block :: rest =>
    cases free : block.isFree with
    | false =>
      rw [merged_cons_live free]
      exact .live free (collapses_merged rest)
    | true =>
      obtain ⟨run, back, split, others, closes⟩ := exists_run rest
      have all_free : ∀ member ∈ block :: run, member.isFree = true :=
        List.forall_mem_cons.mpr ⟨free, others⟩
      -- what is left behind the run is shorter than the list
      have shorter : back.length ≤ rest.length := by
        rw [split, List.length_append]
        exact Nat.le_add_left _ _
      rw [split, merged_cons_run all_free closes]
      exact .run all_free closes (block.standsFor_joined run) (collapses_merged back)
termination_by blocks.length

theorem merged_spaced (blocks : List Block) : Spaced (merged blocks) := by
  cases blocks with
  | nil => exact List.isChain_nil
  | cons block rest => exact mergeFrom_spaced block rest

theorem spanSum_freeBlocks_merged (blocks : List Block) :
    spanSum (freeBlocks (merged blocks)) = spanSum (freeBlocks blocks) := by
  cases blocks with
  | nil => rfl
  | cons block rest => exact spanSum_freeBlocks_mergeFrom block rest

end Collapsing

/-! ### Live blocks and free bytes -/

/-- The payload of a live block holds no byte of a free one. -/
theorem Tiles.payload_outside {length start stop : Nat} {block : Block} {blocks : List Block}
    (tiles : Tiles length start blocks stop) (member : block ∈ blocks)
    (live : block.isFree = false) :
    ∀ step, step < block.size → block.payload + step ∉ freeRegion blocks := by
  rintro step inside ⟨other, among, free, low, high⟩
  have ends := block.stop_eq
  rw [Block.payload_eq] at low high
  rcases tiles.apart member among with rfl | before | after
  · rw [free] at live
    cases live
  · omega
  · omega

namespace Heap

variable {ε : Type} {heap : Heap} {block : Block} {blocks front rest : List Block} {limit : Nat}

/-! ### The steps of the sweep -/

/-- **The sweep takes no more steps than there are blocks to meet**, so more of them change
nothing. -/
theorem coalesceFrom_limit (tiled : heap.arena.Tiled (front ++ block :: rest))
    (room : rest.length < limit) :
    (coalesceFrom limit block.offset : Action Heap ε Unit) heap =
      coalesceFrom (rest.length + 1) block.offset heap := by
  induction rest generalizing heap front block limit with
  | nil =>
    obtain ⟨limit, rfl⟩ : ∃ less, limit = less + 1 := ⟨limit - 1, by omega⟩
    rw [coalesceFrom_last limit tiled, List.length_nil, coalesceFrom_last 0 tiled]
  | cons follower rest ih =>
    obtain ⟨limit, rfl⟩ : ∃ less, limit = less + 1 := ⟨limit - 1, by omega⟩
    rw [List.length_cons] at room ⊢
    rw [coalesceFrom_step limit tiled, coalesceFrom_step _ tiled]
    cases block.isFree && follower.isFree with
    | true =>
      exact @ih { heap with arena :=
        heap.arena.setHeader block.offset (block.absorb follower).toHeader }
        (block.absorb follower) front limit (tiled_absorb tiled) (by omega)
    | false => exact ih (tiled_past tiled) (by omega)

/-- Where no two free blocks are neighbours the sweep writes nothing. -/
theorem coalesceFrom_spaced (tiled : heap.arena.Tiled (front ++ block :: rest))
    (spaced : Spaced (block :: rest)) (room : rest.length < limit) :
    (coalesceFrom limit block.offset : Action Heap ε Unit) heap = ⟨.ok (), heap, []⟩ := by
  induction rest generalizing front block limit with
  | nil =>
    obtain ⟨limit, rfl⟩ : ∃ less, limit = less + 1 := ⟨limit - 1, by omega⟩
    exact coalesceFrom_last limit tiled
  | cons follower rest ih =>
    obtain ⟨limit, rfl⟩ : ∃ less, limit = less + 1 := ⟨limit - 1, by omega⟩
    obtain ⟨follows, further⟩ := List.isChain_cons_cons.mp spaced
    rw [List.length_cons] at room
    rw [coalesceFrom_step limit tiled, not_both_free follows]
    exact ih (tiled_past tiled) further (by omega)

/-- The whole sweep is the sweep from the first block, in any number of steps that is not below the
number of blocks. -/
theorem coalesce_eq (tiled : heap.arena.Tiled blocks) (room : blocks.length ≤ limit) :
    (coalesceFrom limit 0 : Action Heap ε Unit) heap = (coalesce : Action Heap ε Unit) heap := by
  obtain ⟨head, rest, rfl⟩ := List.exists_cons_of_ne_nil tiled.ne_nil
  have from_head : heap.arena.Tiled ([] ++ head :: rest) := tiled
  have short : rest.length < heap.total + 1 := by
    have length := tiled.tiles.length_le
    rw [List.length_cons] at length
    show rest.length < heap.arena.size + 1
    omega
  have steps : (coalesceFrom limit head.offset : Action Heap ε Unit) heap =
      coalesceFrom (heap.total + 1) head.offset heap :=
    (coalesceFrom_limit from_head room).trans (coalesceFrom_limit from_head short).symm
  rw [tiled.head] at steps
  exact steps.trans (Action.bind_steps (Action.get_apply heap) rfl).symm

/-- A heap without free neighbours is left alone. -/
theorem coalesce_spaced (tiled : heap.arena.Tiled blocks) (spaced : Spaced blocks) :
    (coalesce : Action Heap ε Unit) heap = ⟨.ok (), heap, []⟩ := by
  rw [← coalesce_eq tiled le_rfl]
  obtain ⟨head, rest, rfl⟩ := List.exists_cons_of_ne_nil tiled.ne_nil
  have from_head : heap.arena.Tiled ([] ++ head :: rest) := tiled
  rw [← tiled.head]
  exact coalesceFrom_spaced from_head spaced (Nat.lt_succ_self _)

/-! ### The swept heap -/

/-- **`after` is `before`, a heap of `blocks`, swept.** -/
structure Swept (before : Heap) (blocks swept : List Block) (after : Heap) : Prop where
  /-- Nothing but bytes of the arena changed. -/
  frame : after = { before with arena := after.arena }
  /-- Those were bytes of free blocks. -/
  changed : Arena.ChangedIn (freeRegion blocks) before.arena after.arena
  tiled : after.arena.Tiled swept
  chain : after.arena.chain = ⟨swept, none⟩
  /-- Each maximal run of free blocks became one block, and the live blocks stayed. -/
  collapses : Collapses blocks swept
  spaced : Spaced swept
  live : liveBlocks swept = liveBlocks blocks
  /-- The payload of a live block holds the bytes that it held. -/
  payloads : ∀ block ∈ liveBlocks blocks,
    after.arena.slice block.payload block.size = before.arena.slice block.payload block.size
  free_span : spanSum (freeBlocks swept) = spanSum (freeBlocks blocks)
  total_span : spanSum swept = spanSum blocks

/-- The whole sweep leaves a swept heap. -/
theorem coalesce_swept (heap : Heap) (tiled : heap.arena.Tiled blocks) :
    ∃ after, (coalesce : Action Heap ε Unit) heap = ⟨.ok (), after, []⟩ ∧
      heap.Swept blocks (merged blocks) after := by
  obtain ⟨arena, run, tiled_after, changed⟩ := coalesce_apply (ε := ε) heap tiled
  have live := liveBlocks_merged blocks
  have free := spanSum_freeBlocks_merged blocks
  have total : spanSum (merged blocks) = spanSum blocks := by
    rw [← spanSum_live_add_free, live, free, spanSum_live_add_free]
  refine ⟨{ heap with arena }, run, ⟨rfl, changed, tiled_after, tiled_after.chain_eq,
    collapses_merged blocks, merged_spaced blocks, live, fun block owned => ?_, free, total⟩⟩
  obtain ⟨member, owner⟩ := mem_liveBlocks.mp owned
  exact changed.slice (tiled.tiles.payload_outside member owner)

/-- **The sweep handles every pattern of free and live blocks.** However the blocks of a tiled arena
are marked, the sweep ends, in no more steps than there are blocks, without an access out of bounds
or an overflow. Each maximal run of free blocks is then one block at the offset of the run's first,
with its flags and request and with all the bytes of the run; every live block is where and what it
was, with its payload; the spans add up as before. No two free blocks are neighbours, and a second
sweep changes nothing. -/
theorem sweep_collapses (heap : Heap) (tiled : heap.arena.Tiled blocks) :
    ∃ swept after, heap.Swept blocks swept after ∧
      (coalesce : Action Heap ε Unit) heap = ⟨.ok (), after, []⟩ ∧
      (∀ limit, blocks.length ≤ limit →
        (coalesceFrom limit 0 : Action Heap ε Unit) heap = ⟨.ok (), after, []⟩) ∧
      (coalesce : Action Heap ε Unit) after = ⟨.ok (), after, []⟩ := by
  obtain ⟨after, run, swept⟩ := coalesce_swept (ε := ε) heap tiled
  refine ⟨merged blocks, after, swept, run, fun limit room => ?_,
    coalesce_spaced swept.tiled swept.spaced⟩
  exact (coalesce_eq tiled room).trans run

/-- Three free blocks, a live one, and two more free blocks. Some have further flags set. -/
def patchedBlocks : List Block :=
  [⟨⟨0, 16, 5, 9⟩, 0⟩, ⟨⟨8, 40, 1, 0⟩, 16⟩, ⟨⟨0, 56, 3, 7⟩, 40⟩, ⟨⟨8, 80, 2, 5⟩, 56⟩,
    ⟨⟨0, 96, 7, 1⟩, 80⟩, ⟨⟨0, endOfChain, 1, 0⟩, 96⟩]

/-- Room for them, all bytes 170. -/
def patchedRegion : Region where
  address := 0
  bytes := Array.replicate 112 170
  addressable := by decide +kernel

/-- The heap that they tile. -/
def patchedHeap : Heap :=
  { ofArena ((Arena.ofRegion? patchedRegion).get (by decide +kernel)) with
    arena := patchedBlocks.foldl (fun arena block => arena.setHeader block.offset block.toHeader)
      ((Arena.ofRegion? patchedRegion).get (by decide +kernel)) }

theorem tiled_patchedHeap : patchedHeap.arena.Tiled patchedBlocks := by
  refine ⟨?_, by decide +kernel⟩
  have size : patchedHeap.arena.size = 112 := by decide +kernel
  rw [size]
  simp [Tiles, patchedBlocks, linkAt, Block.stop, Header.span, headerBytes]

/-- The three blocks become one of 56 bytes and the two become one of 32. -/
theorem sweep_collapses_patchedHeap :
    patchedHeap.arena.Tiled patchedBlocks ∧
      ∃ after : Heap,
        (coalesce : Action Heap HeapRefusal Unit) patchedHeap = ⟨.ok (), after, []⟩ ∧
        after.arena.chain = ⟨[⟨⟨40, 56, 5, 9⟩, 0⟩, ⟨⟨8, 80, 2, 5⟩, 56⟩,
          ⟨⟨16, endOfChain, 7, 1⟩, 80⟩], none⟩ ∧
        after.arena.slice 72 8 = List.replicate 8 170 := by
  obtain ⟨swept, after, is_swept, run, _⟩ :=
    sweep_collapses (ε := HeapRefusal) patchedHeap tiled_patchedHeap
  refine ⟨tiled_patchedHeap, after, run, ?_, ?_⟩
  · have state : after = ((coalesce : Action Heap HeapRefusal Unit) patchedHeap).state := by
      rw [run]
    rw [state]
    decide +kernel
  · have kept := is_swept.payloads ⟨⟨8, 80, 2, 5⟩, 56⟩ (by decide)
    exact kept.trans (by decide +kernel)

end Heap

end MiniKernel
