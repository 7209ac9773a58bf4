/-
**A release is exact.**

The code sweeps the whole list, and a run of free blocks of any length collapses into its first one.
In a list without free neighbours one more free block makes a run of three at most.

* `Block.joined` — a block grown by all the ones right behind it.
* `merged_run` — **a run of free blocks between live ones becomes one block**, and what stands on
  either side of it stays.
* `Heap.Neighbours` — a list cut at the free blocks right before and right behind a block.
  `Heap.exists_neighbours`: a list without free neighbours can be cut so at each of its blocks.
* `Heap.Joins` — the free block that a run becomes.
* `Heap.release_exact` — **a live handle is always taken back**: its block and the free ones next to
  it become one, and nothing else in the list changes.
-/

import MiniKernel.Proofs.Heap.Outstanding

namespace MiniKernel

-- A written header is known by its lemmas only.
seal Arena.setHeader

/-! ### Runs of free blocks -/

/-- The block grown by all the ones right behind it. -/
def Block.joined (block : Block) (run : List Block) : Block := run.foldl Block.absorb block

section Joining

variable {block : Block} {front run rest back : List Block}

@[simp] theorem Block.isFree_joined (block : Block) (run : List Block) :
    (block.joined run).isFree = block.isFree := by
  induction run generalizing block with
  | nil => rfl
  | cons follower rest ih => exact ih (block.absorb follower)

@[simp] theorem Block.offset_joined (block : Block) (run : List Block) :
    (block.joined run).offset = block.offset := by
  induction run generalizing block with
  | nil => rfl
  | cons follower rest ih => exact ih (block.absorb follower)

@[simp] theorem Block.requested_joined (block : Block) (run : List Block) :
    (block.joined run).requested = block.requested := by
  induction run generalizing block with
  | nil => rfl
  | cons follower rest ih => exact ih (block.absorb follower)

theorem Block.span_joined (block : Block) (run : List Block) :
    (block.joined run).span = spanSum (block :: run) := by
  induction run generalizing block with
  | nil => rfl
  | cons follower rest ih =>
    have grown : ((block.absorb follower).joined rest).span =
        spanSum (block.absorb follower :: rest) := ih (block.absorb follower)
    rw [spanSum_cons, Block.span_absorb, Nat.add_assoc] at grown
    rw [spanSum_cons, spanSum_cons]
    exact grown

/-- Merging takes a run of free blocks into its first one before it goes on. -/
theorem mergeFrom_run (free : block.isFree = true) (all_free : ∀ member ∈ run, member.isFree = true)
    (back : List Block) : mergeFrom block (run ++ back) = mergeFrom (block.joined run) back := by
  induction run generalizing block with
  | nil => rfl
  | cons follower rest ih =>
    obtain ⟨follower_free, rest_free⟩ := List.forall_mem_cons.mp all_free
    rw [List.cons_append, mergeFrom_both free follower_free]
    exact ih ((block.isFree_absorb follower).trans free) rest_free

theorem not_both_free {follower : Block}
    (follows : block.isFree = true → follower.isFree = false) :
    (block.isFree && follower.isFree) = false := by
  cases free : block.isFree with
  | true => exact follows free
  | false => rfl

/-- Where no two free blocks are neighbours there is nothing to merge. -/
theorem mergeFrom_of_spaced (spaced : Spaced (block :: rest)) :
    mergeFrom block rest = block :: rest := by
  induction rest generalizing block with
  | nil => rfl
  | cons follower rest ih =>
    obtain ⟨follows, spaced⟩ := List.isChain_cons_cons.mp spaced
    rw [mergeFrom_else (not_both_free follows), ih spaced]

/-- Merging comes unchanged through a list without free neighbours that ends with a live block. -/
theorem merged_append (spaced : Spaced front) (opens : ∀ last ∈ front.getLast?, last.isFree = false)
    (block : Block) (rest : List Block) :
    merged (front ++ block :: rest) = front ++ mergeFrom block rest := by
  induction front with
  | nil => rfl
  | cons head tail ih =>
    cases tail with
    | nil =>
      have apart : (head.isFree && block.isFree) = false := by
        rw [opens head rfl, Bool.false_and]
      exact mergeFrom_else apart
    | cons next tail =>
      obtain ⟨follows, spaced⟩ := List.isChain_cons_cons.mp spaced
      have later := ih spaced fun last member => opens last member
      calc merged (head :: next :: tail ++ block :: rest)
          = head :: mergeFrom next (tail ++ block :: rest) :=
            mergeFrom_else (not_both_free follows)
        _ = head :: (next :: tail ++ mergeFrom block rest) := congrArg _ later

/-- **A run of free blocks between live ones becomes one block.** -/
theorem merged_run (front_spaced : Spaced front)
    (opens : ∀ last ∈ front.getLast?, last.isFree = false) (free : block.isFree = true)
    (all_free : ∀ member ∈ run, member.isFree = true) (back_spaced : Spaced back)
    (closes : ∀ next ∈ back.head?, next.isFree = false) :
    merged (front ++ (block :: run) ++ back) = front ++ block.joined run :: back := by
  have whole : Spaced (block.joined run :: back) :=
    List.isChain_cons.mpr ⟨fun next member _ => closes next member, back_spaced⟩
  rw [List.append_assoc, List.cons_append, merged_append front_spaced opens,
    mergeFrom_run free all_free, mergeFrom_of_spaced whole]

end Joining

/-! ### A block and the free ones next to it -/

/-- **The free blocks `left` right before and `right` right behind a place in a list**, with what
stands before and behind those. Each is one block or none, and what stands next is live. -/
structure Heap.Neighbours (front left right back : List Block) : Prop where
  left : left = [] ∨ ∃ before, left = [before] ∧ before.isFree = true
  right : right = [] ∨ ∃ behind, right = [behind] ∧ behind.isFree = true
  opens : ∀ last ∈ front.getLast?, last.isFree = false
  closes : ∀ next ∈ back.head?, next.isFree = false

/-- **The free block that a run of blocks becomes.** -/
structure Heap.Joins (run : List Block) (joined : Block) : Prop where
  free : joined.isFree = true
  requested : joined.requested = 0
  span : joined.span = spanSum run
  opens : ∃ first ∈ run, joined.offset = first.offset
  lowest : ∀ member ∈ run, joined.offset ≤ member.offset

namespace Heap

variable {heap : Heap} {block : Block} {front left right back ahead behind : List Block}
  {history : List Exchange} {handle : Handle} {length start stop : Nat}

theorem exists_left (spaced : Spaced ahead) : ∃ front left, ahead = front ++ left ∧
    (left = [] ∨ ∃ before, left = [before] ∧ before.isFree = true) ∧
    ∀ last ∈ front.getLast?, last.isFree = false := by
  rcases List.eq_nil_or_concat' ahead with rfl | ⟨front, before, rfl⟩
  · exact ⟨[], [], rfl, Or.inl rfl, fun last member => by cases member⟩
  cases free : before.isFree with
  | true =>
    refine ⟨front, [before], rfl, Or.inr ⟨before, rfl, free⟩, fun last member => ?_⟩
    have apart := (List.isChain_append.mp spaced).2.2 last member before rfl
    by_contra live
    rw [apart (Bool.eq_true_of_not_eq_false live)] at free
    cases free
  | false =>
    refine ⟨front ++ [before], [], (List.append_nil _).symm, Or.inl rfl, fun last member => ?_⟩
    rw [List.getLast?_concat] at member
    cases member
    exact free

theorem exists_right (spaced : Spaced behind) : ∃ right back, behind = right ++ back ∧
    (right = [] ∨ ∃ next, right = [next] ∧ next.isFree = true) ∧
    ∀ next ∈ back.head?, next.isFree = false := by
  cases behind with
  | nil => exact ⟨[], [], rfl, Or.inl rfl, fun next member => by cases member⟩
  | cons next rest =>
    cases free : next.isFree with
    | true =>
      obtain ⟨follows, _⟩ := List.isChain_cons.mp spaced
      exact ⟨[next], rest, rfl, Or.inr ⟨next, rfl, free⟩, fun later member =>
        follows later member free⟩
    | false =>
      refine ⟨[], next :: rest, rfl, Or.inl rfl, fun head member => ?_⟩
      cases member
      exact free

/-- A list without free neighbours, cut at the free blocks next to a block of it. -/
theorem exists_neighbours (spaced : Spaced (ahead ++ block :: behind)) :
    ∃ front left right back, ahead = front ++ left ∧ behind = right ++ back ∧
      Neighbours front left right back := by
  obtain ⟨ahead_spaced, rest, _⟩ := List.isChain_append.mp spaced
  obtain ⟨_, behind_spaced⟩ := List.isChain_cons.mp rest
  obtain ⟨front, left, split, left_free, opens⟩ := exists_left ahead_spaced
  obtain ⟨right, back, cut, right_free, closes⟩ := exists_right behind_spaced
  exact ⟨front, left, right, back, split, cut, left_free, right_free, opens, closes⟩

theorem Neighbours.right_free (neighbours : Neighbours front left right back) :
    ∀ member ∈ right, member.isFree = true := by
  rcases neighbours.right with rfl | ⟨next, rfl, free⟩
  · exact fun member inside => absurd inside List.not_mem_nil
  · intro member inside
    rw [List.mem_singleton.mp inside]
    exact free

/-- What a run of blocks becomes is the first one of a run of free blocks in the same place, grown
by the others. -/
theorem joins_joined {run others : List Block} (tiles : Tiles length start run stop)
    (nonempty : run ≠ []) (opens : block.offset = start) (free : block.isFree = true)
    (unasked : block.requested = 0) (span : spanSum (block :: others) = spanSum run) :
    Joins run (block.joined others) := by
  refine ⟨?_, ?_, ?_, ?_, fun member inside => ?_⟩
  · rw [Block.isFree_joined, free]
  · rw [Block.requested_joined, unasked]
  · rw [Block.span_joined, span]
  · obtain ⟨first, rest, rfl⟩ := List.exists_cons_of_ne_nil nonempty
    refine ⟨first, List.mem_cons_self, ?_⟩
    rw [Block.offset_joined, opens]
    exact tiles.1.symm
  · rw [Block.offset_joined, opens]
    exact (tiles.bounds inside).1

/-- **What a block that was given back becomes with the free ones next to it.** -/
theorem Neighbours.joins (neighbours : Neighbours front left right back)
    (tiles : Tiles length start (left ++ block :: right) stop)
    (unasked : ∀ member ∈ left, member.requested = 0) :
    ∃ first run, left ++ block.vacated :: right = first :: run ∧ first.isFree = true ∧
      (∀ member ∈ run, member.isFree = true) ∧
      Joins (left ++ block :: right) (first.joined run) := by
  have span : spanSum (left ++ block.vacated :: right) = spanSum (left ++ block :: right) := by
    simp only [spanSum_append, spanSum_cons, Block.span_vacated]
  rcases neighbours.left with rfl | ⟨before, rfl, free⟩
  · exact ⟨block.vacated, right, rfl, block.isFree_vacated, neighbours.right_free,
      joins_joined tiles (List.cons_ne_nil _ _) tiles.1 block.isFree_vacated rfl span⟩
  · exact ⟨before, block.vacated :: right, rfl, free,
      List.forall_mem_cons.mpr ⟨block.isFree_vacated, neighbours.right_free⟩,
      joins_joined tiles (List.cons_ne_nil _ _) tiles.1 free (unasked before List.mem_cons_self)
        span⟩

/-! ### A live handle is taken back -/

/-- A request that was answered is one more of the run. -/
theorem Ran.answered (ran : heap.Ran history) (request : Request) (reply : Reply)
    (answers : (request.perform heap).result = .ok reply) :
    (request.perform heap).state.Ran (⟨request, .ok reply⟩ :: history) := by
  have step := ran.step request (answers.symm ▸ Answer.returns_ok _)
  rwa [answers] at step

/-- A live handle leads to a live block of a regular heap, which can be taken back. -/
theorem Ran.released (ran : heap.Ran history) (live : Live history handle) :
    ∃ front block back after, heap.Regular (front ++ block :: back) ∧
      heap.locate handle = .ok block ∧ heap.TakenBack front block back after ∧
      release handle heap = ⟨.ok (), after, []⟩ := by
  obtain ⟨blocks, honours⟩ := ran.reached.honours
  obtain ⟨block, located⟩ := ran.located_iff.mpr live
  obtain ⟨front, back, after, rfl, back_again, run⟩ :=
    honours.toRegular.released ran.counted located
  exact ⟨front, block, back, after, honours.toRegular, located, back_again, run⟩

/-- **A release is exact.** In every run a live handle is taken back. Its block, the block right
before it if that is free, and the block right behind it if that is free, become one free block at
the lowest of their offsets, with all their bytes. Every other block stays as it was. The span of
the handle's own block moves from the bytes used to the bytes free, and one more release is
counted. -/
theorem release_exact (ran : heap.Ran history) (live : Live history handle) :
    ∃ front left block right back joined after,
      (heap.blocks : Answer HeapRefusal (List Block)) =
        .ok (front ++ (left ++ block :: right) ++ back) ∧
      block.payload = handle.offset ∧ block.isFree = false ∧ Neighbours front left right back ∧
      release handle heap = ⟨.ok (), after, []⟩ ∧
      (after.blocks : Answer HeapRefusal (List Block)) = .ok (front ++ joined :: back) ∧
      Joins (left ++ block :: right) joined ∧
      after.used + block.span = heap.used ∧ after.free = heap.free + block.span ∧
      after.releases = heap.releases + 1 ∧ after.allocations = heap.allocations := by
  obtain ⟨ahead, block, behind, after, regular, located, back_again, run⟩ := ran.released live
  obtain ⟨_, still_live, there⟩ := mem_of_locate regular.tiled located
  obtain ⟨front, left, right, back, rfl, rfl, neighbours⟩ := exists_neighbours regular.spaced
  have shape : ∀ middle : Block, front ++ left ++ middle :: (right ++ back) =
      front ++ (left ++ middle :: right) ++ back := by
    intro middle
    simp
  have tiled := back_again.tiled
  rw [shape] at regular tiled
  obtain ⟨before_spaced, back_spaced, _⟩ := List.isChain_append.mp regular.spaced
  obtain ⟨front_spaced, _⟩ := List.isChain_append.mp before_spaced
  obtain ⟨border, before_tiles, _⟩ := Tiles.append.mp regular.tiled.tiles
  obtain ⟨opening, _, run_tiles⟩ := Tiles.append.mp before_tiles
  -- a free block of a regular heap is asked for by nobody
  have unasked : ∀ member ∈ left, member.requested = 0 := by
    intro member inside
    refine (regular.tidy member (by simp [inside])).vacant ?_
    rcases neighbours.left with rfl | ⟨before, rfl, free⟩
    · cases inside
    · rw [List.mem_singleton.mp inside]
      exact free
  obtain ⟨first, others, opens, free, all_free, joins⟩ := neighbours.joins run_tiles unasked
  rw [opens, merged_run front_spaced neighbours.opens free all_free back_spaced
    neighbours.closes] at tiled
  exact ⟨front, left, block, right, back, _, after, blocks_eq regular.tiled, there, still_live,
    neighbours, run, blocks_eq tiled, joins, back_again.used, back_again.free,
    back_again.releases, back_again.allocations⟩

/-- Two of the three blocks of `roomyRegion` were handed out. -/
def pairedHeap : Heap :=
  [Request.allocate 16, .allocate 16].foldl (fun heap request => (request.perform heap).state)
    roomyHeap

/-- What was asked of `pairedHeap`, the latest first. -/
def pairedHistory : List Exchange :=
  [⟨.allocate 16, .ok (.handle ⟨48⟩)⟩, ⟨.allocate 16, .ok (.handle ⟨16⟩)⟩]

theorem ran_pairedHeap : pairedHeap.Ran pairedHistory := by
  have fresh := Ran.fresh create_roomyRegion
  have one := fresh.answered (.allocate 16) (.handle ⟨16⟩) (by decide +kernel)
  exact one.answered (.allocate 16) (.handle ⟨48⟩) (by decide +kernel)

/-- What was asked of `pittedHeap`, the latest first. -/
def pittedHistory : List Exchange := ⟨.release ⟨16⟩, .ok .done⟩ :: pairedHistory

theorem ran_pittedHeap : pittedHeap.Ran pittedHistory :=
  ran_pairedHeap.answered (.release ⟨16⟩) .done (by decide +kernel)

/-- What `pittedHeap` is cut into. -/
def pittedBlocks : List Block :=
  [⟨⟨16, 32, 1, 0⟩, 0⟩, ⟨⟨16, 64, 0, 16⟩, 32⟩, ⟨⟨16, endOfChain, 1, 0⟩, 64⟩]

theorem blocks_pittedHeap :
    (pittedHeap.blocks : Answer HeapRefusal (List Block)) = .ok pittedBlocks := by
  decide +kernel

/-- The block between two free ones is given back, and nothing is in use any more. -/
theorem release_exact_pittedHeap :
    pittedHeap.Ran pittedHistory ∧ Live pittedHistory ⟨48⟩ ∧
      ∃ after : Heap, release ⟨48⟩ pittedHeap = ⟨.ok (), after, []⟩ ∧
        after.used = 0 ∧ after.free = 96 ∧ after.releases = 2 := by
  have live : Live pittedHistory ⟨48⟩ := by
    simp [Live, pittedHistory, pairedHistory, standing_cons, Exchange.Gives, Exchange.Takes]
  have counters : pittedHeap.used = 32 ∧ pittedHeap.free = 64 ∧ pittedHeap.releases = 1 := by
    decide +kernel
  obtain ⟨used, free, releases⟩ := counters
  obtain ⟨front, left, block, right, back, _, after, is_listed, there, _, _, run, _, _,
    less_used, more_free, counted, _⟩ := release_exact ran_pittedHeap live
  have same := Except.ok.inj (blocks_pittedHeap.symm.trans is_listed)
  have span : block.span = 32 := by
    have each : ∀ member ∈ pittedBlocks, member.span = 32 := by decide
    exact each block (by simp [same])
  rw [span] at less_used more_free
  exact ⟨ran_pittedHeap, live, after, run, by omega, by omega, by omega⟩

end Heap

end MiniKernel
