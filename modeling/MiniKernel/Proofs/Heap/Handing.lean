/-
**Handing a block out.**

* `Block.carve block wanted size` — what a free block becomes: the block handed to its owner and, if
  enough is left over, a free block behind it. It fills the same stretch (`Tiles.carve`).
* `Heap.HandedOut` — a heap after a block was handed out: the list with that one block carved, bytes
  changed inside it only, the counters moved by the span of the handed block.
* `Heap.take_apply`, `Heap.allocate_cases` — handing out never stops in the middle, and either
  refuses and changes nothing or leaves such a heap.
-/

import MiniKernel.Heap.Allocation
import MiniKernel.Proofs.Heap.Layout

namespace MiniKernel

-- A written header is known by its lemmas only.
seal Arena.setHeader

/-! ### Headers read and written -/

namespace Heap

variable {ε : Type} {heap : Heap} {offset : Nat}

theorem fetchHeader_apply (inside : offset + headerBytes ≤ heap.arena.size) :
    (fetchHeader offset : Action Heap ε Header) heap =
      ⟨.ok (heap.arena.header offset), heap, []⟩ := by
  refine Action.bind_steps (Action.get_apply heap) ?_
  simp only [Arena.headerFault?_eq_none inside]
  rfl

theorem storeHeader_apply (header : Header) (inside : offset + headerBytes ≤ heap.arena.size) :
    (storeHeader offset header : Action Heap ε Unit) heap =
      ⟨.ok (), { heap with arena := heap.arena.setHeader offset header }, []⟩ := by
  refine Action.bind_steps (Action.get_apply heap) ?_
  refine Action.bind_steps (Action.modify_apply _ heap) ?_
  simp only [Arena.headerFault?_eq_none inside]
  rfl

end Heap

/-! ### A block carved -/

/-- The block an owner gets that asked for `size` bytes, rounded up to `wanted`. -/
def Block.handed (block : Block) (wanted size : Nat) : Block :=
  if wanted + headerBytes + smallestPayload ≤ block.size then
    { offset := block.offset, size := wanted, next := block.offset + headerBytes + wanted
      flags := block.flags / 2 * 2, requested := size }
  else { block with flags := block.flags / 2 * 2, requested := size }

/-- The free block behind the first `wanted` bytes of a payload. -/
def Block.tail (block : Block) (wanted : Nat) : Block where
  offset := block.offset + headerBytes + wanted
  size := block.size - wanted - headerBytes
  next := block.next
  flags := 1
  requested := 0

/-- What is left over behind the handed block, if it makes a block. -/
def Block.leftover (block : Block) (wanted : Nat) : List Block :=
  if wanted + headerBytes + smallestPayload ≤ block.size then [block.tail wanted] else []

/-- The blocks a free block becomes. -/
def Block.carve (block : Block) (wanted size : Nat) : List Block :=
  block.handed wanted size :: block.leftover wanted

section Carving

variable {block : Block} {wanted size length : Nat}

@[simp] theorem Block.offset_handed (block : Block) (wanted size : Nat) :
    (block.handed wanted size).offset = block.offset := by
  unfold Block.handed
  split <;> rfl

@[simp] theorem Block.requested_handed (block : Block) (wanted size : Nat) :
    (block.handed wanted size).requested = size := by
  unfold Block.handed
  split <;> rfl

@[simp] theorem Block.flags_handed (block : Block) (wanted size : Nat) :
    (block.handed wanted size).flags = block.flags / 2 * 2 := by
  unfold Block.handed
  split <;> rfl

@[simp] theorem Block.isFree_handed (block : Block) (wanted size : Nat) :
    (block.handed wanted size).isFree = false := by
  show ((block.handed wanted size).flags % 2 == 1) = false
  simp

@[simp] theorem Block.payload_handed (block : Block) (wanted size : Nat) :
    (block.handed wanted size).payload = block.payload := by
  show (block.handed wanted size).offset + headerBytes = block.offset + headerBytes
  rw [Block.offset_handed]

theorem Block.isFree_leftover : ∀ rest ∈ block.leftover wanted, rest.isFree = true := by
  unfold Block.leftover
  split
  · intro rest member
    rw [List.mem_singleton.mp member]
    rfl
  · exact fun rest member => absurd member List.not_mem_nil

theorem Block.offset_leftover : ∀ rest ∈ block.leftover wanted,
    block.offset + headerBytes ≤ rest.offset := by
  unfold Block.leftover
  split
  · intro rest member
    rw [List.mem_singleton.mp member]
    exact Nat.le_add_right _ _
  · exact fun rest member => absurd member List.not_mem_nil

theorem Block.offset_tail (block : Block) (wanted : Nat) :
    (block.tail wanted).offset = block.payload + wanted := rfl

/-- What is left over ends where the block did. -/
theorem Block.stop_tail (splits : wanted + headerBytes + smallestPayload ≤ block.size) :
    (block.tail wanted).stop = block.stop := by
  rw [Block.stop_eq, block.stop_eq, Block.offset_tail, block.payload_eq]
  rw [headerBytes, smallestPayload] at splits
  show block.offset + 16 + wanted + 16 + (block.size - wanted - 16) = _
  omega

/-- The owner gets what was wanted. -/
theorem Block.size_handed (size : Nat) (fits : wanted ≤ block.size) :
    wanted ≤ (block.handed wanted size).size ∧
      (block.handed wanted size).size ≤ block.size := by
  unfold Block.handed
  split
  · exact ⟨le_rfl, fits⟩
  · exact ⟨fits, le_rfl⟩

/-- **The carved blocks fill the stretch of the block.** -/
theorem Tiles.carve (linked : block.next = linkAt length block.stop)
    (inside : block.stop ≤ length) :
    Tiles length block.offset (block.carve wanted size) block.stop := by
  unfold Block.carve Block.handed Block.leftover
  by_cases splits : wanted + headerBytes + smallestPayload ≤ block.size
  · rw [if_pos splits, if_pos splits]
    have last := Block.stop_tail splits
    have border : (block.tail wanted).offset < length := by
      rw [Block.stop_eq] at last
      omega
    have first : block.offset + (headerBytes + wanted) = (block.tail wanted).offset :=
      (Nat.add_assoc ..).symm
    refine ⟨rfl, ?_, first.symm, ?_, last⟩
    · show (block.tail wanted).offset = linkAt length (block.offset + (headerBytes + wanted))
      rw [first, linkAt, if_neg (by omega)]
    · rw [last]
      exact linked
  · rw [if_neg splits, if_neg splits]
    exact ⟨rfl, linked, rfl⟩

theorem Block.spanSum_leftover (block : Block) (wanted size : Nat) :
    (block.handed wanted size).span + spanSum (block.leftover wanted) = block.span := by
  unfold Block.handed Block.leftover
  by_cases splits : wanted + headerBytes + smallestPayload ≤ block.size
  · rw [if_pos splits, if_pos splits, spanSum_cons, spanSum_nil]
    show headerBytes + wanted + (headerBytes + (block.size - wanted - headerBytes) + 0) =
      headerBytes + block.size
    omega
  · rw [if_neg splits, if_neg splits]
    rfl

theorem liveBlocks_carve : liveBlocks (block.carve wanted size) = [block.handed wanted size] := by
  unfold Block.carve
  rw [liveBlocks_cons_live (Block.isFree_handed ..), liveBlocks, List.filter_eq_nil_iff.mpr]
  intro rest member
  simp [Block.isFree_leftover rest member]

theorem freeBlocks_carve : freeBlocks (block.carve wanted size) = block.leftover wanted := by
  unfold Block.carve
  rw [freeBlocks_cons_live (Block.isFree_handed ..), freeBlocks,
    List.filter_eq_self.mpr Block.isFree_leftover]

/-- The live blocks once a free one is carved: those before, and the one handed out. -/
theorem mem_liveBlocks_carve {front back : List Block} {member : Block}
    (free : block.isFree = true) :
    member ∈ liveBlocks (front ++ block.carve wanted size ++ back) ↔
      member ∈ liveBlocks (front ++ block :: back) ∨ member = block.handed wanted size := by
  rw [liveBlocks_append, liveBlocks_append, liveBlocks_carve, liveBlocks_append,
    liveBlocks_cons_free free]
  simp only [List.mem_append, List.mem_singleton]
  exact or_right_comm

/-- Carving a free block leaves no two free neighbours. -/
theorem spaced_carve {front back : List Block} (spaced : Spaced (front ++ block :: back))
    (free : block.isFree = true) : Spaced (front ++ block.carve wanted size ++ back) := by
  obtain ⟨ahead, behind, _⟩ := List.isChain_append.mp spaced
  obtain ⟨follows, behind⟩ := List.isChain_cons.mp behind
  have tail : Spaced (block.leftover wanted ++ back) := by
    unfold Block.leftover
    split
    · exact List.isChain_cons.mpr ⟨fun head member _ => follows head member free, behind⟩
    · exact behind
  rw [List.append_assoc]
  refine List.isChain_append.mpr ⟨ahead, List.isChain_cons.mpr ⟨?_, tail⟩, ?_⟩
  · intro head _ handed_free
    rw [Block.isFree_handed] at handed_free
    cases handed_free
  · intro last _ head member _
    cases member
    exact Block.isFree_handed ..

end Carving

/-! ### Handing out -/

/-- **`after` is `before` with `block` handed to an owner that asked for `size` bytes.** -/
structure Heap.HandedOut (before : Heap) (front : List Block) (block : Block) (back : List Block)
    (wanted size : Nat) (after : Heap) : Prop where
  tiled : after.arena.Tiled (front ++ block.carve wanted size ++ back)
  changed : Arena.ChangedIn (Set.Ico block.offset block.stop) before.arena after.arena
  used : after.used = before.used + (block.handed wanted size).span
  free : after.free + (block.handed wanted size).span = before.free
  allocations : after.allocations = before.allocations + 1
  releases : after.releases = before.releases
  countable : before.allocations + 1 < longLimit

namespace Heap

variable {ε : Type} {heap : Heap} {block : Block} {blocks front back : List Block}
  {wanted size : Nat}

theorem chargeTaken_apply (heap : Heap) {span : Nat} (used : heap.used + span < longLimit)
    (free : span ≤ heap.free) (countable : heap.allocations + 1 < longLimit) :
    (chargeTaken span : Action Heap ε Unit) heap =
      ⟨.ok (), { heap with used := heap.used + span, free := heap.free - span
                           allocations := heap.allocations + 1 }, []⟩ := by
  simp only [chargeTaken, Action.bind_apply, Action.get_apply, Action.ask_apply,
    Action.modify_apply, Checked.add_eq_ok used, Checked.sub_eq_ok free,
    Checked.add_eq_ok countable]
  rfl

/-- A full count of allocations stops the machine. -/
theorem chargeTaken_full (heap : Heap) {span : Nat} (used : heap.used + span < longLimit)
    (free : span ≤ heap.free) (full : ¬ heap.allocations + 1 < longLimit) :
    ∃ after, (chargeTaken span : Action Heap ε Unit) heap =
      ⟨.error (.aborted (.overflow .add)), after, []⟩ := by
  refine ⟨{ heap with used := heap.used + span, free := heap.free - span }, ?_⟩
  simp only [chargeTaken, Action.bind_apply, Action.get_apply, Action.ask_apply,
    Action.modify_apply, Checked.add_eq_ok used, Checked.sub_eq_ok free]
  rw [Checked.add, if_neg full]
  rfl

/-- A block counted as taken left room for one more count. -/
theorem countable_of_chargeTaken (heap : Heap) {span : Nat} (used : heap.used + span < longLimit)
    (free : span ≤ heap.free)
    (returns : ((chargeTaken span : Action Heap ε Unit) heap).result.Returns) :
    heap.allocations + 1 < longLimit := by
  by_contra full
  obtain ⟨after, run⟩ := chargeTaken_full (ε := ε) heap used free full
  rw [run] at returns
  exact returns (.overflow .add) rfl

/-- Cutting a block down writes the header of what is left over, behind the block's own. -/
theorem split_apply (tiled : heap.arena.Tiled blocks) (member : block ∈ blocks)
    (wanted size : Nat) :
    ∃ arena header, (split block wanted : Action Heap ε Header) heap =
        ⟨.ok header, { heap with arena }, []⟩ ∧
      Arena.ChangedIn (Set.Ico block.payload block.stop) heap.arena arena ∧
      (∀ rest ∈ block.leftover wanted, arena.header rest.offset = rest.toHeader) ∧
      header.taken size = (block.handed wanted size).toHeader := by
  unfold split Block.leftover Block.handed
  by_cases splits : wanted + headerBytes + smallestPayload ≤ block.size
  · simp only [if_pos splits]
    have bound := tiled.bounds member
    have last := Block.stop_tail splits
    rw [← last, Block.stop_eq] at bound
    have inside : (block.tail wanted).offset + headerBytes ≤ heap.arena.size := by
      rw [headerBytes]
      omega
    have fits : block.offset + headerBytes + wanted < wordLimit := by
      have small := heap.arena.size_lt
      rw [Block.offset_tail, Block.payload] at inside
      omega
    have tail_fits : (block.tail wanted).toHeader.Fits :=
      ⟨lt_of_le_of_lt ((Nat.sub_le ..).trans (Nat.sub_le ..)) (tiled.fits member).size,
        (tiled.fits member).next, (by decide : 1 < wordLimit), (by decide : 0 < wordLimit)⟩
    refine ⟨heap.arena.setHeader (block.tail wanted).offset (block.tail wanted).toHeader,
      { block.toHeader with size := wanted, next := block.offset + headerBytes + wanted },
      ?_, ?_, ?_, rfl⟩
    · rw [Checked.add_eq_ok fits]
      refine Action.bind_steps (Action.ask_apply _ heap) ?_
      exact Action.bind_steps (storeHeader_apply _ inside) rfl
    · refine (Arena.changedIn_setHeader ..).mono (Set.Ico_subset_Ico ?_ ?_)
      · exact Nat.le_add_right _ _
      · rw [← last, Block.stop_eq, headerBytes]
        omega
    · intro rest member
      rw [List.mem_singleton.mp member]
      exact Arena.header_setHeader_of_fits inside tail_fits
  · simp only [if_neg splits]
    exact ⟨heap.arena, block.toHeader, rfl, Arena.ChangedIn.refl _ _,
      (fun rest member => absurd member List.not_mem_nil), rfl⟩

theorem fits_handed (tiled : heap.arena.Tiled blocks) (member : block ∈ blocks)
    (fits : wanted ≤ block.size) (rounded : size ≤ wanted) :
    (block.handed wanted size).toHeader.Fits := by
  have block_fits := tiled.fits member
  refine ⟨lt_of_le_of_lt (Block.size_handed size fits).2 block_fits.size, ?_, ?_, ?_⟩
  · unfold Block.handed
    by_cases splits : wanted + headerBytes + smallestPayload ≤ block.size
    · rw [if_pos splits]
      have bound := tiled.bounds member
      rw [← Block.stop_tail splits, Block.stop_eq] at bound
      have small := heap.arena.size_lt
      show (block.tail wanted).offset < wordLimit
      omega
    · rw [if_neg splits]
      exact block_fits.next
  · rw [Block.flags_handed]
    exact lt_of_le_of_lt (Nat.div_mul_le_self _ _) block_fits.flags
  · rw [Block.requested_handed]
    exact lt_of_le_of_lt (rounded.trans fits) block_fits.size

/-- With its own header written too, the carved block stands in the arena. -/
theorem tiled_handed {arena : Arena} {header : Header}
    (tiled : heap.arena.Tiled (front ++ block :: back)) (fits : wanted ≤ block.size)
    (rounded : size ≤ wanted)
    (changed : Arena.ChangedIn (Set.Ico block.payload block.stop) heap.arena arena)
    (left_over : ∀ rest ∈ block.leftover wanted, arena.header rest.offset = rest.toHeader)
    (written : header.taken size = (block.handed wanted size).toHeader) :
    Arena.ChangedIn (Set.Ico block.offset block.stop) heap.arena
        (arena.setHeader block.offset (header.taken size)) ∧
      (arena.setHeader block.offset (header.taken size)).Tiled
        (front ++ block.carve wanted size ++ back) := by
  have member : block ∈ front ++ block :: back :=
    List.mem_append_right _ List.mem_cons_self
  have bound := tiled.bounds member
  have inside : block.offset + headerBytes ≤ arena.size := by
    rw [changed.size]
    exact tiled.header_inside member
  have whole : Arena.ChangedIn (Set.Ico block.offset block.stop) heap.arena
      (arena.setHeader block.offset (header.taken size)) := by
    refine (changed.mono ?_).trans ((Arena.changedIn_setHeader ..).mono ?_)
    · exact Set.Ico_subset_Ico (Nat.le_add_right _ _) le_rfl
    · refine Set.Ico_subset_Ico le_rfl ?_
      rw [block.stop_eq, headerBytes]
      omega
  have handed_fits := fits_handed tiled member fits rounded
  obtain ⟨first, linked, last⟩ := tiled.tiles.around
  rw [← List.singleton_append, ← List.append_assoc] at tiled
  refine ⟨whole, tiled.replace first last whole (Tiles.carve linked bound) fun rest carved => ?_⟩
  rcases List.mem_cons.mp carved with rfl | carved
  · rw [← written] at handed_fits
    rw [Block.offset_handed, Arena.header_setHeader_of_fits inside handed_fits, written]
  · rw [← left_over rest carved]
    refine (Arena.changedIn_setHeader ..).header fun step _ => ?_
    have behind := Block.offset_leftover rest carved
    rw [Set.mem_Ico]
    omega

/-- **A free block that is large enough is handed out.** -/
theorem take_apply (tiled : heap.arena.Tiled (front ++ block :: back))
    (fits : wanted ≤ block.size) (rounded : size ≤ wanted)
    (used : heap.used + block.span < longLimit) (free : block.span ≤ heap.free)
    (going : heap.allocations + 1 < longLimit ∨
      ((take block wanted size : Action Heap ε Handle) heap).result.Returns) :
    ∃ after, (take block wanted size : Action Heap ε Handle) heap =
        ⟨.ok ⟨block.payload⟩, after, []⟩ ∧
      heap.HandedOut front block back wanted size after := by
  have member : block ∈ front ++ block :: back :=
    List.mem_append_right _ List.mem_cons_self
  obtain ⟨arena, header, cut, changed, left_over, written⟩ :=
    split_apply (ε := ε) tiled member wanted size
  have inside : block.offset + headerBytes ≤ arena.size := by
    rw [changed.size]
    exact tiled.header_inside member
  have span : header.span = (block.handed wanted size).span := by
    show headerBytes + (header.taken size).size = _
    rw [written]
    rfl
  have less : (block.handed wanted size).span ≤ block.span :=
    Nat.add_le_add_left (Block.size_handed size fits).2 _
  rw [← span] at less
  have used_less := lt_of_le_of_lt (Nat.add_le_add_left less heap.used) used
  have countable : heap.allocations + 1 < longLimit := by
    rcases going with countable | returns
    · exact countable
    · have stored := Action.returns_next cut returns
      have counted := Action.returns_next (storeHeader_apply _ inside) stored
      exact countable_of_chargeTaken
        { heap with arena := arena.setHeader block.offset (header.taken size) }
        used_less (less.trans free) (Action.returns_first counted)
  have charged := chargeTaken_apply (ε := ε)
    { heap with arena := arena.setHeader block.offset (header.taken size) }
    used_less (less.trans free) countable
  refine ⟨_, Action.bind_steps cut (Action.bind_steps (storeHeader_apply _ inside)
    (Action.bind_steps charged (Action.pure_apply _ _))), ?_⟩
  obtain ⟨whole, handed⟩ := tiled_handed tiled fits rounded changed left_over written
  refine ⟨handed, whole, ?_, ?_, rfl, rfl, countable⟩
  · rw [← span]
  · rw [← span]
    exact Nat.sub_add_cancel (less.trans free)

namespace HandedOut

variable {after : Heap}

/-- Bytes changed inside the handed payload leave the block handed out. -/
theorem rewritten {arena : Arena} (out : heap.HandedOut front block back wanted size after)
    (changed : Arena.ChangedIn (Set.Ico block.payload (block.handed wanted size).stop)
      after.arena arena) (fits : wanted ≤ block.size) :
    heap.HandedOut front block back wanted size { after with arena } := by
  have less : (block.handed wanted size).stop ≤ block.stop := by
    rw [Block.stop_eq, Block.stop_eq, Block.offset_handed]
    have smaller := (Block.size_handed size fits).2
    omega
  have member : block.handed wanted size ∈ front ++ block.carve wanted size ++ back :=
    List.mem_append_left _ (List.mem_append_right _ List.mem_cons_self)
  refine ⟨out.tiled.rewritten member ?_, out.changed.trans (changed.mono ?_), out.used, out.free,
    out.allocations, out.releases, out.countable⟩
  · rw [Block.payload_handed]
    exact changed
  · exact Set.Ico_subset_Ico (Nat.le_add_right _ _) less

/-- **A heap stays sound when a free block of it is handed out.** -/
theorem sound (out : heap.HandedOut front block back wanted size after)
    (sound : heap.Sound (front ++ block :: back)) (free : block.isFree = true) :
    after.Sound (front ++ block.carve wanted size ++ back) := by
  have spans := block.spanSum_leftover wanted size
  refine ⟨out.tiled, ?_, ?_, ?_⟩
  · exact spaced_carve sound.spaced free
  · have before := sound.used
    rw [liveBlocks_append, spanSum_append, liveBlocks_cons_free free] at before
    rw [out.used, before, liveBlocks_append, liveBlocks_append, liveBlocks_carve]
    simp only [spanSum_append, spanSum_cons, spanSum_nil]
    omega
  · have before := sound.free
    have taken := out.free
    rw [freeBlocks_append, spanSum_append, freeBlocks_cons_free free, spanSum_cons] at before
    rw [freeBlocks_append, freeBlocks_append, freeBlocks_carve]
    simp only [spanSum_append]
    omega

end HandedOut

theorem bestFitAmong_mem (chosen : bestFitAmong wanted blocks = some block) :
    block ∈ blocks ∧ block.isFree = true ∧ wanted ≤ block.size := by
  induction blocks generalizing block with
  | nil => cases chosen
  | cons head rest ih =>
    have later : bestFitAmong wanted rest = some block →
        block ∈ head :: rest ∧ block.isFree = true ∧ wanted ≤ block.size := by
      intro found
      obtain ⟨member, free, fits⟩ := ih found
      exact ⟨List.mem_cons_of_mem _ member, free, fits⟩
    unfold bestFitAmong at chosen
    by_cases fitting : head.isFree = true ∧ wanted ≤ head.size
    · rw [if_pos fitting] at chosen
      cases found : bestFitAmong wanted rest with
      | none =>
        rw [found] at chosen
        cases chosen
        exact ⟨List.mem_cons_self, fitting⟩
      | some other =>
        rw [found] at chosen
        by_cases smaller : other.size < head.size
        · simp only [if_pos smaller] at chosen
          cases chosen
          exact later found
        · simp only [if_neg smaller] at chosen
          cases chosen
          exact ⟨List.mem_cons_self, fitting⟩
    · rw [if_neg fitting] at chosen
      exact later chosen

theorem le_roundUp (size : Nat) : size ≤ roundUp size := by
  unfold roundUp
  omega

theorem bestFit_eq (tiled : heap.arena.Tiled blocks) (wanted : Nat) :
    heap.bestFit wanted = (.ok (bestFitAmong wanted blocks) : Answer ε (Option Block)) := by
  show heap.arena.chain.complete >>= _ = _
  rw [tiled.chain_eq]
  rfl

/-- The counters of a sound heap share out the arena. -/
theorem Sound.used_add_free (sound : heap.Sound blocks) :
    heap.used + heap.free = heap.total := by
  have whole := sound.tiled.tiles.spanSum_eq
  have parts := spanSum_live_add_free blocks
  rw [sound.used, sound.free]
  show _ = heap.arena.size
  omega

/-- A free block is counted as free, and can be counted as used. -/
theorem Sound.room_of_free (sound : heap.Sound (front ++ block :: back))
    (free : block.isFree = true) :
    block.span ≤ heap.free ∧ heap.used + block.span < longLimit := by
  have share := sound.used_add_free
  have small : heap.total < wordLimit := heap.arena.size_lt
  have longer : wordLimit < longLimit := by decide
  have room : block.span ≤ heap.free := by
    rw [sound.free, freeBlocks_append, freeBlocks_cons_free free, spanSum_append, spanSum_cons]
    omega
  exact ⟨room, by omega⟩

theorem allocate_zero (heap : Heap) :
    allocate 0 heap = ⟨.error (.refused .invalidSize), heap, []⟩ := by
  refine Action.bind_steps (Action.get_apply heap) ?_
  rw [if_pos rfl]
  rfl

/-- **Where no block is large enough a request is refused**, and at most reported. -/
theorem allocate_short (tiled : heap.arena.Tiled blocks) (positive : size ≠ 0)
    (short : heap.total < size ∨ bestFitAmong (roundUp size) blocks = none) :
    ∃ effects, (∀ effect ∈ effects, effect = .report (.noBlock size heap.free)) ∧
      allocate size heap = ⟨.error (.refused .outOfMemory), heap, effects⟩ := by
  unfold allocate
  by_cases large : heap.total < size
  · refine ⟨[], (fun _ member => absurd member List.not_mem_nil),
      Action.bind_steps (Action.get_apply heap) ?_⟩
    rw [if_neg positive, if_pos large]
    rfl
  · refine ⟨[.report (.noBlock size heap.free)], (fun _ => List.mem_singleton.mp),
      Action.bind_steps (Action.get_apply heap) ?_⟩
    rw [if_neg positive, if_neg large, bestFit_eq tiled, short.resolve_left large]
    rfl

/-- **All that an allocation can do.** -/
theorem allocate_cases (sound : heap.Sound blocks) (size : Nat)
    (going : heap.allocations + 1 < longLimit ∨ (allocate size heap).result.Returns) :
    (size = 0 ∧ allocate size heap = ⟨.error (.refused .invalidSize), heap, []⟩) ∨
    (size ≠ 0 ∧ (heap.total < size ∨ bestFitAmong (roundUp size) blocks = none) ∧
      ∃ effects, (∀ effect ∈ effects, effect = .report (.noBlock size heap.free)) ∧
        allocate size heap = ⟨.error (.refused .outOfMemory), heap, effects⟩) ∨
    (size ≠ 0 ∧ size ≤ heap.total ∧ ∃ front block back after, blocks = front ++ block :: back ∧
      bestFitAmong (roundUp size) blocks = some block ∧
      heap.HandedOut front block back (roundUp size) size after ∧
      allocate size heap = ⟨.ok ⟨block.payload⟩, after, []⟩) := by
  by_cases zero : size = 0
  · exact Or.inl ⟨zero, zero ▸ allocate_zero heap⟩
  by_cases large : heap.total < size
  · exact Or.inr (Or.inl ⟨zero, Or.inl large, allocate_short sound.tiled zero (Or.inl large)⟩)
  cases chosen : bestFitAmong (roundUp size) blocks with
  | none =>
    exact Or.inr (Or.inl ⟨zero, Or.inr rfl, allocate_short sound.tiled zero (Or.inr chosen)⟩)
  | some block =>
    have answer := bestFit_eq (ε := HeapRefusal) sound.tiled (roundUp size)
    obtain ⟨member, free, fits⟩ := bestFitAmong_mem chosen
    obtain ⟨front, back, rfl⟩ := List.append_of_mem member
    obtain ⟨room, used⟩ := sound.room_of_free free
    unfold allocate at going ⊢
    have further : heap.allocations + 1 < longLimit ∨
        ((take block (roundUp size) size : Action Heap HeapRefusal Handle)
          heap).result.Returns := by
      refine going.imp_right fun returns => ?_
      have chosen_next := Action.returns_next (Action.get_apply heap) returns
      rw [if_neg zero, if_neg large, answer, chosen] at chosen_next
      exact Action.returns_next (Action.ask_apply _ heap) chosen_next
    obtain ⟨after, taken, out⟩ :=
      take_apply sound.tiled fits (le_roundUp size) used room further
    refine Or.inr (Or.inr ⟨zero, Nat.le_of_not_lt large, front, block, back, after, rfl, rfl, out,
      Action.bind_steps (Action.get_apply heap) ?_⟩)
    rw [if_neg zero, if_neg large, answer, chosen]
    exact Action.bind_steps (Action.ask_apply _ heap) taken

end Heap

end MiniKernel
