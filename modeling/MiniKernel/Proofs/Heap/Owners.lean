/-
**What a change of the heap means to the owners of its blocks.**

A heap changes in four ways: a block is handed out (`Heap.HandedOut`), taken back
(`Heap.TakenBack`), kept for another size (`Heap.Resized`), or has bytes of its payload written
(`Heap.Rewritten`).

* `Heap.Alike` — a handle stands for the same block with the same bytes in two heaps. Each of the
  four changes leaves every handle but its own alike (`HandedOut.alike` and so on).
* `Heap.Regular` — a sound heap whose blocks are all as the heap itself makes them. Each of the four
  changes keeps a regular heap regular (`HandedOut.regular` and so on).
-/

import MiniKernel.Heap.Payload
import MiniKernel.Proofs.Heap.Merging

namespace MiniKernel

-- A written header is known by its lemmas only.
seal Arena.setHeader

/-! ### Handles and what they stand for -/

/-- **The handle stands for the same block with the same bytes, or is refused, in both heaps.** -/
structure Heap.Alike (before after : Heap) (handle : Handle) : Prop where
  located : after.locate handle = before.locate handle
  contents : after.payload handle = before.payload handle

namespace Heap

variable {heap before middle after : Heap} {block : Block} {blocks later : List Block}
  {handle : Handle} {region : Set Nat}

theorem offset_ne {offset : Nat} (apart : handle ≠ ⟨offset⟩) : handle.offset ≠ offset := by
  rintro rfl
  exact apart rfl

theorem Alike.trans (first : before.Alike middle handle) (second : middle.Alike after handle) :
    before.Alike after handle :=
  ⟨second.located.trans first.located, second.contents.trans first.contents⟩

/-- **A handle is accepted exactly when it is the aligned payload of a live block.** -/
theorem locate_eq_ok_iff (tiled : heap.arena.Tiled blocks) :
    heap.locate handle = .ok block ↔
      block ∈ liveBlocks blocks ∧ block.payload = handle.offset ∧ handle.offset % alignment = 0 := by
  constructor
  · intro located
    obtain ⟨member, live, same⟩ := mem_of_locate tiled located
    refine ⟨mem_liveBlocks.mpr ⟨member, live⟩, same, ?_⟩
    by_contra skewed
    unfold locate at located
    rw [if_neg fun shaped => skewed shaped.1] at located
    cases located
  · rintro ⟨member, same, aligned⟩
    obtain ⟨member, live⟩ := mem_liveBlocks.mp member
    have known : handle = ⟨block.payload⟩ := by rw [same]
    rw [known]
    exact locate_of_live tiled member live (by rw [same]; exact aligned)

theorem locate_eq_refuse (tiled : heap.arena.Tiled blocks)
    (unowned : ∀ block ∈ liveBlocks blocks, block.payload ≠ handle.offset) :
    heap.locate handle = .refuse .invalidAddress := by
  rcases locate_cases tiled handle with ⟨block, member, live, same, _⟩ | refused
  · exact absurd same (unowned block (mem_liveBlocks.mpr ⟨member, live⟩))
  · exact refused

/-- The contents behind a handle that is accepted. -/
theorem payload_of_locate (tiled : heap.arena.Tiled blocks)
    (located : heap.locate handle = .ok block) :
    heap.payload handle = .ok (heap.arena.slice handle.offset block.size) := by
  obtain ⟨member, _, same⟩ := mem_of_locate tiled located
  have bound := tiled.bounds member
  rw [block.stop_eq, ← block.payload_eq, same] at bound
  unfold payload
  simp only [located, bind, Except.bind, Arena.rangeFault?, if_pos bound]
  rfl

theorem payload_of_refuse (refused : heap.locate handle = .refuse .invalidAddress) :
    heap.payload handle = .refuse .invalidAddress := by
  unfold payload
  rw [refused]
  rfl

/-- **A change off the block behind a handle that keeps its place in the list.** -/
theorem alike_of_changedIn (tiled : before.arena.Tiled blocks) (changes : after.arena.Tiled later)
    (changed : Arena.ChangedIn region before.arena after.arena)
    (same : ∀ block, block.payload = handle.offset →
      (block ∈ liveBlocks later ↔ block ∈ liveBlocks blocks))
    (off : ∀ block ∈ liveBlocks blocks, block.payload = handle.offset →
      ∀ offset ∈ region, offset < block.payload ∨ block.stop ≤ offset) :
    before.Alike after handle := by
  rcases locate_cases tiled handle with ⟨block, member, live, there, located⟩ | refused
  · obtain ⟨owned, _, aligned⟩ := (locate_eq_ok_iff tiled).mp located
    have still : after.locate handle = .ok block :=
      (locate_eq_ok_iff changes).mpr ⟨(same block there).mpr owned, there, aligned⟩
    refine ⟨still.trans located.symm, ?_⟩
    rw [payload_of_locate changes still, payload_of_locate tiled located]
    congr 1
    refine changed.slice fun step low inside => ?_
    have apart := off block owned there _ inside
    rw [block.stop_eq, ← block.payload_eq, there] at apart
    omega
  · have still : after.locate handle = .refuse .invalidAddress := by
      rcases locate_cases changes handle with ⟨block, member, live, there, located⟩ | still
      · obtain ⟨owned, _, aligned⟩ := (locate_eq_ok_iff changes).mp located
        rw [(locate_eq_ok_iff tiled).mpr ⟨(same block there).mp owned, there, aligned⟩] at refused
        cases refused
      · exact still
    exact ⟨still.trans refused.symm,
      (payload_of_refuse still).trans (payload_of_refuse refused).symm⟩

end Heap

/-! ### Two more changes -/

/-- The block kept for an owner that now asks for `size` bytes. -/
def Block.resized (block : Block) (size : Nat) : Block := { block with requested := size }

/-- **`after` is `before` with `block` kept for an owner that now asks for `size` bytes.** -/
structure Heap.Resized (before : Heap) (front : List Block) (block : Block) (back : List Block)
    (size : Nat) (after : Heap) : Prop where
  tiled : after.arena.Tiled (front ++ block.resized size :: back)
  changed : Arena.ChangedIn (Set.Ico block.offset block.payload) before.arena after.arena
  counters : after = { before with arena := after.arena }

/-- **`after` is `before` with other bytes in the payload of `block` at most.** -/
structure Heap.Rewritten (before : Heap) (block : Block) (after : Heap) : Prop where
  changed : Arena.ChangedIn (Set.Ico block.payload block.stop) before.arena after.arena
  counters : after = { before with arena := after.arena }

namespace Heap

variable {heap after : Heap} {block : Block} {blocks front back : List Block} {handle : Handle}
  {wanted size : Nat}

theorem Resized.sound (resized : heap.Resized front block back size after)
    (sound : heap.Sound (front ++ block :: back)) (live : block.isFree = false) :
    after.Sound (front ++ block.resized size :: back) := by
  have still : (block.resized size).isFree = false := live
  have used := sound.used
  have free := sound.free
  rw [liveBlocks_append, liveBlocks_cons_live live] at used
  rw [freeBlocks_append, freeBlocks_cons_live live] at free
  refine ⟨resized.tiled, ?_, ?_, ?_⟩
  · obtain ⟨ahead, behind, between⟩ := List.isChain_append.mp sound.spaced
    obtain ⟨follows, behind⟩ := List.isChain_cons.mp behind
    refine List.isChain_append.mpr ⟨ahead, List.isChain_cons.mpr ⟨follows, behind⟩, ?_⟩
    intro last inside head member
    cases member
    exact between last inside block rfl
  · rw [resized.counters, liveBlocks_append, liveBlocks_cons_live still]
    simp only [used, spanSum_append, spanSum_cons]
    rfl
  · rw [resized.counters, freeBlocks_append, freeBlocks_cons_live still]
    exact free

theorem Rewritten.sound (rewritten : heap.Rewritten block after) (sound : heap.Sound blocks)
    (member : block ∈ blocks) : after.Sound blocks := by
  refine ⟨sound.tiled.rewritten member rewritten.changed, sound.spaced, ?_, ?_⟩
  · rw [rewritten.counters]
    exact sound.used
  · rw [rewritten.counters]
    exact sound.free

/-! ### Every other handle stays -/

theorem HandedOut.alike (out : heap.HandedOut front block back wanted size after)
    (sound : heap.Sound (front ++ block :: back)) (free : block.isFree = true)
    (other : handle.offset ≠ block.payload) : heap.Alike after handle := by
  refine alike_of_changedIn sound.tiled out.tiled out.changed (fun owned there => ?_)
    fun owned inside there offset within => ?_
  · have others : owned ≠ block.handed wanted size := by
      rintro rfl
      rw [Block.payload_handed] at there
      exact other there.symm
    rw [mem_liveBlocks_carve free, or_iff_left others]
  · obtain ⟨member, live⟩ := mem_liveBlocks.mp inside
    have here : block ∈ front ++ block :: back := by simp
    rcases sound.tiled.tiles.apart member here with rfl | ahead | behind
    · rw [free] at live
      cases live
    · exact Or.inr (ahead.trans within.1)
    · refine Or.inl (lt_of_lt_of_le within.2 (behind.trans ?_))
      exact Nat.le_add_right _ _

theorem TakenBack.alike (back_again : heap.TakenBack front block back after)
    (sound : heap.Sound (front ++ block :: back)) (live : block.isFree = false)
    (other : handle.offset ≠ block.payload) : heap.Alike after handle := by
  refine alike_of_changedIn sound.tiled back_again.tiled back_again.changed
    (fun owned there => ?_) fun owned inside there offset within => ?_
  · rw [mem_liveBlocks_vacated sound.tiled.tiles, there, and_iff_left other]
  · obtain ⟨member, owned_live⟩ := mem_liveBlocks.mp inside
    obtain ⟨vacant, among, vacant_free, low, high⟩ := within
    -- a free block of the new list stands where a block of the old one other than `owned` stood
    have apart : owned.stop ≤ vacant.offset ∨ vacant.stop ≤ owned.offset := by
      by_cases here : vacant = block.vacated
      · have held : block ∈ front ++ block :: back := by simp
        rcases sound.tiled.tiles.apart member held with rfl | apart
        · exact absurd there.symm other
        · rw [here]
          exact apart
      · have before : vacant ∈ front ++ block :: back := by
          simp only [List.mem_append, List.mem_cons] at among ⊢
          rcases among with ahead | rfl | behind
          · exact Or.inl ahead
          · exact absurd rfl here
          · exact Or.inr (Or.inr behind)
        rcases sound.tiled.tiles.apart member before with rfl | apart
        · rw [owned_live] at vacant_free
          cases vacant_free
        · exact apart
    rcases apart with ahead | behind
    · exact Or.inr (ahead.trans low)
    · exact Or.inl (lt_of_lt_of_le high (behind.trans (Nat.le_add_right _ _)))

theorem Resized.alike (resized : heap.Resized front block back size after)
    (sound : heap.Sound (front ++ block :: back)) (live : block.isFree = false)
    (other : handle.offset ≠ block.payload) : heap.Alike after handle := by
  have still : (block.resized size).isFree = false := live
  refine alike_of_changedIn sound.tiled resized.tiled resized.changed (fun owned there => ?_)
    fun owned inside there offset within => ?_
  · have others : owned ≠ block := by
      rintro rfl
      exact other there.symm
    have resized_others : owned ≠ block.resized size := by
      rintro rfl
      exact other there.symm
    rw [liveBlocks_append, liveBlocks_append, liveBlocks_cons_live still,
      liveBlocks_cons_live live]
    simp [others, resized_others]
  · obtain ⟨member, _⟩ := mem_liveBlocks.mp inside
    have here : block ∈ front ++ block :: back := by simp
    have within_block : offset < block.stop := by
      refine lt_of_lt_of_le within.2 ?_
      rw [block.stop_eq, block.payload_eq]
      omega
    rcases sound.tiled.tiles.apart member here with rfl | ahead | behind
    · exact absurd there.symm other
    · exact Or.inr (ahead.trans within.1)
    · exact Or.inl (lt_of_lt_of_le within_block (behind.trans (Nat.le_add_right _ _)))

theorem Rewritten.alike (rewritten : heap.Rewritten block after) (sound : heap.Sound blocks)
    (member : block ∈ blocks) (other : handle.offset ≠ block.payload) :
    heap.Alike after handle := by
  refine alike_of_changedIn sound.tiled (rewritten.sound sound member).tiled rewritten.changed
    (fun owned there => Iff.rfl) fun owned inside there offset within => ?_
  obtain ⟨owned_member, _⟩ := mem_liveBlocks.mp inside
  rcases sound.tiled.tiles.apart owned_member member with rfl | ahead | behind
  · exact absurd there.symm other
  · exact Or.inr (ahead.trans ((Nat.le_add_right _ _).trans within.1))
  · exact Or.inl (lt_of_lt_of_le within.2 (behind.trans (Nat.le_add_right _ _)))

end Heap

/-! ### Heaps as the heap itself makes them -/

/-- **A block as the heap makes it.** -/
structure Block.Tidy (block : Block) : Prop where
  aligned : block.size % alignment = 0
  flags : block.flags < 2
  vacant : block.isFree = true → block.requested = 0
  held : block.isFree = false → 0 < block.requested ∧ block.requested ≤ block.size

/-- **A sound heap of tidy blocks** that has counted every block handed out and taken back. -/
structure Heap.Regular (heap : Heap) (blocks : List Block) : Prop extends heap.Sound blocks where
  tidy : ∀ block ∈ blocks, block.Tidy
  counted : heap.allocations = heap.releases + (liveBlocks blocks).length

section Tidiness

variable {block follower : Block} {wanted size length start stop : Nat} {blocks : List Block}

theorem Block.Tidy.handed (tidy : block.Tidy) (rounded : wanted % alignment = 0)
    (positive : 0 < size) (within : size ≤ wanted) (fits : wanted ≤ block.size) :
    (block.handed wanted size).Tidy := by
  have flags := tidy.flags
  refine ⟨?_, ?_, fun handed_free => ?_, fun _ => ?_⟩
  · unfold Block.handed
    split
    · exact rounded
    · exact tidy.aligned
  · rw [Block.flags_handed]
    omega
  · rw [Block.isFree_handed] at handed_free
    cases handed_free
  · rw [Block.requested_handed]
    exact ⟨positive, within.trans (Block.size_handed size fits).1⟩

theorem Block.Tidy.leftover (tidy : block.Tidy) (rounded : wanted % alignment = 0) :
    ∀ rest ∈ block.leftover wanted, rest.Tidy := by
  intro rest member
  unfold Block.leftover at member
  split at member
  · rw [List.mem_singleton.mp member]
    have aligned := tidy.aligned
    refine ⟨?_, (by decide : 1 < 2), fun _ => rfl, fun live => by cases live⟩
    show (block.size - wanted - headerBytes) % alignment = 0
    rw [alignment] at aligned rounded ⊢
    rw [headerBytes]
    omega
  · cases member

theorem Block.Tidy.vacated (tidy : block.Tidy) : block.vacated.Tidy := by
  have flags := tidy.flags
  refine ⟨tidy.aligned, ?_, fun _ => rfl, fun live => ?_⟩
  · show block.flags / 2 * 2 + 1 < 2
    omega
  · rw [Block.isFree_vacated] at live
    cases live

theorem Block.Tidy.absorb (tidy : block.Tidy) (free : block.isFree = true)
    (follower_tidy : follower.Tidy) : (block.absorb follower).Tidy := by
  have aligned := tidy.aligned
  have follower_aligned := follower_tidy.aligned
  refine ⟨?_, tidy.flags, tidy.vacant, fun live => ?_⟩
  · show (block.size + (headerBytes + follower.size)) % alignment = 0
    rw [alignment] at aligned follower_aligned ⊢
    rw [headerBytes]
    omega
  · rw [Block.isFree_absorb, free] at live
    cases live

/-- Blocks whose sizes are all aligned stand at aligned offsets. -/
theorem Tiles.aligned (tiles : Tiles length start blocks stop) (tidy : ∀ block ∈ blocks, block.Tidy)
    (opens : start % alignment = 0) : ∀ block ∈ blocks, block.payload % alignment = 0 := by
  induction blocks generalizing start with
  | nil => exact fun block member => absurd member List.not_mem_nil
  | cons head rest ih =>
    obtain ⟨rfl, _, tiles⟩ := tiles
    have size := (tidy head List.mem_cons_self).aligned
    rw [alignment] at opens size ⊢
    intro block member
    rcases List.mem_cons.mp member with rfl | later
    · rw [block.payload_eq]
      omega
    · refine ih tiles (fun inner inside => tidy inner (List.mem_cons_of_mem _ inside)) ?_ block later
      rw [head.stop_eq, alignment]
      omega

end Tidiness

/-- The arena as one free block. -/
def Arena.whole (arena : Arena) : Block where
  offset := 0
  size := arena.size - headerBytes
  next := endOfChain
  flags := 1
  requested := 0

namespace Heap

variable {heap after : Heap} {block : Block} {blocks front back : List Block} {handle : Handle}
  {wanted size : Nat}

theorem Regular.aligned (regular : heap.Regular blocks) (member : block ∈ blocks) :
    block.payload % alignment = 0 :=
  regular.tiled.tiles.aligned regular.tidy rfl block member

/-- A handle is accepted by a regular heap exactly when it is the payload of a live block. -/
theorem Regular.locate_eq_ok_iff (regular : heap.Regular blocks) :
    heap.locate handle = .ok block ↔ block ∈ liveBlocks blocks ∧ block.payload = handle.offset := by
  rw [Heap.locate_eq_ok_iff regular.tiled]
  constructor
  · exact fun ⟨member, same, _⟩ => ⟨member, same⟩
  · rintro ⟨member, same⟩
    refine ⟨member, same, ?_⟩
    rw [← same]
    exact regular.aligned (mem_liveBlocks.mp member).1

/-- A heap whose arena is one free block is regular. -/
theorem regular_whole (arena : Arena) : (ofArena arena).Regular [arena.whole] := by
  have large : 32 ≤ arena.size := arena.size_ge
  have small := arena.size_lt
  have aligned : arena.size % 8 = 0 := arena.size_aligned
  have stop : arena.whole.stop = arena.size := by
    rw [arena.whole.stop_eq]
    show 0 + 16 + (arena.size - 16) = arena.size
    omega
  have fits : arena.whole.toHeader.Fits := by
    refine ⟨?_, (by decide : endOfChain < wordLimit), (by decide : 1 < wordLimit),
      (by decide : 0 < wordLimit)⟩
    exact lt_of_le_of_lt (Nat.sub_le _ _) small
  have inside : 0 + headerBytes ≤ arena.size := by
    rw [headerBytes]
    omega
  have span : arena.whole.span = arena.size := by
    show 16 + (arena.size - 16) = arena.size
    omega
  refine ⟨⟨⟨⟨rfl, ?_, ?_⟩, fun block member => ?_⟩, List.isChain_singleton _, rfl, ?_⟩,
    fun block member => ?_, rfl⟩
  · show endOfChain = linkAt (arena.setHeader 0 arena.whole.toHeader).size arena.whole.stop
    rw [stop, Arena.size_setHeader, linkAt, if_pos rfl]
  · show arena.whole.stop = (arena.setHeader 0 arena.whole.toHeader).size
    rw [stop, Arena.size_setHeader]
  · rw [List.mem_singleton.mp member]
    exact Arena.header_setHeader_of_fits inside fits
  · rw [freeBlocks_cons_free (show arena.whole.isFree = true from rfl), spanSum_cons, span]
    rfl
  · rw [List.mem_singleton.mp member]
    refine ⟨?_, (by decide : 1 < 2), fun _ => rfl, fun live => by cases live⟩
    show (arena.size - 16) % 8 = 0
    omega

theorem regular_ofArena (arena : Arena) : ∃ blocks, (ofArena arena).Regular blocks :=
  ⟨[arena.whole], regular_whole arena⟩

/-! ### Each change and its own handle -/

theorem HandedOut.regular (out : heap.HandedOut front block back (roundUp size) size after)
    (regular : heap.Regular (front ++ block :: back)) (free : block.isFree = true)
    (positive : size ≠ 0) (fits : roundUp size ≤ block.size) :
    after.Regular (front ++ block.carve (roundUp size) size ++ back) := by
  have tidy := regular.tidy block (by simp)
  have counted := regular.counted
  have rounded : roundUp size % alignment = 0 := Nat.mul_mod_left _ _
  refine ⟨out.sound regular.toSound free, fun member inside => ?_, ?_⟩
  · simp only [Block.carve, List.mem_append, List.mem_cons] at inside
    rcases inside with (ahead | rfl | rest) | behind
    · exact regular.tidy member (by simp [ahead])
    · exact tidy.handed rounded (Nat.pos_of_ne_zero positive) (le_roundUp size) fits
    · exact tidy.leftover rounded member rest
    · exact regular.tidy member (by simp [behind])
  · rw [liveBlocks_append, liveBlocks_cons_free free, List.length_append] at counted
    rw [out.allocations, out.releases, counted, liveBlocks_append, liveBlocks_append,
      liveBlocks_carve, List.length_append, List.length_append, List.length_singleton]
    omega

/-- The handle was refused before. -/
theorem refused_of_free (sound : heap.Sound (front ++ block :: back)) (free : block.isFree = true) :
    heap.locate ⟨block.payload⟩ = .refuse .invalidAddress :=
  locate_eq_refuse sound.tiled fun _ owned => sound.tiled.tiles.payload_ne (by simp) free owned

/-- No handle that is accepted leads into a free block. -/
theorem ne_of_free {old : Block} (sound : heap.Sound (front ++ block :: back))
    (free : block.isFree = true) (located : heap.locate handle = .ok old) :
    handle ≠ ⟨block.payload⟩ := by
  rintro rfl
  rw [refused_of_free sound free] at located
  cases located

theorem HandedOut.located (out : heap.HandedOut front block back wanted size after)
    (regular : heap.Regular (front ++ block :: back)) :
    after.locate ⟨block.payload⟩ = .ok (block.handed wanted size) := by
  refine (locate_eq_ok_iff out.tiled).mpr ⟨?_, ?_, regular.aligned (by simp)⟩
  · rw [liveBlocks_append, liveBlocks_append, liveBlocks_carve]
    simp
  · exact block.payload_handed wanted size

theorem TakenBack.regular (back_again : heap.TakenBack front block back after)
    (regular : heap.Regular (front ++ block :: back)) (live : block.isFree = false) :
    after.Regular (merged (front ++ block.vacated :: back)) := by
  have counted := regular.counted
  refine ⟨back_again.sound regular.toSound live, ?_, ?_⟩
  · refine forall_mem_merged (fun first second free _ first_tidy second_tidy =>
      first_tidy.absorb free second_tidy) fun member inside => ?_
    rcases List.mem_append.mp inside with ahead | here
    · exact regular.tidy member (by simp [ahead])
    · rcases List.mem_cons.mp here with rfl | behind
      · exact (regular.tidy block (by simp)).vacated
      · exact regular.tidy member (by simp [behind])
  · rw [liveBlocks_append, liveBlocks_cons_live live, List.length_append, List.length_cons]
      at counted
    rw [back_again.allocations, back_again.releases, counted, liveBlocks_merged,
      liveBlocks_append, liveBlocks_cons_free block.isFree_vacated, List.length_append]
    omega

theorem TakenBack.refused (back_again : heap.TakenBack front block back after)
    (sound : heap.Sound (front ++ block :: back)) :
    after.locate ⟨block.payload⟩ = .refuse .invalidAddress := by
  refine locate_eq_refuse back_again.tiled fun owned inside same => ?_
  exact ((mem_liveBlocks_vacated sound.tiled.tiles).mp inside).2 same

theorem Resized.regular (resized : heap.Resized front block back size after)
    (regular : heap.Regular (front ++ block :: back)) (live : block.isFree = false)
    (positive : size ≠ 0) (fits : size ≤ block.size) :
    after.Regular (front ++ block.resized size :: back) := by
  have still : (block.resized size).isFree = false := live
  have counted := regular.counted
  refine ⟨resized.sound regular.toSound live, fun member inside => ?_, ?_⟩
  · rcases List.mem_append.mp inside with ahead | here
    · exact regular.tidy member (by simp [ahead])
    · rcases List.mem_cons.mp here with rfl | behind
      · have tidy := regular.tidy block (by simp)
        refine ⟨tidy.aligned, tidy.flags, fun free => ?_, fun _ => ?_⟩
        · rw [still] at free
          cases free
        · exact ⟨Nat.pos_of_ne_zero positive, fits⟩
      · exact regular.tidy member (by simp [behind])
  · rw [liveBlocks_append, liveBlocks_cons_live live, List.length_append, List.length_cons]
      at counted
    rw [resized.counters, liveBlocks_append, liveBlocks_cons_live still, List.length_append,
      List.length_cons]
    exact counted

/-- The owner finds the same bytes. -/
theorem Resized.kept (resized : heap.Resized front block back size after)
    (located : heap.locate handle = .ok block)
    (sound : heap.Sound (front ++ block :: back)) :
    after.locate handle = .ok (block.resized size) ∧ after.payload handle = heap.payload handle := by
  obtain ⟨owned, there, aligned⟩ := (locate_eq_ok_iff sound.tiled).mp located
  obtain ⟨_, live⟩ := mem_liveBlocks.mp owned
  have still : after.locate handle = .ok (block.resized size) := by
    refine (locate_eq_ok_iff resized.tiled).mpr ⟨?_, there, aligned⟩
    exact mem_liveBlocks.mpr ⟨by simp, live⟩
  refine ⟨still, ?_⟩
  rw [payload_of_locate resized.tiled still, payload_of_locate sound.tiled located]
  congr 1
  refine resized.changed.slice fun step _ => ?_
  rw [Set.mem_Ico, ← there]
  omega

theorem Rewritten.located (rewritten : heap.Rewritten block after) (sound : heap.Sound blocks)
    (member : block ∈ blocks) (handle : Handle) : after.locate handle = heap.locate handle := by
  unfold locate
  rw [sound.tiled.chain_eq, (rewritten.sound sound member).tiled.chain_eq]

theorem Rewritten.regular (rewritten : heap.Rewritten block after) (regular : heap.Regular blocks)
    (member : block ∈ blocks) : after.Regular blocks := by
  refine ⟨rewritten.sound regular.toSound member, regular.tidy, ?_⟩
  rw [rewritten.counters]
  exact regular.counted

end Heap

end MiniKernel
