/-
**Lists of blocks that tile a stretch of the arena.**

This is the heap without its bytes: what the chain says, as a list.

* `Tiles length start blocks stop` — the blocks stand one right after another from `start` to `stop`,
  each linked to where it ends. `Tiles.append` cuts a tiling in two, `Tiles.bounds` and
  `Tiles.apart` keep its blocks inside the stretch and off each other.
* `spanSum`, `liveBlocks`, `freeBlocks` — what the counters of a heap are sums over.
* `merged blocks` — every run of free neighbours merged into its first block. The live blocks stay as
  they are (`liveBlocks_mergeFrom`), no two free neighbours are left (`mergeFrom_spaced`) and the
  free blocks take as many bytes as before (`spanSum_freeBlocks_mergeFrom`).
-/

import Mathlib.Data.List.Chain
import Mathlib.Order.Interval.Set.Basic
import MiniKernel.Heap.Chain

namespace MiniKernel

/-! ### Tilings -/

/-- The link of a block that ends at `stop`, in an arena of `length` bytes. -/
def linkAt (length stop : Nat) : Nat := if stop = length then endOfChain else stop

/-- **The blocks fill the stretch from `start` to `stop`**, each linked to where it ends. -/
def Tiles (length : Nat) : Nat → List Block → Nat → Prop
  | start, [], stop => start = stop
  | start, block :: rest, stop =>
    block.offset = start ∧ block.next = linkAt length block.stop ∧
      Tiles length block.stop rest stop

theorem Block.stop_eq (block : Block) : block.stop = block.offset + 16 + block.size := by
  show block.offset + (16 + block.size) = _
  omega

theorem Block.payload_eq (block : Block) : block.payload = block.offset + 16 := rfl

namespace Tiles

variable {length start stop : Nat} {block : Block} {blocks front back : List Block}

/-- A tiling of two lists is a tiling of each with a common border. -/
theorem append : Tiles length start (front ++ back) stop ↔
    ∃ border, Tiles length start front border ∧ Tiles length border back stop := by
  induction front generalizing start with
  | nil =>
    constructor
    · exact fun tiles => ⟨start, rfl, tiles⟩
    · rintro ⟨border, rfl, tiles⟩
      exact tiles
  | cons block rest ih =>
    constructor
    · rintro ⟨stands, linked, tiles⟩
      obtain ⟨border, first, second⟩ := ih.mp tiles
      exact ⟨border, ⟨stands, linked, first⟩, second⟩
    · rintro ⟨border, ⟨stands, linked, first⟩, second⟩
      exact ⟨stands, linked, ih.mpr ⟨border, first, second⟩⟩

/-- A tiling around one of its blocks. -/
theorem around (tiles : Tiles length start (front ++ block :: back) stop) :
    Tiles length start front block.offset ∧ block.next = linkAt length block.stop ∧
      Tiles length block.stop back stop := by
  obtain ⟨border, first, stands, linked, second⟩ := append.mp tiles
  subst stands
  exact ⟨first, linked, second⟩

/-- Every block takes at least its header. -/
theorem length_le (tiles : Tiles length start blocks stop) :
    start + 16 * blocks.length ≤ stop := by
  induction blocks generalizing start with
  | nil => exact le_of_eq tiles
  | cons block rest ih =>
    obtain ⟨rfl, _, tiles⟩ := tiles
    have further := ih tiles
    rw [block.stop_eq] at further
    rw [List.length_cons]
    omega

theorem le (tiles : Tiles length start blocks stop) : start ≤ stop :=
  le_trans (Nat.le_add_right _ _) tiles.length_le

/-- The blocks stay inside the stretch. -/
theorem bounds (tiles : Tiles length start blocks stop) (member : block ∈ blocks) :
    start ≤ block.offset ∧ block.stop ≤ stop := by
  obtain ⟨front, back, rfl⟩ := List.append_of_mem member
  obtain ⟨first, _, second⟩ := tiles.around
  exact ⟨first.le, second.le⟩

/-- Two blocks are the same or do not meet. -/
theorem apart {other : Block} (tiles : Tiles length start blocks stop) (member : block ∈ blocks)
    (inside : other ∈ blocks) :
    block = other ∨ block.stop ≤ other.offset ∨ other.stop ≤ block.offset := by
  induction blocks generalizing start with
  | nil => cases member
  | cons head rest ih =>
    obtain ⟨_, _, tiles⟩ := tiles
    rcases List.mem_cons.mp member with rfl | later
    · rcases List.mem_cons.mp inside with rfl | within
      · exact Or.inl rfl
      · exact Or.inr (Or.inl (tiles.bounds within).1)
    · rcases List.mem_cons.mp inside with rfl | within
      · exact Or.inr (Or.inr (tiles.bounds later).1)
      · exact ih tiles later within

/-- A block is known by its offset. -/
theorem eq_of_offset {other : Block} (tiles : Tiles length start blocks stop)
    (member : block ∈ blocks) (inside : other ∈ blocks) (same : block.offset = other.offset) :
    block = other := by
  rcases tiles.apart member inside with equal | before | after
  · exact equal
  · rw [block.stop_eq] at before
    omega
  · rw [other.stop_eq] at after
    omega

/-- No block stands twice in a tiling. -/
theorem nodup (tiles : Tiles length start blocks stop) : blocks.Nodup := by
  induction blocks generalizing start with
  | nil => exact List.nodup_nil
  | cons block rest ih =>
    obtain ⟨_, _, tiles⟩ := tiles
    refine List.nodup_cons.mpr ⟨fun member => ?_, ih tiles⟩
    have after := (tiles.bounds member).1
    rw [block.stop_eq] at after
    omega

end Tiles

/-! ### What the counters count -/

/-- Header and payload bytes of all the blocks. -/
def spanSum : List Block → Nat
  | [] => 0
  | block :: rest => block.span + spanSum rest

/-- The blocks that have an owner. -/
def liveBlocks (blocks : List Block) : List Block := blocks.filter fun block => !block.isFree

/-- The blocks that have none. -/
def freeBlocks (blocks : List Block) : List Block := blocks.filter fun block => block.isFree

section Sums

variable {block : Block} {front back blocks : List Block}

@[simp] theorem spanSum_nil : spanSum [] = 0 := rfl

@[simp] theorem spanSum_cons (block : Block) (rest : List Block) :
    spanSum (block :: rest) = block.span + spanSum rest := rfl

@[simp] theorem spanSum_append (front back : List Block) :
    spanSum (front ++ back) = spanSum front + spanSum back := by
  induction front with
  | nil => rw [List.nil_append, spanSum_nil, Nat.zero_add]
  | cons block rest ih => rw [List.cons_append, spanSum_cons, spanSum_cons, ih, Nat.add_assoc]

@[simp] theorem liveBlocks_nil : liveBlocks [] = [] := rfl

@[simp] theorem liveBlocks_append (front back : List Block) :
    liveBlocks (front ++ back) = liveBlocks front ++ liveBlocks back :=
  List.filter_append ..

theorem liveBlocks_cons_live (live : block.isFree = false) (rest : List Block) :
    liveBlocks (block :: rest) = block :: liveBlocks rest :=
  List.filter_cons_of_pos (by simp [live])

theorem liveBlocks_cons_free (free : block.isFree = true) (rest : List Block) :
    liveBlocks (block :: rest) = liveBlocks rest :=
  List.filter_cons_of_neg (by simp [free])

theorem mem_liveBlocks : block ∈ liveBlocks blocks ↔ block ∈ blocks ∧ block.isFree = false := by
  simp [liveBlocks]

/-- No live block of a tiling stands where a free one does. -/
theorem Tiles.payload_ne {length start stop : Nat} {member : Block}
    (tiles : Tiles length start blocks stop) (inside : block ∈ blocks) (free : block.isFree = true)
    (owned : member ∈ liveBlocks blocks) : member.payload ≠ block.payload := by
  intro same
  obtain ⟨among, live⟩ := mem_liveBlocks.mp owned
  rw [tiles.eq_of_offset among inside (Nat.add_right_cancel same), free] at live
  cases live

@[simp] theorem freeBlocks_nil : freeBlocks [] = [] := rfl

@[simp] theorem freeBlocks_append (front back : List Block) :
    freeBlocks (front ++ back) = freeBlocks front ++ freeBlocks back :=
  List.filter_append ..

theorem freeBlocks_cons_live (live : block.isFree = false) (rest : List Block) :
    freeBlocks (block :: rest) = freeBlocks rest :=
  List.filter_cons_of_neg (by simp [live])

theorem freeBlocks_cons_free (free : block.isFree = true) (rest : List Block) :
    freeBlocks (block :: rest) = block :: freeBlocks rest :=
  List.filter_cons_of_pos (by simp [free])

theorem spanSum_liveBlocks_cons (block : Block) (rest : List Block) :
    spanSum (liveBlocks (block :: rest)) =
      spanSum (liveBlocks [block]) + spanSum (liveBlocks rest) := by
  rw [← spanSum_append, ← liveBlocks_append, List.singleton_append]

theorem spanSum_freeBlocks_cons (block : Block) (rest : List Block) :
    spanSum (freeBlocks (block :: rest)) =
      spanSum (freeBlocks [block]) + spanSum (freeBlocks rest) := by
  rw [← spanSum_append, ← freeBlocks_append, List.singleton_append]

/-- Every block is live or free. -/
theorem spanSum_live_add_free (blocks : List Block) :
    spanSum (liveBlocks blocks) + spanSum (freeBlocks blocks) = spanSum blocks := by
  induction blocks with
  | nil => rfl
  | cons block rest ih =>
    rw [spanSum_cons]
    cases free : block.isFree with
    | true =>
      rw [liveBlocks_cons_free free, freeBlocks_cons_free free, spanSum_cons]
      omega
    | false =>
      rw [liveBlocks_cons_live free, freeBlocks_cons_live free, spanSum_cons]
      omega

/-- The spans of a tiling are the stretch. -/
theorem Tiles.spanSum_eq {length start stop : Nat} (tiles : Tiles length start blocks stop) :
    start + spanSum blocks = stop := by
  induction blocks generalizing start with
  | nil => exact tiles
  | cons block rest ih =>
    obtain ⟨rfl, _, tiles⟩ := tiles
    have further : block.offset + block.span + spanSum rest = stop := ih tiles
    rw [spanSum_cons]
    omega

end Sums

/-! ### Free neighbours -/

/-- No two free blocks are neighbours. -/
def Spaced (blocks : List Block) : Prop :=
  blocks.IsChain fun block follower => block.isFree = true → follower.isFree = false

/-- The block grown by the one right behind it. -/
def Block.absorb (block follower : Block) : Block :=
  { block with size := block.size + (headerBytes + follower.size), next := follower.next }

/-- `block` and the blocks behind it, every run of free neighbours merged into its first block. -/
def mergeFrom : Block → List Block → List Block
  | block, [] => [block]
  | block, follower :: rest =>
    if block.isFree && follower.isFree then mergeFrom (block.absorb follower) rest
    else block :: mergeFrom follower rest

/-- The blocks, every run of free neighbours merged into its first block. -/
def merged : List Block → List Block
  | [] => []
  | block :: rest => mergeFrom block rest

/-- The bytes of the free blocks, headers included. -/
def freeRegion (blocks : List Block) : Set Nat :=
  {offset | ∃ block ∈ blocks, block.isFree = true ∧ block.offset ≤ offset ∧ offset < block.stop}

section Merging

variable {block follower : Block} {rest : List Block}

@[simp] theorem Block.isFree_absorb (block follower : Block) :
    (block.absorb follower).isFree = block.isFree := rfl

@[simp] theorem Block.offset_absorb (block follower : Block) :
    (block.absorb follower).offset = block.offset := rfl

theorem Block.stop_absorb (adjacent : follower.offset = block.stop) :
    (block.absorb follower).stop = follower.stop := by
  rw [follower.stop_eq, adjacent, block.stop_eq]
  show block.offset + (16 + (block.size + (16 + follower.size))) = _
  omega

theorem Block.span_absorb (block follower : Block) :
    (block.absorb follower).span = block.span + follower.span := by
  show 16 + (block.size + (16 + follower.size)) = 16 + block.size + (16 + follower.size)
  omega

theorem mergeFrom_both (free : block.isFree = true) (next_free : follower.isFree = true) :
    mergeFrom block (follower :: rest) = mergeFrom (block.absorb follower) rest := by
  simp [mergeFrom, free, next_free]

theorem mergeFrom_else (apart : (block.isFree && follower.isFree) = false) :
    mergeFrom block (follower :: rest) = block :: mergeFrom follower rest := by
  simp [mergeFrom, apart]

/-- The merged list still opens at the same offset, with a block that is free or not as before. -/
theorem mergeFrom_head (block : Block) (rest : List Block) : ∃ head tail,
    mergeFrom block rest = head :: tail ∧ head.isFree = block.isFree ∧
      head.offset = block.offset := by
  induction rest generalizing block with
  | nil => exact ⟨block, [], rfl, rfl, rfl⟩
  | cons follower rest ih =>
    cases both : block.isFree && follower.isFree with
    | true =>
      obtain ⟨free, next_free⟩ := Bool.and_eq_true_iff.mp both
      rw [mergeFrom_both free next_free]
      exact ih (block.absorb follower)
    | false =>
      rw [mergeFrom_else both]
      exact ⟨block, _, rfl, rfl, rfl⟩

/-- **No two free neighbours are left.** -/
theorem mergeFrom_spaced (block : Block) (rest : List Block) : Spaced (mergeFrom block rest) := by
  induction rest generalizing block with
  | nil => exact List.isChain_singleton block
  | cons follower rest ih =>
    cases both : block.isFree && follower.isFree with
    | true =>
      obtain ⟨free, next_free⟩ := Bool.and_eq_true_iff.mp both
      rw [mergeFrom_both free next_free]
      exact ih (block.absorb follower)
    | false =>
      rw [mergeFrom_else both]
      obtain ⟨head, tail, opens, same, _⟩ := mergeFrom_head follower rest
      have spaced := ih follower
      unfold Spaced at spaced ⊢
      rw [opens] at spaced ⊢
      refine List.isChain_cons_cons.mpr ⟨fun free => ?_, spaced⟩
      rw [same]
      simpa [free] using both

/-- **The live blocks stay as they are.** -/
theorem liveBlocks_mergeFrom (block : Block) (rest : List Block) :
    liveBlocks (mergeFrom block rest) = liveBlocks (block :: rest) := by
  induction rest generalizing block with
  | nil => rfl
  | cons follower rest ih =>
    cases both : block.isFree && follower.isFree with
    | true =>
      obtain ⟨free, next_free⟩ := Bool.and_eq_true_iff.mp both
      rw [mergeFrom_both free next_free, ih, liveBlocks_cons_free free,
        liveBlocks_cons_free next_free]
      exact liveBlocks_cons_free (show (block.absorb follower).isFree = true from free) rest
    | false =>
      rw [mergeFrom_else both, ← List.singleton_append, liveBlocks_append, ih,
        ← liveBlocks_append, List.singleton_append]

theorem liveBlocks_merged (blocks : List Block) :
    liveBlocks (merged blocks) = liveBlocks blocks := by
  cases blocks with
  | nil => rfl
  | cons block rest => exact liveBlocks_mergeFrom block rest

/-- The free blocks take as much as before. -/
theorem spanSum_freeBlocks_mergeFrom (block : Block) (rest : List Block) :
    spanSum (freeBlocks (mergeFrom block rest)) = spanSum (freeBlocks (block :: rest)) := by
  induction rest generalizing block with
  | nil => rfl
  | cons follower rest ih =>
    cases both : block.isFree && follower.isFree with
    | true =>
      obtain ⟨free, next_free⟩ := Bool.and_eq_true_iff.mp both
      rw [mergeFrom_both free next_free, ih, freeBlocks_cons_free free,
        freeBlocks_cons_free next_free,
        freeBlocks_cons_free (show (block.absorb follower).isFree = true from free)]
      simp only [spanSum_cons, Block.span_absorb]
      omega
    | false =>
      rw [mergeFrom_else both, spanSum_freeBlocks_cons, ih, ← spanSum_freeBlocks_cons]

/-- A property of blocks that growing keeps holds of the merged blocks. -/
theorem forall_mem_mergeFrom {holds : Block → Prop}
    (grows : ∀ first second, first.isFree = true → second.isFree = true → holds first →
      holds second → holds (first.absorb second))
    (each : ∀ member ∈ block :: rest, holds member) :
    ∀ member ∈ mergeFrom block rest, holds member := by
  induction rest generalizing block with
  | nil => exact each
  | cons follower rest ih =>
    have first : holds block := each block List.mem_cons_self
    have others : ∀ member ∈ follower :: rest, holds member :=
      fun member inside => each member (List.mem_cons_of_mem _ inside)
    cases both : block.isFree && follower.isFree with
    | true =>
      obtain ⟨free, next_free⟩ := Bool.and_eq_true_iff.mp both
      rw [mergeFrom_both free next_free]
      have grown := grows block follower free next_free first (others follower List.mem_cons_self)
      refine ih fun member inside => ?_
      rcases List.mem_cons.mp inside with rfl | inside
      · exact grown
      · exact others member (List.mem_cons_of_mem _ inside)
    | false =>
      rw [mergeFrom_else both]
      intro member inside
      rcases List.mem_cons.mp inside with rfl | inside
      · exact first
      · exact ih others member inside

theorem forall_mem_merged {holds : Block → Prop} {blocks : List Block}
    (grows : ∀ first second, first.isFree = true → second.isFree = true → holds first →
      holds second → holds (first.absorb second))
    (each : ∀ member ∈ blocks, holds member) : ∀ member ∈ merged blocks, holds member := by
  cases blocks with
  | nil => exact each
  | cons block rest => exact forall_mem_mergeFrom grows each

/-- Merging two free neighbours takes no further bytes. -/
theorem freeRegion_absorb (adjacent : follower.offset = block.stop) (free : block.isFree = true)
    (next_free : follower.isFree = true) :
    freeRegion (block.absorb follower :: rest) ⊆ freeRegion (block :: follower :: rest) := by
  rintro offset ⟨member, inside, member_free, low, high⟩
  rcases List.mem_cons.mp inside with rfl | inside
  · rw [Block.stop_absorb adjacent] at high
    by_cases before : offset < block.stop
    · exact ⟨block, List.mem_cons_self, free, low, before⟩
    · refine ⟨follower, List.mem_cons_of_mem _ List.mem_cons_self, next_free, ?_, high⟩
      omega
  · exact ⟨member, List.mem_cons_of_mem _ (List.mem_cons_of_mem _ inside), member_free, low, high⟩

end Merging

end MiniKernel
