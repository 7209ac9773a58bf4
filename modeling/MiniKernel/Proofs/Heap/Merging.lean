/-
**Taking a block back, and the sweep that merges free neighbours.**

* `Heap.coalesceFrom_apply` — from any block of any tiling the sweep ends, stays in bounds and
  leaves the tiling with every run of free neighbours merged. Only bytes of free blocks change.
* `Heap.TakenBack` — a heap after a live block was freed and the sweep was made.
* `Heap.release_cases` — a release refuses and changes nothing, or leaves such a heap; the latter
  wherever its handle leads to a block (`Heap.release_located`).

The sweep is followed along the list of blocks it has yet to meet: a merge replaces the first two of
them by one, and any other step moves one of them to the blocks already done.
-/

import MiniKernel.Heap.Release
import MiniKernel.Proofs.Heap.Handing

namespace MiniKernel

-- A written header is known by its lemmas only.
seal Arena.setHeader

namespace Heap

variable {ε : Type} {heap : Heap} {block follower : Block} {blocks front back rest : List Block}

/-! ### The sweep -/

theorem fits_absorb (tiled : heap.arena.Tiled (front ++ block :: follower :: rest)) :
    (block.absorb follower).toHeader.Fits := by
  have first : block ∈ front ++ block :: follower :: rest := by simp
  have second : follower ∈ front ++ block :: follower :: rest := by simp
  have block_fits := tiled.fits first
  have follower_fits := tiled.fits second
  refine ⟨?_, follower_fits.next, block_fits.flags, block_fits.requested⟩
  obtain ⟨_, _, stands, _, _⟩ := tiled.tiles.around
  have bound := tiled.bounds second
  rw [follower.stop_eq, stands, block.stop_eq] at bound
  have small := heap.arena.size_lt
  show block.size + (headerBytes + follower.size) < wordLimit
  rw [headerBytes]
  omega

/-- Two neighbours are tiled by the one grown by the other. -/
theorem tiled_absorb (tiled : heap.arena.Tiled (front ++ block :: follower :: rest)) :
    (heap.arena.setHeader block.offset (block.absorb follower).toHeader).Tiled
      (front ++ block.absorb follower :: rest) := by
  obtain ⟨first, linked, stands, link, last⟩ := tiled.tiles.around
  have member : block ∈ front ++ block :: follower :: rest := by simp
  have grown : (block.absorb follower).stop = follower.stop := Block.stop_absorb stands
  have bound := tiled.bounds member
  have stop := block.stop_eq
  have further := follower.stop_eq
  have inside : block.offset + headerBytes ≤ heap.arena.size := by
    rw [headerBytes]
    omega
  have changed : Arena.ChangedIn (Set.Ico block.offset follower.stop) heap.arena
      (heap.arena.setHeader block.offset (block.absorb follower).toHeader) := by
    refine (Arena.changedIn_setHeader ..).mono (Set.Ico_subset_Ico le_rfl ?_)
    rw [headerBytes]
    omega
  have shape : front ++ block :: follower :: rest = front ++ [block, follower] ++ rest := by simp
  have goal : front ++ block.absorb follower :: rest =
      front ++ [block.absorb follower] ++ rest := by simp
  rw [goal]
  refine (shape ▸ tiled).replace first last changed ⟨rfl, ?_, grown⟩ ?_
  · rw [grown]
    exact link
  · intro member inside_new
    rw [List.mem_singleton.mp inside_new]
    exact Arena.header_setHeader_of_fits inside (fits_absorb tiled)

/-- The block at hand counts among those that are done. -/
theorem tiled_past {arena : Arena} (tiled : arena.Tiled (front ++ block :: rest)) :
    arena.Tiled ((front ++ [block]) ++ rest) := by
  rwa [← List.append_cons]

/-- The sweep ends at the last block. -/
theorem coalesceFrom_last (limit : Nat) (tiled : heap.arena.Tiled (front ++ [block])) :
    (coalesceFrom (limit + 1) block.offset : Action Heap ε Unit) heap = ⟨.ok (), heap, []⟩ := by
  obtain ⟨_, linked, ends⟩ := tiled.tiles.around
  have last : block.next = endOfChain := by
    rw [linked, show block.stop = heap.arena.size from ends, linkAt, if_pos rfl]
  refine Action.bind_steps (fetchHeader_apply (tiled.header_inside (by simp))) ?_
  rw [tiled.stands block (by simp), if_pos last]
  rfl

/-- **One step of the sweep** merges the two blocks at hand or moves on by one. -/
theorem coalesceFrom_step (limit : Nat)
    (tiled : heap.arena.Tiled (front ++ block :: follower :: rest)) :
    (coalesceFrom (limit + 1) block.offset : Action Heap ε Unit) heap =
      if block.isFree && follower.isFree then
        coalesceFrom limit block.offset
          { heap with arena :=
              heap.arena.setHeader block.offset (block.absorb follower).toHeader }
      else coalesceFrom limit follower.offset heap := by
  obtain ⟨_, linked, follower_stands, _, further⟩ := tiled.tiles.around
  have first : block ∈ front ++ block :: follower :: rest := by simp
  have second : follower ∈ front ++ block :: follower :: rest := by simp
  have inside := tiled.header_inside first
  have follower_inside := tiled.header_inside second
  have more : block.stop < heap.arena.size := by
    rw [headerBytes] at follower_inside
    omega
  obtain ⟨open_end, link⟩ := heap.arena.linkAt_ne_end more
  have next : block.next = follower.offset := by rw [linked, link, follower_stands]
  refine Action.bind_steps (fetchHeader_apply inside) ?_
  rw [tiled.stands block (by simp), if_neg (by rw [linked]; exact open_end), next]
  refine Action.bind_steps (fetchHeader_apply follower_inside) ?_
  rw [tiled.stands follower (by simp)]
  cases both : block.isFree && follower.isFree with
  | true =>
    have grown : block.size + (headerBytes + follower.size) < wordLimit :=
      (fits_absorb tiled).size
    simp only [if_true, Checked.add_eq_ok (lt_of_le_of_lt (Nat.le_add_left _ _) grown)]
    refine Action.bind_steps (Action.ask_apply _ heap) ?_
    rw [Checked.add_eq_ok grown]
    refine Action.bind_steps (Action.ask_apply _ heap) ?_
    exact Action.bind_steps (storeHeader_apply _ inside) rfl
  | false => rfl

/-- **The sweep from a block of a tiling merges the free neighbours from there on.** -/
theorem coalesceFrom_apply {limit : Nat} (tiled : heap.arena.Tiled (front ++ block :: rest))
    (room : rest.length < limit) :
    ∃ arena, (coalesceFrom limit block.offset : Action Heap ε Unit) heap =
        ⟨.ok (), { heap with arena }, []⟩ ∧
      arena.Tiled (front ++ mergeFrom block rest) ∧
      Arena.ChangedIn (freeRegion (block :: rest)) heap.arena arena := by
  induction rest generalizing heap front block limit with
  | nil =>
    obtain ⟨limit, rfl⟩ : ∃ less, limit = less + 1 := ⟨limit - 1, by omega⟩
    exact ⟨heap.arena, coalesceFrom_last limit tiled, tiled, Arena.ChangedIn.refl _ _⟩
  | cons follower rest ih =>
    obtain ⟨limit, rfl⟩ : ∃ less, limit = less + 1 := ⟨limit - 1, by omega⟩
    rw [List.length_cons] at room
    rw [coalesceFrom_step limit tiled]
    cases both : block.isFree && follower.isFree with
    | true =>
      obtain ⟨free, next_free⟩ := Bool.and_eq_true_iff.mp both
      obtain ⟨arena, run, merged, changed⟩ :=
        @ih { heap with arena := heap.arena.setHeader block.offset (block.absorb follower).toHeader }
          (block.absorb follower) front limit (tiled_absorb tiled) (by omega)
      refine ⟨arena, run, ?_, ?_⟩
      · rw [mergeFrom_both free next_free]
        exact merged
      · obtain ⟨_, _, stands, _⟩ := tiled.tiles.around
        refine Arena.ChangedIn.trans ?_ (changed.mono (freeRegion_absorb stands free next_free))
        refine (Arena.changedIn_setHeader ..).mono fun offset within => ?_
        refine ⟨block, List.mem_cons_self, free, within.1, lt_of_lt_of_le within.2 ?_⟩
        exact Nat.add_le_add_left (Nat.le_add_right _ _) _
    | false =>
      obtain ⟨arena, run, merged, changed⟩ :=
        ih (tiled_past tiled) (by omega : rest.length < limit)
      refine ⟨arena, run, ?_, changed.mono ?_⟩
      · rw [mergeFrom_else both]
        rw [List.append_assoc] at merged
        exact merged
      · rintro offset ⟨member, inside, free, within⟩
        exact ⟨member, List.mem_cons_of_mem _ inside, free, within⟩

/-- The whole sweep merges all free neighbours. -/
theorem coalesce_apply (heap : Heap) (tiled : heap.arena.Tiled blocks) :
    ∃ arena, (coalesce : Action Heap ε Unit) heap = ⟨.ok (), { heap with arena }, []⟩ ∧
      arena.Tiled (merged blocks) ∧
      Arena.ChangedIn (freeRegion blocks) heap.arena arena := by
  cases blocks with
  | nil => exact absurd rfl tiled.ne_nil
  | cons head rest =>
    have room : rest.length < heap.total + 1 := by
      have length := tiled.tiles.length_le
      rw [List.length_cons] at length
      show rest.length < heap.arena.size + 1
      omega
    have from_head : heap.arena.Tiled ([] ++ head :: rest) := tiled
    obtain ⟨arena, run, result, changed⟩ := coalesceFrom_apply (ε := ε) from_head room
    rw [tiled.head] at run
    exact ⟨arena, Action.bind_steps (Action.get_apply heap) run, result, changed⟩

/-! ### Taking a block back -/

end Heap

/-- The block without its owner. -/
def Block.vacated (block : Block) : Block := { block with toHeader := block.freed }

@[simp] theorem Block.isFree_vacated (block : Block) : block.vacated.isFree = true := by
  show ((block.flags / 2 * 2 + 1) % 2 == 1) = true
  simp

@[simp] theorem Block.offset_vacated (block : Block) : block.vacated.offset = block.offset := rfl

@[simp] theorem Block.stop_vacated (block : Block) : block.vacated.stop = block.stop := rfl

@[simp] theorem Block.span_vacated (block : Block) : block.vacated.span = block.span := rfl

/-- The live blocks that are left when one is taken back are those with another payload. -/
theorem mem_liveBlocks_vacated {length start stop : Nat} {block member : Block}
    {front back : List Block} (tiles : Tiles length start (front ++ block :: back) stop) :
    member ∈ liveBlocks (merged (front ++ block.vacated :: back)) ↔
      member ∈ liveBlocks (front ++ block :: back) ∧ member.payload ≠ block.payload := by
  have once := (List.nodup_cons.mp (List.perm_middle.nodup_iff.mp tiles.nodup)).1
  rw [liveBlocks_merged, liveBlocks_append, liveBlocks_cons_free block.isFree_vacated,
    ← liveBlocks_append, mem_liveBlocks, mem_liveBlocks]
  constructor
  · rintro ⟨others, live⟩
    have inside : member ∈ front ++ block :: back := by
      refine List.mem_append.mpr ((List.mem_append.mp others).imp_right ?_)
      exact List.mem_cons_of_mem block
    refine ⟨⟨inside, live⟩, fun same => once ?_⟩
    rwa [← tiles.eq_of_offset inside (by simp) (Nat.add_right_cancel same)]
  · rintro ⟨⟨inside, live⟩, apart⟩
    refine ⟨?_, live⟩
    rcases List.mem_cons.mp (List.perm_middle.mem_iff.mp inside) with rfl | others
    · exact absurd rfl apart
    · exact others

/-- **`after` is `before` with `block` taken back and all free neighbours merged.** -/
structure Heap.TakenBack (before : Heap) (front : List Block) (block : Block) (back : List Block)
    (after : Heap) : Prop where
  tiled : after.arena.Tiled (merged (front ++ block.vacated :: back))
  changed : Arena.ChangedIn (freeRegion (front ++ block.vacated :: back))
    before.arena after.arena
  used : after.used + block.span = before.used
  free : after.free = before.free + block.span
  allocations : after.allocations = before.allocations
  releases : after.releases = before.releases + 1

namespace Heap

variable {ε : Type} {heap after : Heap} {block : Block} {blocks front back : List Block}

theorem chargeReleased_apply (heap : Heap) {span : Nat} (used : span ≤ heap.used)
    (free : heap.free + span < longLimit) (countable : heap.releases + 1 < longLimit) :
    (chargeReleased span : Action Heap ε Unit) heap =
      ⟨.ok (), { heap with used := heap.used - span, free := heap.free + span
                           releases := heap.releases + 1 }, []⟩ := by
  simp only [chargeReleased, Action.bind_apply, Action.get_apply, Action.ask_apply,
    Action.modify_apply, Checked.sub_eq_ok used, Checked.add_eq_ok free,
    Checked.add_eq_ok countable]
  rfl

/-- A full count of releases stops the machine. -/
theorem chargeReleased_full (heap : Heap) {span : Nat} (used : span ≤ heap.used)
    (free : heap.free + span < longLimit) (full : ¬ heap.releases + 1 < longLimit) :
    ∃ after, (chargeReleased span : Action Heap ε Unit) heap =
      ⟨.error (.aborted (.overflow .add)), after, []⟩ := by
  refine ⟨{ heap with used := heap.used - span, free := heap.free + span }, ?_⟩
  simp only [chargeReleased, Action.bind_apply, Action.get_apply, Action.ask_apply,
    Action.modify_apply, Checked.sub_eq_ok used, Checked.add_eq_ok free]
  rw [Checked.add, if_neg full]
  rfl

/-- A block counted as given back left room for one more count. -/
theorem countable_of_chargeReleased (heap : Heap) {span : Nat} (used : span ≤ heap.used)
    (free : heap.free + span < longLimit)
    (returns : ((chargeReleased span : Action Heap ε Unit) heap).result.Returns) :
    heap.releases + 1 < longLimit := by
  by_contra full
  obtain ⟨after, run⟩ := chargeReleased_full (ε := ε) heap used free full
  rw [run] at returns
  exact returns (.overflow .add) rfl

theorem tiled_vacated (tiled : heap.arena.Tiled (front ++ block :: back)) :
    (heap.arena.setHeader block.offset block.freed).Tiled (front ++ block.vacated :: back) := by
  have member : block ∈ front ++ block :: back := by simp
  have fits := tiled.fits member
  have freed_fits : block.vacated.toHeader.Fits := by
    refine ⟨fits.size, fits.next, ?_, (by decide : 0 < wordLimit)⟩
    have flags := fits.flags
    show block.flags / 2 * 2 + 1 < wordLimit
    rw [wordLimit] at flags ⊢
    omega
  obtain ⟨first, linked, last⟩ := tiled.tiles.around
  have inside := tiled.header_inside member
  have changed : Arena.ChangedIn (Set.Ico block.offset block.stop) heap.arena
      (heap.arena.setHeader block.offset block.freed) := by
    refine (Arena.changedIn_setHeader ..).mono (Set.Ico_subset_Ico le_rfl ?_)
    rw [block.stop_eq, headerBytes]
    omega
  rw [← List.singleton_append, ← List.append_assoc] at tiled ⊢
  refine tiled.replace first last changed ⟨rfl, linked, rfl⟩ fun rest written => ?_
  rw [List.mem_singleton.mp written]
  exact Arena.header_setHeader_of_fits inside freed_fits

theorem TakenBack.sound (back_again : heap.TakenBack front block back after)
    (sound : heap.Sound (front ++ block :: back)) (live : block.isFree = false) :
    after.Sound (merged (front ++ block.vacated :: back)) := by
  have shape : ∃ head rest, front ++ block.vacated :: back = head :: rest :=
    List.exists_cons_of_ne_nil (by simp)
  have used := sound.used
  have free := sound.free
  have less := back_again.used
  rw [liveBlocks_append, liveBlocks_cons_live live, spanSum_append, spanSum_cons] at used
  rw [freeBlocks_append, freeBlocks_cons_live live, spanSum_append] at free
  have live_after : spanSum (liveBlocks (front ++ block.vacated :: back)) =
      spanSum (liveBlocks front) + spanSum (liveBlocks back) := by
    rw [liveBlocks_append, liveBlocks_cons_free block.isFree_vacated, spanSum_append]
  have free_after : spanSum (freeBlocks (front ++ block.vacated :: back)) =
      spanSum (freeBlocks front) + (block.span + spanSum (freeBlocks back)) := by
    rw [freeBlocks_append, freeBlocks_cons_free block.isFree_vacated, spanSum_append,
      spanSum_cons, Block.span_vacated]
  obtain ⟨head, rest, list⟩ := shape
  have tiled := back_again.tiled
  rw [list] at live_after free_after tiled ⊢
  refine ⟨tiled, mergeFrom_spaced head rest, ?_, ?_⟩
  · show after.used = spanSum (liveBlocks (mergeFrom head rest))
    rw [liveBlocks_mergeFrom, live_after]
    omega
  · show after.free = spanSum (freeBlocks (mergeFrom head rest))
    rw [spanSum_freeBlocks_mergeFrom, free_after, back_again.free]
    omega

/-- A live block is counted as used, and can be counted as free. -/
theorem Sound.room_of_live (sound : heap.Sound (front ++ block :: back))
    (live : block.isFree = false) :
    block.span ≤ heap.used ∧ heap.free + block.span < longLimit := by
  have share := sound.used_add_free
  have small : heap.total < wordLimit := heap.arena.size_lt
  have longer : wordLimit < longLimit := by decide
  have room : block.span ≤ heap.used := by
    rw [sound.used, liveBlocks_append, liveBlocks_cons_live live, spanSum_append, spanSum_cons]
    omega
  exact ⟨room, by omega⟩

/-- **A live block is taken back.** -/
theorem release_located (sound : heap.Sound (front ++ block :: back)) {handle : Handle}
    (located : heap.locate handle = .ok block)
    (going : heap.releases + 1 < longLimit ∨ (release handle heap).result.Returns) :
    ∃ after, heap.TakenBack front block back after ∧
      release handle heap = ⟨.ok (), after, []⟩ := by
  obtain ⟨member, live, _⟩ := mem_of_locate sound.tiled located
  have inside := sound.tiled.header_inside member
  obtain ⟨room, free⟩ := sound.room_of_live live
  unfold release at going ⊢
  have countable : heap.releases + 1 < longLimit := by
    rcases going with countable | returns
    · exact countable
    · have found := Action.returns_next (Action.get_apply heap) returns
      rw [located] at found
      have stored := Action.returns_next (Action.ask_apply _ heap) found
      have counted := Action.returns_next (storeHeader_apply _ inside) stored
      exact countable_of_chargeReleased
        { heap with arena := heap.arena.setHeader block.offset block.freed }
        room free (Action.returns_first counted)
  have charged := chargeReleased_apply (ε := HeapRefusal)
    { heap with arena := heap.arena.setHeader block.offset block.freed }
    room free countable
  obtain ⟨arena, swept, merged_tiled, changed⟩ := coalesce_apply (ε := HeapRefusal)
    { arena := heap.arena.setHeader block.offset block.freed
      used := heap.used - block.span, free := heap.free + block.span
      allocations := heap.allocations, releases := heap.releases + 1 }
    (tiled_vacated sound.tiled)
  refine ⟨{ arena, used := heap.used - block.span, free := heap.free + block.span
            allocations := heap.allocations, releases := heap.releases + 1 },
    ⟨merged_tiled, ?_, ?_, rfl, rfl, rfl⟩, Action.bind_steps (Action.get_apply heap) ?_⟩
  · refine Arena.ChangedIn.trans ?_ changed
    refine (Arena.changedIn_setHeader ..).mono fun offset within => ?_
    refine ⟨block.vacated, by simp, block.isFree_vacated, within.1, ?_⟩
    refine lt_of_lt_of_le within.2 ?_
    exact Nat.add_le_add_left (Nat.le_add_right _ _) _
  · exact Nat.sub_add_cancel room
  · rw [located]
    refine Action.bind_steps (Action.ask_apply _ heap) ?_
    refine Action.bind_steps (storeHeader_apply _ inside) ?_
    exact Action.bind_steps charged swept

/-- **All that a release can do.** -/
theorem release_cases (sound : heap.Sound blocks) (handle : Handle)
    (going : heap.releases + 1 < longLimit ∨ (release handle heap).result.Returns) :
    (heap.locate handle = .refuse .invalidAddress ∧
      release handle heap = ⟨.error (.refused .invalidAddress), heap, []⟩) ∨
    ∃ front block back after, blocks = front ++ block :: back ∧ block.isFree = false ∧
      block.payload = handle.offset ∧ heap.locate handle = .ok block ∧
      heap.TakenBack front block back after ∧ release handle heap = ⟨.ok (), after, []⟩ := by
  rcases locate_cases sound.tiled handle with ⟨block, member, live, same, located⟩ | refused
  · obtain ⟨front, back, rfl⟩ := List.append_of_mem member
    obtain ⟨after, back_again, run⟩ := release_located sound located going
    exact Or.inr ⟨front, block, back, after, rfl, live, same, located, back_again, run⟩
  · refine Or.inl ⟨refused, Action.bind_steps (Action.get_apply heap) ?_⟩
    rw [refused]
    rfl

end Heap

end MiniKernel
