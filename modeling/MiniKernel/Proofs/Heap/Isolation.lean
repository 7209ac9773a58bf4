/-
**Owners keep to themselves.**

* `Heap.Request.disturbs` — a request writes through a handle, gives it back, or moves it.
* `Heap.Course.kept` — any other request leaves the handle's bytes and its capacity.
* `Heap.Course.answered` — a handle that is answered was nobody's, unless it was kept in place.
* `Heap.isolation` — in every heap that is reached, the payloads of the handles that are held lie in
  the arena, off each other and off every header, and only a request that disturbs a handle changes
  what is behind it.
-/

import MiniKernel.Proofs.Heap.Integrity

namespace MiniKernel

namespace Heap

/-- Whether a request answered so is a write through a handle, a release of it or a move of it. -/
def Request.disturbs : Request → Answer HeapRefusal Reply → Handle → Prop
  | .write handle _ _, _, held => handle = held
  | .fill handle _, _, held => handle = held
  | .release handle, _, held => handle = held
  | .reallocate handle _, .ok (.handle moved), held => handle = held ∧ moved ≠ held
  | _, _, _ => False

variable {heap after : Heap} {block : Block} {blocks : List Block} {handle : Handle}
  {ledger : Ledger} {request : Request} {result : Answer HeapRefusal Reply}

theorem Request.disturbs_of_written (writes : request.written? = some handle) :
    request.disturbs result handle := by
  cases request <;> cases writes <;> rfl

theorem capacity_eq_of_locate (located : heap.locate handle = .ok block) :
    heap.capacity handle = .ok block.size := by
  rw [capacity, located]
  rfl

theorem exists_of_capacity {room : Nat} (tiled : heap.arena.Tiled blocks)
    (has_room : heap.capacity handle = .ok room) :
    ∃ block, heap.locate handle = .ok block ∧ block.size = room := by
  rcases locate_cases tiled handle with ⟨block, _, _, _, located⟩ | refused
  · rw [capacity_eq_of_locate located] at has_room
    cases has_room
    exact ⟨block, located, rfl⟩
  · rw [capacity, refused] at has_room
    cases has_room

/-- **A request that does not disturb a handle leaves its capacity and its bytes.** -/
theorem Course.kept (course : heap.Course blocks request result after) (sound : heap.Sound blocks)
    (located : heap.locate handle = .ok block) (gentle : ¬ request.disturbs result handle) :
    after.capacity handle = heap.capacity handle ∧ after.payload handle = heap.payload handle := by
  have alike_kept : heap.Alike after handle → after.capacity handle = heap.capacity handle ∧
      after.payload handle = heap.payload handle := by
    intro alike
    rw [capacity, capacity, alike.located]
    exact ⟨rfl, alike.contents⟩
  cases course with
  | refused _ cause => exact ⟨rfl, rfl⟩
  | measured located => exact ⟨rfl, rfl⟩
  | shown located => exact ⟨rfl, rfl⟩
  | handedOut wants shape free positive fits out =>
    subst shape
    exact alike_kept (out.alike sound free (offset_ne (ne_of_free sound free located)))
  | @resized other _ _ _ _ _ shape other_located positive fits kept =>
    subst shape
    by_cases same : handle = other
    · subst same
      obtain ⟨still, contents⟩ := kept.kept other_located sound
      rw [capacity_eq_of_locate still, capacity_eq_of_locate other_located]
      exact ⟨rfl, contents⟩
    · obtain ⟨_, live, _⟩ := mem_of_locate sound.tiled other_located
      rw [handle_eq sound.tiled other_located] at same
      exact alike_kept (kept.alike sound live (offset_ne same))
  | moved shape free positive fits out other_located carved back_again =>
    subst shape
    have fresh := ne_of_free sound free located
    have apart := fun same => gentle ⟨same, fresh.symm⟩
    obtain ⟨_, live, _⟩ := mem_of_locate sound.tiled other_located
    rw [handle_eq sound.tiled other_located] at apart
    have between := out.sound sound free
    rw [carved] at between
    exact alike_kept ((out.alike sound free (offset_ne fresh)).trans
      (back_again.alike between live (offset_ne (Ne.symm apart))))
  | takenBack shape other_located back_again =>
    subst shape
    have apart : _ ≠ handle := gentle
    obtain ⟨_, live, _⟩ := mem_of_locate sound.tiled other_located
    rw [handle_eq sound.tiled other_located] at apart
    exact alike_kept (back_again.alike sound live (offset_ne apart.symm))
  | rewritten count writes other_located rewritten =>
    have apart : _ ≠ handle := fun same => gentle (Request.disturbs_of_written (same ▸ writes))
    obtain ⟨member, _⟩ := mem_of_locate sound.tiled other_located
    rw [handle_eq sound.tiled other_located] at apart
    exact alike_kept (rewritten.alike sound member (offset_ne apart.symm))

/-- A handle that is answered was not held before, unless it was asked to be kept. -/
theorem Course.answered (course : heap.Course blocks request result after)
    (sound : heap.Sound blocks) (answers : result = .ok (.handle handle)) :
    heap.locate handle = .refuse .invalidAddress ∨ ∃ size, request = .reallocate handle size := by
  cases course with
  | refused _ cause => cases answers
  | measured located => cases answers
  | shown located => cases answers
  | handedOut wants shape free positive fits out =>
    subst shape
    cases answers
    exact Or.inl (refused_of_free sound free)
  | resized shape located positive fits kept =>
    cases answers
    exact Or.inr ⟨_, rfl⟩
  | moved shape free positive fits out located carved back_again =>
    subst shape
    cases answers
    exact Or.inl (refused_of_free sound free)
  | takenBack shape located back_again => cases answers
  | rewritten count writes located rewritten => cases answers

/-! ### What is held -/

theorem Honours.held {size : Nat} (honours : heap.Honours blocks ledger)
    (held : ledger handle = some size) : ∃ block ∈ liveBlocks blocks,
      heap.locate handle = .ok block ∧ block.payload = handle.offset ∧ size ≤ block.size := by
  obtain ⟨block, located, asked⟩ := (honours.owed handle size).mp held
  obtain ⟨owned, there⟩ := honours.toRegular.locate_eq_ok_iff.mp located
  obtain ⟨member, live⟩ := mem_liveBlocks.mp owned
  refine ⟨block, owned, located, there, ?_⟩
  rw [← asked]
  exact ((honours.tidy block member).held live).2

/-- A handle that is refused is not held. -/
theorem Honours.unheld (honours : heap.Honours blocks ledger)
    (refused : heap.locate handle = .refuse .invalidAddress) : ledger handle = none := by
  cases entry : ledger handle with
  | none => rfl
  | some size =>
    obtain ⟨block, _, located, _⟩ := honours.held entry
    rw [refused] at located
    cases located

theorem Honours.capacity_iff (honours : heap.Honours blocks ledger) (handle : Handle) :
    (∃ room, heap.capacity handle = .ok room) ↔ ∃ size, ledger handle = some size := by
  constructor
  · rintro ⟨room, has_room⟩
    obtain ⟨block, located, _⟩ := exists_of_capacity honours.tiled has_room
    exact ⟨_, (honours.owed handle _).mpr ⟨block, located, rfl⟩⟩
  · rintro ⟨size, held⟩
    obtain ⟨block, _, located, _⟩ := honours.held held
    exact ⟨_, capacity_eq_of_locate located⟩

/-- Where the payload of a held handle lies. -/
theorem Honours.place {size room : Nat} (honours : heap.Honours blocks ledger)
    (held : ledger handle = some size) (has_room : heap.capacity handle = .ok room) :
    handle.offset + room ≤ heap.total ∧ heap.address handle % alignment = 0 ∧ size ≤ room := by
  obtain ⟨block, owned, located, there, large⟩ := honours.held held
  rw [capacity_eq_of_locate located] at has_room
  cases has_room
  refine ⟨payload_inside honours.tiled located, ?_, large⟩
  have base : heap.arena.base % 8 = 0 := heap.arena.base_aligned
  have aligned := honours.toRegular.aligned (mem_liveBlocks.mp owned).1
  rw [there, alignment] at aligned
  show (heap.arena.base + handle.offset) % 8 = 0
  omega

/-- Two payloads do not meet. -/
theorem Honours.apart {other : Handle} {room other_room : Nat}
    (honours : heap.Honours blocks ledger) (different : other ≠ handle)
    (has_room : heap.capacity handle = .ok room) (has : heap.capacity other = .ok other_room) :
    handle.offset + room ≤ other.offset ∨ other.offset + other_room ≤ handle.offset := by
  obtain ⟨block, located, rfl⟩ := exists_of_capacity honours.tiled has_room
  obtain ⟨neighbour, found, rfl⟩ := exists_of_capacity honours.tiled has
  obtain ⟨member, _, there⟩ := mem_of_locate honours.tiled located
  obtain ⟨among, _, other_there⟩ := mem_of_locate honours.tiled found
  have stop := block.stop_eq
  have place := block.payload_eq
  have other_stop := neighbour.stop_eq
  have other_place := neighbour.payload_eq
  rcases honours.tiled.tiles.apart member among with rfl | before | behind
  · refine absurd ?_ different
    rw [handle_eq honours.tiled found, handle_eq honours.tiled located]
  · omega
  · omega

/-- A payload meets no header. -/
theorem Honours.off_header {room : Nat} (honours : heap.Honours blocks ledger)
    (has_room : heap.capacity handle = .ok room) :
    ∀ block ∈ heap.arena.chain.blocks,
      block.offset + headerBytes ≤ handle.offset ∨ handle.offset + room ≤ block.offset := by
  intro outer inside
  obtain ⟨block, located, rfl⟩ := exists_of_capacity honours.tiled has_room
  obtain ⟨member, _, there⟩ := mem_of_locate honours.tiled located
  rw [honours.tiled.chain_eq] at inside
  have stop := block.stop_eq
  have place := block.payload_eq
  have outer_stop := outer.stop_eq
  rw [headerBytes]
  rcases honours.tiled.tiles.apart member inside with rfl | before | behind
  · omega
  · omega
  · omega

/-- **Owners keep to themselves.** A handle is accepted exactly while it is held. Its payload lies in
the arena at an aligned address, is no shorter than its owner asked for, and meets no other payload
and no header. No request but one that disturbs the handle changes the capacity or the bytes behind
it, and no request hands it out to somebody else. -/
theorem isolation (reached : heap.Reached ledger) :
    (∀ handle, (∃ room, heap.capacity handle = .ok room) ↔ ∃ size, ledger handle = some size) ∧
    (∀ handle size room, ledger handle = some size → heap.capacity handle = .ok room →
      (handle.offset + room ≤ heap.total ∧ heap.address handle % alignment = 0 ∧ size ≤ room) ∧
      (∀ other other_room, other ≠ handle → heap.capacity other = .ok other_room →
        handle.offset + room ≤ other.offset ∨ other.offset + other_room ≤ handle.offset) ∧
      ∀ block ∈ heap.arena.chain.blocks,
        block.offset + headerBytes ≤ handle.offset ∨ handle.offset + room ≤ block.offset) ∧
    ∀ request : Request, (request.perform heap).result.Returns →
      (∀ handle size, ledger handle = some size →
        ¬ request.disturbs (request.perform heap).result handle →
        (request.perform heap).state.capacity handle = heap.capacity handle ∧
        (request.perform heap).state.payload handle = heap.payload handle) ∧
      ∀ handle, (request.perform heap).result = .ok (.handle handle) →
        ledger handle = none ∨ ∃ size, request = .reallocate handle size := by
  obtain ⟨blocks, honours⟩ := reached.honours
  refine ⟨honours.capacity_iff, ?_, ?_⟩
  · intro handle size room held has_room
    refine ⟨honours.place held has_room, ?_, honours.off_header has_room⟩
    intro other other_room different has
    exact honours.apart different has_room has
  · intro request returns
    have course := perform_course honours.toSound request (Or.inr returns)
    refine ⟨?_, ?_⟩
    · intro handle size held gentle
      obtain ⟨block, _, located, _⟩ := honours.held held
      exact course.kept honours.toSound located gentle
    · intro handle answers
      exact (course.answered honours.toSound answers).imp_left honours.unheld

/-- One block handed out, and a second one that leaves it alone. -/
theorem isolation_smallHeap :
    ((Request.allocate 8).perform smallHeap).state.Reached (Ledger.empty.set ⟨16⟩ (some 8)) ∧
    ∃ room, ((Request.allocate 8).perform smallHeap).state.capacity ⟨16⟩ = .ok room ∧ 8 ≤ room ∧
      ((Request.allocate 16).perform ((Request.allocate 8).perform smallHeap).state).state.capacity
        ⟨16⟩ = .ok room := by
  have answers : ((Request.allocate 8).perform smallHeap).result = .ok (.handle ⟨16⟩) := by
    decide +kernel
  have reached : ((Request.allocate 8).perform smallHeap).state.Reached
      (Ledger.empty.set ⟨16⟩ (some 8)) := by
    have step := Reached.step (.fresh create_smallRegion) (.allocate 8)
      (answers.symm ▸ Answer.returns_ok _)
    rw [answers] at step
    exact step
  have further : ((Request.allocate 16).perform
      ((Request.allocate 8).perform smallHeap).state).result = .ok (.handle ⟨40⟩) := by
    decide +kernel
  obtain ⟨accepted, placed, steps⟩ := isolation reached
  obtain ⟨room, has_room⟩ := (accepted ⟨16⟩).mpr ⟨8, Ledger.set_same ..⟩
  obtain ⟨⟨_, _, large⟩, _⟩ := placed ⟨16⟩ 8 room (Ledger.set_same ..) has_room
  obtain ⟨kept, _⟩ := steps (.allocate 16) (further.symm ▸ Answer.returns_ok _)
  refine ⟨reached, room, has_room, large, ?_⟩
  rw [(kept ⟨16⟩ 8 (Ledger.set_same ..) fun disturbed => disturbed).1]
  exact has_room

end Heap

end MiniKernel
