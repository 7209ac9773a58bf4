/-
**The ranges of memory that are out.**

A range stays with whoever was given it until its block is taken back, whoever writes into it, and
also when its block is kept by a reallocation.

* `Heap.Outstanding` — a handle was handed out for a number of bytes, and its block was not taken
  back since.
* `Heap.crowded_of_refused` — a request that is refused for want of memory finds no free block that
  is large enough.
* `Heap.Course.capacity_kept` — **one request** leaves the room behind every handle it does not
  take.
* `Heap.Ran.room_of_outstanding`, `Heap.Ran.apart` — **the whole run**: there is room for the bytes
  asked for behind every handle that is out, and their ranges do not meet.
* `Heap.Ran.handedOut`, `Heap.Ran.takenBack` — what a new range is like, and that one that is out
  can be given back: the counters, which stop a run when they are full, leave room for that.
-/

import MiniKernel.Proofs.Heap.BestFit
import MiniKernel.Proofs.Heap.Handles

namespace MiniKernel

-- A written header is known by its lemmas only.
seal Arena.setHeader

/-- Two ranges of addresses do not meet. -/
def Apart (start size other room : Nat) : Prop := start + size ≤ other ∨ other + room ≤ start

namespace Heap

variable {heap after : Heap} {blocks : List Block} {history : List Exchange} {request : Request}
  {handle other : Handle} {size room : Nat}

/-- A number of bytes was asked for, and this handle answered. -/
def Exchange.handing (size : Nat) (handle : Handle) : Exchange :=
  ⟨.allocate size, .ok (.handle handle)⟩

/-- **No free block has room for that many bytes**, in whole words. -/
def Crowded (heap : Heap) (size : Nat) : Prop :=
  ∃ room, (heap.largestRoom : Answer HeapRefusal Nat) = .ok room ∧ room < roundUp size

/-- **A handle that was handed out for a number of bytes, and not taken back since.** -/
def Outstanding (history : List Exchange) (handle : Handle) (size : Nat) : Prop :=
  Standing history (· = .handing size handle) (·.Takes handle)

/-! ### Requests for which there is no room -/

/-- A request that finds no room is one for which there is none. -/
theorem crowded_of_refused (sound : heap.Sound blocks) (positive : size ≠ 0)
    (short : heap.total < size ∨ bestFitAmong (roundUp size) blocks = none) :
    heap.Crowded size := by
  have rounded := le_roundUp size
  refine ⟨_, largestRoom_eq sound.tiled, ?_⟩
  rcases short with large | missing
  · exact (sound.roomAmong_le_total.trans_lt large).trans_le rounded
  · have wanted : 0 < roundUp size := (Nat.pos_of_ne_zero positive).trans_le rounded
    exact (roomAmong_lt_iff wanted).mpr (lt_of_bestFitAmong_eq_none missing)

/-! ### One request -/

/-- **The room behind a handle stays the same until the handle is taken.** -/
theorem Course.capacity_kept {block : Block} {result : Answer HeapRefusal Reply}
    (course : heap.Course blocks request result after) (sound : heap.Sound blocks)
    (located : heap.locate handle = .ok block)
    (untaken : ¬ (Exchange.mk request result).Takes handle) :
    after.capacity handle = heap.capacity handle := by
  have whole := course
  cases course with
  | refused _ cause => rfl
  | measured _ | shown _ => rfl
  | handedOut wants =>
    refine (whole.kept sound located fun disturbs => ?_).1
    cases request <;> cases wants <;> exact disturbs
  | resized => exact (whole.kept sound located fun disturbs => disturbs.2 disturbs.1).1
  | moved | takenBack => exact (whole.kept sound located untaken).1
  | rewritten count writes found rewritten =>
    -- bytes written into a payload are no header
    obtain ⟨member, _⟩ := mem_of_locate sound.tiled found
    rw [capacity, capacity, rewritten.located sound member]

/-- The counter of blocks handed out has not run over. -/
theorem Course.counted {result : Answer HeapRefusal Reply}
    (course : heap.Course blocks request result after) (counted : heap.allocations < longLimit) :
    after.allocations < longLimit := by
  cases course with
  | refused _ cause => exact counted
  | measured _ | shown _ => exact counted
  | handedOut wants shape free positive fits out =>
    rw [out.allocations]
    exact out.countable
  | resized shape located positive fits kept =>
    rw [kept.counters]
    exact counted
  | moved shape free positive fits out located carved back_again =>
    rw [back_again.allocations, out.allocations]
    exact out.countable
  | takenBack shape located back_again =>
    rw [back_again.allocations]
    exact counted
  | rewritten count writes located rewritten =>
    rw [rewritten.counters]
    exact counted

namespace Ran

/-! ### The whole run -/

theorem course (ran : heap.Ran history) (returns : (request.perform heap).result.Returns) :
    ∃ blocks, heap.Sound blocks ∧
      heap.Course blocks request (request.perform heap).result (request.perform heap).state := by
  obtain ⟨blocks, honours⟩ := ran.reached.honours
  exact ⟨blocks, honours.toSound, perform_course honours.toSound request (Or.inr returns)⟩

theorem counted (ran : heap.Ran history) : heap.allocations < longLimit := by
  induction ran with
  | fresh made =>
    obtain ⟨arena, _, rfl⟩ := create_eq_ok_iff.mp made
    show 0 < longLimit
    decide
  | step ran request returns ih =>
    obtain ⟨_, _, course⟩ := ran.course returns
    exact course.counted ih

/-- **There is room for the bytes asked for behind every handle that is out.** -/
theorem room_of_outstanding (ran : heap.Ran history) (out : Outstanding history handle size) :
    ∃ room, heap.capacity handle = .ok room ∧ size ≤ room := by
  induction ran with
  | fresh made => exact absurd out standing_nil
  | @step heap history ran request returns ih =>
    rcases standing_cons.mp out with given | ⟨untaken, earlier⟩
    · obtain ⟨_, honours⟩ := (ran.step request returns).reached.honours
      have held : Ledger.told (.handing size handle :: history) handle = some size :=
        Ledger.set_same ..
      rw [given] at honours
      obtain ⟨block, _, located, _, large⟩ := honours.held held
      exact ⟨block.size, capacity_eq_of_locate located, large⟩
    · obtain ⟨room, has_room, large⟩ := ih earlier
      obtain ⟨blocks, sound, course⟩ := ran.course returns
      obtain ⟨block, located, _⟩ := exists_of_capacity sound.tiled has_room
      exact ⟨room, (course.capacity_kept sound located untaken).trans has_room, large⟩

theorem located_of_outstanding (ran : heap.Ran history) (out : Outstanding history handle size) :
    ∃ block, heap.locate handle = .ok block := by
  obtain ⟨room, has_room, _⟩ := ran.room_of_outstanding out
  obtain ⟨_, honours⟩ := ran.reached.honours
  obtain ⟨block, located, _⟩ := exists_of_capacity honours.tiled has_room
  exact ⟨block, located⟩

/-- **The ranges of two handles that are out do not meet.** -/
theorem apart (ran : heap.Ran history) (one : Outstanding history handle size)
    (two : Outstanding history other room) (different : other ≠ handle) :
    Apart (heap.address handle) size (heap.address other) room := by
  obtain ⟨_, honours⟩ := ran.reached.honours
  obtain ⟨has, has_room, large⟩ := ran.room_of_outstanding one
  obtain ⟨had, had_room, wide⟩ := ran.room_of_outstanding two
  have between := honours.apart different has_room had_room
  unfold Apart address
  omega

/-! ### Handing out and taking back -/

/-- Memory is handed out of the same arena, and never no bytes of it. -/
theorem of_allocate {effects : List Effect} (ran : heap.Ran history)
    (run : allocate size heap = ⟨.ok handle, after, effects⟩) :
    after.Ran (.handing size handle :: history) ∧ after.base = heap.base ∧
      after.total = heap.total ∧ 0 < size := by
  have performs := Request.perform_allocate run
  have returns : ((Request.allocate size).perform heap).result.Returns := by
    rw [performs]
    exact Answer.returns_ok _
  have step := ran.step (.allocate size) returns
  obtain ⟨_, _, course⟩ := ran.course returns
  rw [performs] at step course
  refine ⟨step, course.base, ?_⟩
  cases course with
  | handedOut wants _ _ positive _ out =>
    cases wants
    exact ⟨out.changed.size, Nat.pos_of_ne_zero positive⟩

/-- **A new range**: it lies aligned in the arena and meets none that is out. -/
theorem handedOut {effects : List Effect} (ran : heap.Ran history)
    (run : allocate size heap = ⟨.ok handle, after, effects⟩) :
    after.Ran (.handing size handle :: history) ∧ heap.address handle % alignment = 0 ∧
      0 < size ∧ heap.address handle + size ≤ heap.base + heap.total ∧
      ∀ other room, Outstanding history other room →
        Apart (heap.address handle) size (heap.address other) room := by
  obtain ⟨ran_on, base, total, positive⟩ := ran.of_allocate run
  have address : ∀ handle, after.address handle = heap.address handle := fun _ => by
    rw [Heap.address, Heap.address, base]
  have out : Outstanding (.handing size handle :: history) handle size :=
    standing_cons.mpr (Or.inl rfl)
  obtain ⟨_, after_honours⟩ := ran_on.reached.honours
  obtain ⟨room, has_room, _⟩ := ran_on.room_of_outstanding out
  obtain ⟨inside, aligned, large⟩ := after_honours.place (Ledger.set_same ..) has_room
  rw [address] at aligned
  refine ⟨ran_on, aligned, positive, ?_, fun other room earlier => ?_⟩
  · unfold Heap.address
    omega
  · have still : Outstanding (.handing size handle :: history) other room :=
      standing_cons.mpr (Or.inr ⟨id, earlier⟩)
    rw [← address, ← address]
    refine Ran.apart ran_on out still ?_
    rintro rfl
    -- the handle that was free is not one that was out
    obtain ⟨_, honours⟩ := ran.reached.honours
    obtain ⟨fresh, _⟩ := honours.allocated run
    obtain ⟨block, located⟩ := ran.located_of_outstanding earlier
    rw [(honours.owed _ _).mpr ⟨block, located, rfl⟩] at fresh
    cases fresh

/-- **A range that is out can be given back.** Its block is free then, and no other one changes. -/
theorem takenBack (ran : heap.Ran history) (out : Outstanding history handle size) :
    handle.offset < heap.total ∧ ∃ after, release handle heap = ⟨.ok (), after, []⟩ ∧
      after.total = heap.total ∧ after.locate handle = .refuse .invalidAddress ∧
      ∀ other, other ≠ handle → heap.Alike after other := by
  obtain ⟨blocks, honours⟩ := ran.reached.honours
  obtain ⟨block, located⟩ := ran.located_of_outstanding out
  obtain ⟨member, live, _⟩ := mem_of_locate honours.tiled located
  have inside : handle.offset < heap.total := by
    have held := (honours.tidy block member).held live
    have within := payload_inside honours.tiled located
    unfold total
    omega
  have known := handle_eq honours.tiled located
  obtain ⟨front, back, after, rfl, back_again, run⟩ :=
    honours.toRegular.released ran.counted located
  subst known
  exact ⟨inside, after, run, back_again.changed.size, back_again.refused honours.toSound,
    fun other apart => back_again.alike honours.toSound live (offset_ne apart)⟩

end Ran

end Heap

end MiniKernel
