/-
**What clients ask of a heap, and all that can come of it.**

* `Heap.Request`, `Heap.Request.perform` — the requests and how each is carried out.
* `Heap.Course` — the ways a request can go: refused, answered from the heap as it stands, or with
  one of the changes of `MiniKernel.Proofs.Heap.Owners`, of which a moving reallocation makes two.
* `Heap.write_cases`, `Heap.fill_cases`, `Heap.reallocate_cases` — each either names the block
  behind its handle or is refused with the heap as it was.
* `Heap.perform_course` — **every request on a sound heap goes one of these ways**, unless a
  lifetime counter is full. In particular it comes to its end (`Heap.Course.returns`).
-/

import MiniKernel.Proofs.Heap.Owners

namespace MiniKernel

-- A written header is known by its lemmas only.
seal Arena.setHeader

/-! ### Requests -/

/-- What a client may ask of a heap. -/
inductive Heap.Request
  | allocate (size : Nat)
  | allocateClear (count size : Nat)
  | reallocate (handle : Handle) (size : Nat)
  | release (handle : Handle)
  | capacity (handle : Handle)
  | payload (handle : Handle)
  | write (handle : Handle) (start : Nat) (values : List UInt8)
  | fill (handle : Handle) (value : UInt8)

/-- What a client is told. -/
inductive Heap.Reply
  | handle (handle : Handle)
  | count (count : Nat)
  | bytes (bytes : List UInt8)
  | done
  deriving DecidableEq, Repr

namespace Heap.Request

/-- Carry a request out. -/
def perform : Request → Action Heap HeapRefusal Reply
  | allocate size => Reply.handle <$> Heap.allocate size
  | allocateClear count size => Reply.handle <$> Heap.allocateClear count size
  | reallocate handle size => Reply.handle <$> Heap.reallocate handle size
  | release handle => (fun _ => Reply.done) <$> Heap.release handle
  | capacity handle => do return .count (← Action.ask ((← get).capacity handle))
  | payload handle => do return .bytes (← Action.ask ((← get).payload handle))
  | write handle start values => Reply.count <$> Heap.write handle start values
  | fill handle value => Reply.count <$> Heap.fill handle value

section Runs

variable {heap after : Heap} {size : Nat} {taken : Handle} {effects : List Effect}

theorem perform_allocate {result : Answer HeapRefusal Handle}
    (run : Heap.allocate size heap = ⟨result, after, effects⟩) :
    perform (.allocate size) heap = ⟨result.map .handle, after, effects⟩ := by
  rw [perform, Action.map_apply, run]

theorem perform_reallocate {result : Answer HeapRefusal Handle}
    (run : Heap.reallocate taken size heap = ⟨result, after, effects⟩) :
    perform (.reallocate taken size) heap = ⟨result.map .handle, after, effects⟩ := by
  rw [perform, Action.map_apply, run]

theorem perform_release {result : Answer HeapRefusal Unit}
    (run : Heap.release taken heap = ⟨result, after, effects⟩) :
    perform (.release taken) heap = ⟨result.map fun _ => .done, after, effects⟩ := by
  rw [perform, Action.map_apply, run]

end Runs

/-- The bytes of a new block that a request asks for. -/
def wanted? : Request → Option Nat
  | allocate size => some size
  | allocateClear count size => some (count * size)
  | _ => none

/-- The handle whose bytes a request may change. -/
def written? : Request → Option Handle
  | write handle _ _ => some handle
  | fill handle _ => some handle
  | _ => none

end Heap.Request

namespace Heap

/-- Both lifetime counters have room for one more. -/
def Countable (heap : Heap) : Prop :=
  heap.allocations + 1 < longLimit ∧ heap.releases + 1 < longLimit

instance (heap : Heap) : Decidable heap.Countable := inferInstanceAs (Decidable (_ ∧ _))

/-- **The ways a request can go** on a heap with these blocks. -/
inductive Course (before : Heap) (blocks : List Block) :
    Request → Answer HeapRefusal Reply → Heap → Prop
  | refused (request : Request) (cause : HeapRefusal) :
    Course before blocks request (.error (.refused cause)) before
  | measured {handle : Handle} {block : Block} (located : before.locate handle = .ok block) :
    Course before blocks (.capacity handle) (.ok (.count block.size)) before
  | shown {handle : Handle} {block : Block} (located : before.locate handle = .ok block) :
    Course before blocks (.payload handle)
      (.ok (.bytes (before.arena.slice handle.offset block.size))) before
  | handedOut {request : Request} {size : Nat} {front back : List Block} {block : Block}
    {after : Heap} (wants : request.wanted? = some size) (shape : blocks = front ++ block :: back)
    (free : block.isFree = true) (positive : size ≠ 0) (fits : roundUp size ≤ block.size)
    (out : before.HandedOut front block back (roundUp size) size after) :
    Course before blocks request (.ok (.handle ⟨block.payload⟩)) after
  | resized {handle : Handle} {size : Nat} {front back : List Block} {block : Block} {after : Heap}
    (shape : blocks = front ++ block :: back) (located : before.locate handle = .ok block)
    (positive : size ≠ 0) (fits : size ≤ block.size)
    (kept : before.Resized front block back size after) :
    Course before blocks (.reallocate handle size) (.ok (.handle handle)) after
  | moved {handle : Handle} {size : Nat} {front back ahead behind : List Block}
    {block old : Block} {middle after : Heap} (shape : blocks = front ++ block :: back)
    (free : block.isFree = true) (positive : size ≠ 0) (fits : roundUp size ≤ block.size)
    (out : before.HandedOut front block back (roundUp size) size middle)
    (located : before.locate handle = .ok old)
    (carved : front ++ block.carve (roundUp size) size ++ back = ahead ++ old :: behind)
    (back_again : middle.TakenBack ahead old behind after) :
    Course before blocks (.reallocate handle size) (.ok (.handle ⟨block.payload⟩)) after
  | takenBack {handle : Handle} {front back : List Block} {block : Block} {after : Heap}
    (shape : blocks = front ++ block :: back) (located : before.locate handle = .ok block)
    (back_again : before.TakenBack front block back after) :
    Course before blocks (.release handle) (.ok .done) after
  | rewritten {request : Request} {handle : Handle} {block : Block} {after : Heap} (count : Nat)
    (writes : request.written? = some handle) (located : before.locate handle = .ok block)
    (rewritten : before.Rewritten block after) :
    Course before blocks request (.ok (.count count)) after

variable {heap after : Heap} {block : Block} {blocks : List Block} {handle : Handle}

/-- However a request goes, it comes to its end. -/
theorem Course.returns {request : Request} {result : Answer HeapRefusal Reply}
    (course : heap.Course blocks request result after) : result.Returns := by
  cases course <;> first | exact Answer.returns_ok _ | exact Answer.returns_refused _

/-! ### Each request -/

/-- A computation that asks for a block first is refused with it. -/
theorem ask_refused {α β : Type} {answer : Heap → Answer HeapRefusal α}
    {next : Heap → α → Action Heap HeapRefusal β}
    (refused : answer heap = .refuse .invalidAddress) :
    (do
      let now ← get
      let value ← Action.ask (answer now)
      next now value) heap = ⟨.error (.refused .invalidAddress), heap, []⟩ := by
  refine Action.bind_steps (Action.get_apply heap) ?_
  rw [refused]
  rfl

theorem requireRange_apply {ε : Type} {offset count : Nat}
    (inside : offset + count ≤ heap.arena.size) :
    (requireRange offset count : Action Heap ε Unit) heap = ⟨.ok (), heap, []⟩ := by
  refine Action.bind_steps (Action.get_apply heap) ?_
  simp only [Arena.rangeFault?, if_pos inside]
  rfl

/-- The payload of a located block is inside the arena. -/
theorem payload_inside (tiled : heap.arena.Tiled blocks)
    (located : heap.locate handle = .ok block) :
    handle.offset + block.size ≤ heap.arena.size := by
  obtain ⟨member, _, same⟩ := mem_of_locate tiled located
  have bound := tiled.bounds member
  rw [block.stop_eq, ← block.payload_eq, same] at bound
  exact bound

theorem allocate_course (sound : heap.Sound blocks) (size : Nat)
    (going : heap.Countable ∨ (allocate size heap).result.Returns) :
    heap.Course blocks (.allocate size) ((allocate size heap).result.map .handle)
      (allocate size heap).state := by
  have further := going.imp_left fun countable => countable.1
  rcases allocate_cases sound size further with ⟨_, run⟩ | ⟨_, _, effects, _, run⟩ |
    ⟨positive, _, front, block, back, after, shape, chosen, out, run⟩
  · rw [run]
    exact .refused _ _
  · rw [run]
    exact .refused _ _
  · rw [run]
    obtain ⟨_, free, fits⟩ := bestFitAmong_mem chosen
    exact .handedOut rfl shape free positive fits out

/-- Bytes cleared or copied into a block right after it was handed out. -/
theorem HandedOut.filled {front back : List Block} {size count : Nat} {arena : Arena}
    (out : heap.HandedOut front block back (roundUp size) size after)
    (fits : roundUp size ≤ block.size) (within : count ≤ size)
    (changed : Arena.ChangedIn (Set.Ico block.payload (block.payload + count)) after.arena arena) :
    heap.HandedOut front block back (roundUp size) size { after with arena } := by
  refine out.rewritten (changed.mono (Set.Ico_subset_Ico le_rfl ?_)) fits
  have room := (Block.size_handed size fits).1
  have rounded := le_roundUp size
  rw [Block.stop_eq, Block.offset_handed, block.payload_eq]
  omega

/-- The bytes asked for of a handed block are inside the arena. -/
theorem HandedOut.inside {front back : List Block} {size : Nat}
    (out : heap.HandedOut front block back (roundUp size) size after)
    (fits : roundUp size ≤ block.size) : block.payload + size ≤ after.arena.size := by
  have member : block.handed (roundUp size) size ∈
      front ++ block.carve (roundUp size) size ++ back :=
    List.mem_append_left _ (List.mem_append_right _ List.mem_cons_self)
  have bound := out.tiled.bounds member
  have room := (Block.size_handed size fits).1
  have rounded := le_roundUp size
  rw [Block.stop_eq, Block.offset_handed] at bound
  rw [block.payload_eq]
  omega

theorem allocateClear_overflows {count size : Nat} (heap : Heap)
    (large : longLimit ≤ count * size) :
    allocateClear count size heap = ⟨.error (.refused .outOfMemory), heap, []⟩ := by
  rw [allocateClear, if_neg (Nat.not_lt.mpr large)]
  rfl

/-- Where the plain allocation fails the cleared one does. -/
theorem allocateClear_of_error {count size : Nat} {failure : Failure HeapRefusal}
    {effects : List Effect} (small : count * size < longLimit)
    (run : allocate (count * size) heap = ⟨.error failure, after, effects⟩) :
    allocateClear count size heap = ⟨.error failure, after, effects⟩ := by
  rw [allocateClear, if_pos small]
  exact Action.bind_apply_error run

/-- The heap with `count` bytes cleared behind a handle. -/
def cleared (heap : Heap) (handle : Handle) (count : Nat) : Heap :=
  { heap with arena := heap.arena.fill handle.offset 0 count }

/-- Where the plain allocation hands out a block, the cleared one does and clears it. -/
theorem HandedOut.allocateClear_eq {front back : List Block} {count size : Nat}
    (out : heap.HandedOut front block back (roundUp (count * size)) (count * size) after)
    (fits : roundUp (count * size) ≤ block.size) (small : count * size < longLimit)
    (run : allocate (count * size) heap = ⟨.ok ⟨block.payload⟩, after, []⟩) :
    allocateClear count size heap =
      ⟨.ok ⟨block.payload⟩, after.cleared ⟨block.payload⟩ (count * size), []⟩ := by
  rw [allocateClear, if_pos small]
  exact Action.bind_steps run (Action.bind_steps (requireRange_apply (out.inside fits))
    (Action.bind_steps (Action.modify_apply _ after)
      (Action.pure_apply (Handle.mk block.payload) _)))

theorem allocateClear_course (sound : heap.Sound blocks) (count size : Nat)
    (going : heap.Countable ∨ (allocateClear count size heap).result.Returns) :
    heap.Course blocks (.allocateClear count size)
      ((allocateClear count size heap).result.map .handle)
      (allocateClear count size heap).state := by
  rcases Nat.lt_or_ge (count * size) longLimit with small | large
  · have further : heap.allocations + 1 < longLimit ∨
        (allocate (count * size) heap).result.Returns := by
      rw [allocateClear, if_pos small] at going
      exact going.imp (fun countable => countable.1) Action.returns_first
    rcases allocate_cases sound (count * size) further with ⟨_, run⟩ | ⟨_, _, effects, _, run⟩ |
      ⟨positive, _, front, block, back, after, shape, chosen, out, run⟩
    · rw [allocateClear_of_error small run]
      exact .refused _ _
    · rw [allocateClear_of_error small run]
      exact .refused _ _
    · obtain ⟨_, free, fits⟩ := bestFitAmong_mem chosen
      have cleared := out.filled fits le_rfl (after.arena.changedIn_fill block.payload 0 _)
      rw [out.allocateClear_eq fits small run]
      exact .handedOut rfl shape free positive fits cleared
  · rw [heap.allocateClear_overflows large]
    exact .refused _ _

theorem release_course (sound : heap.Sound blocks) (handle : Handle)
    (going : heap.Countable ∨ (release handle heap).result.Returns) :
    heap.Course blocks (.release handle) ((release handle heap).result.map fun _ => .done)
      (release handle heap).state := by
  have further := going.imp_left fun countable => countable.2
  rcases release_cases sound handle further with ⟨_, run⟩ |
    ⟨front, block, back, after, shape, _, _, located, back_again, run⟩
  · rw [run]
    exact .refused _ _
  · rw [run]
    exact .takenBack shape located back_again

/-- Every release was of a block handed out, so while one is live the count of releases has room for
one more. -/
theorem Regular.releasable (regular : heap.Regular blocks)
    (counted : heap.allocations < longLimit) (located : heap.locate handle = .ok block) :
    heap.releases + 1 < longLimit := by
  obtain ⟨member, live, _⟩ := mem_of_locate regular.tiled located
  have tally := regular.counted
  have some_live := List.length_pos_of_mem (mem_liveBlocks.mpr ⟨member, live⟩)
  omega

/-- **A live block of a regular heap can be taken back.** -/
theorem Regular.released (regular : heap.Regular blocks) (counted : heap.allocations < longLimit)
    (located : heap.locate handle = .ok block) :
    ∃ front back after, blocks = front ++ block :: back ∧
      heap.TakenBack front block back after ∧ release handle heap = ⟨.ok (), after, []⟩ := by
  have room := regular.releasable counted located
  obtain ⟨member, _⟩ := mem_of_locate regular.tiled located
  obtain ⟨front, back, rfl⟩ := List.append_of_mem member
  obtain ⟨after, back_again, run⟩ := release_located regular.toSound located (Or.inl room)
  exact ⟨front, back, after, rfl, back_again, run⟩

/-- **All that a write can do.** -/
theorem write_cases (sound : heap.Sound blocks) (handle : Handle) (start : Nat)
    (values : List UInt8) :
    (heap.locate handle = .refuse .invalidAddress ∧
      write handle start values heap = ⟨.error (.refused .invalidAddress), heap, []⟩) ∨
    ∃ block count after, heap.locate handle = .ok block ∧ heap.Rewritten block after ∧
      write handle start values heap = ⟨.ok count, after, []⟩ := by
  rcases locate_cases sound.tiled handle with ⟨block, member, live, same, located⟩ | refused
  · refine Or.inr ⟨block, (values.take (block.size - start)).length,
      { heap with arena := heap.arena.write (handle.offset + start)
                            (values.take (block.size - start)) }, located, ?_, ?_⟩
    · refine ⟨(Arena.changedIn_write ..).mono fun offset within => ?_, rfl⟩
      have kept : (values.take (block.size - start)).length ≤ block.size - start :=
        List.length_take_le ..
      rw [Set.mem_Ico, ← same] at within
      rw [Set.mem_Ico, block.stop_eq, ← block.payload_eq]
      omega
    · refine Action.bind_steps (Action.get_apply heap) ?_
      rw [located]
      refine Action.bind_steps (Action.ask_apply _ heap) ?_
      refine Action.bind_steps (requireRange_apply (payload_inside sound.tiled located)) ?_
      exact Action.bind_steps (Action.modify_apply _ heap) (Action.pure_apply _ _)
  · exact Or.inl ⟨refused, ask_refused refused⟩

theorem write_course (sound : heap.Sound blocks) (handle : Handle) (start : Nat)
    (values : List UInt8) :
    heap.Course blocks (.write handle start values)
      ((write handle start values heap).result.map .count)
      (write handle start values heap).state := by
  rcases write_cases sound handle start values with
    ⟨_, run⟩ | ⟨block, count, after, located, rewritten, run⟩
  · rw [run]
    exact .refused _ _
  · rw [run]
    exact .rewritten _ rfl located rewritten

/-- **All that a fill can do.** -/
theorem fill_cases (sound : heap.Sound blocks) (handle : Handle) (value : UInt8) :
    (heap.locate handle = .refuse .invalidAddress ∧
      fill handle value heap = ⟨.error (.refused .invalidAddress), heap, []⟩) ∨
    ∃ block after, heap.locate handle = .ok block ∧ heap.Rewritten block after ∧
      fill handle value heap = ⟨.ok block.size, after, []⟩ := by
  rcases locate_cases sound.tiled handle with ⟨block, member, live, same, located⟩ | refused
  · refine Or.inr ⟨block, { heap with arena := heap.arena.fill handle.offset value block.size },
      located, ?_, ?_⟩
    · refine ⟨(Arena.changedIn_fill ..).mono ?_, rfl⟩
      rw [block.stop_eq, ← block.payload_eq, same]
    · refine Action.bind_steps (Action.get_apply heap) ?_
      rw [located]
      refine Action.bind_steps (Action.ask_apply _ heap) ?_
      refine Action.bind_steps (requireRange_apply (payload_inside sound.tiled located)) ?_
      exact Action.bind_steps (Action.modify_apply _ heap) (Action.pure_apply _ _)
  · exact Or.inl ⟨refused, ask_refused refused⟩

theorem fill_course (sound : heap.Sound blocks) (handle : Handle) (value : UInt8) :
    heap.Course blocks (.fill handle value) ((fill handle value heap).result.map .count)
      (fill handle value heap).state := by
  rcases fill_cases sound handle value with ⟨_, run⟩ | ⟨block, after, located, rewritten, run⟩
  · rw [run]
    exact .refused _ _
  · rw [run]
    exact .rewritten _ rfl located rewritten

theorem copy_apply {ε : Type} {source target count : Nat}
    (source_inside : source + count ≤ heap.arena.size)
    (target_inside : target + count ≤ heap.arena.size) :
    (copy source target count : Action Heap ε Unit) heap =
      ⟨.ok (), { heap with arena := heap.arena.write target (heap.arena.slice source count) },
        []⟩ := by
  refine Action.bind_steps (requireRange_apply source_inside) ?_
  exact Action.bind_steps (requireRange_apply target_inside) (Action.modify_apply _ heap)

/-- **The bytes of a smaller block copied into a block right after it was handed out.** Neither the
header of the new block nor that of what is left over of it was written onto them. -/
theorem HandedOut.copied {ε : Type} {front back : List Block} {old : Block} {size : Nat}
    (out : heap.HandedOut front block back (roundUp size) size after)
    (sound : heap.Sound (front ++ block :: back)) (free : block.isFree = true)
    (fits : roundUp size ≤ block.size) (located : heap.locate handle = .ok old)
    (grows : old.size < size) :
    ∃ filled, (copy handle.offset block.payload old.size : Action Heap ε Unit) after =
        ⟨.ok (), filled, []⟩ ∧ heap.HandedOut front block back (roundUp size) size filled ∧
      filled.arena.slice block.payload old.size = heap.arena.slice handle.offset old.size := by
  have source_inside : handle.offset + old.size ≤ after.arena.size := by
    rw [out.changed.size]
    exact payload_inside sound.tiled located
  have target_inside : block.payload + old.size ≤ after.arena.size :=
    (Nat.add_le_add_left grows.le _).trans (out.inside fits)
  have length := after.arena.length_slice handle.offset old.size
  -- the copy stays inside the block just handed out
  have changed := after.arena.changedIn_write block.payload
    (after.arena.slice handle.offset old.size)
  rw [length] at changed
  refine ⟨_, copy_apply source_inside target_inside, out.filled fits grows.le changed, ?_⟩
  have written := Arena.slice_write after.arena (length.symm ▸ target_inside)
  rw [length] at written
  -- the old block is as it was before the new one was handed out
  have alike := out.alike sound free (offset_ne (ne_of_free sound free located))
  have contents := alike.contents
  rw [payload_of_locate out.tiled (alike.located.trans located),
    payload_of_locate sound.tiled located] at contents
  exact written.trans (Except.ok.inj contents)

/-- A block kept in place has its header written once more. -/
theorem resized_setHeader {front back : List Block} {size : Nat}
    (tiled : heap.arena.Tiled (front ++ block :: back)) (fits : size ≤ block.size) :
    heap.Resized front block back size
      { heap with arena := heap.arena.setHeader block.offset (block.resized size).toHeader } := by
  have member : block ∈ front ++ block :: back := by simp
  have block_fits := tiled.fits member
  have still_fits : (block.resized size).toHeader.Fits :=
    ⟨block_fits.size, block_fits.next, block_fits.flags, lt_of_le_of_lt fits block_fits.size⟩
  have changed := heap.arena.changedIn_setHeader block.offset (block.resized size).toHeader
  obtain ⟨first, linked, last⟩ := tiled.tiles.around
  have inside := tiled.header_inside member
  refine ⟨?_, changed, rfl⟩
  rw [← List.singleton_append, ← List.append_assoc] at tiled ⊢
  refine tiled.replace first last (changed.mono (Set.Ico_subset_Ico le_rfl ?_))
    ⟨rfl, linked, rfl⟩ fun rest written => ?_
  · rw [block.stop_eq, headerBytes]
    omega
  · rw [List.mem_singleton.mp written]
    exact Arena.header_setHeader_of_fits inside still_fits

/-- **A reallocation in place.** -/
theorem reallocate_kept {front back : List Block} {size : Nat}
    (tiled : heap.arena.Tiled (front ++ block :: back)) (located : heap.locate handle = .ok block)
    (positive : size ≠ 0) (fits : size ≤ block.size) :
    ∃ after, heap.Resized front block back size after ∧
      reallocate handle size heap = ⟨.ok handle, after, []⟩ := by
  have stored := storeHeader_apply (ε := HeapRefusal) (block.resized size).toHeader
    (tiled.header_inside (show block ∈ front ++ block :: back by simp))
  refine ⟨_, resized_setHeader tiled fits, ?_⟩
  rw [reallocate, if_neg positive, Action.bind_quiet (Action.get_apply heap), located,
    Action.bind_quiet (Action.ask_apply _ heap), if_pos fits]
  exact Action.bind_steps stored (Action.pure_apply handle _)

/-- A reallocation to more bytes than there are is a new block, a copy, and a release. -/
theorem reallocate_grows {old : Block} {size : Nat} (located : heap.locate handle = .ok old)
    (grows : old.size < size) :
    reallocate handle size heap = (do
      let moved ← allocate size
      copy handle.offset moved.offset old.size
      release handle
      return moved : Action Heap HeapRefusal Handle) heap := by
  rw [reallocate, if_neg (Nat.ne_zero_of_lt grows), Action.bind_quiet (Action.get_apply heap),
    located, Action.bind_quiet (Action.ask_apply _ heap), if_neg (Nat.not_le.mpr grows)]

/-- **A moving reallocation.** Once the new block is there nothing is in the way of the rest but a
full count of releases. -/
theorem HandedOut.moved {front back : List Block} {old : Block} {size : Nat} {middle : Heap}
    (out : heap.HandedOut front block back (roundUp size) size middle)
    (sound : heap.Sound (front ++ block :: back)) (free : block.isFree = true)
    (fits : roundUp size ≤ block.size) (located : heap.locate handle = .ok old)
    (grows : old.size < size)
    (taken : allocate size heap = ⟨.ok ⟨block.payload⟩, middle, []⟩)
    (going : heap.releases + 1 < longLimit ∨ (reallocate handle size heap).result.Returns) :
    ∃ filled ahead behind after, heap.HandedOut front block back (roundUp size) size filled ∧
      filled.arena.slice block.payload old.size = heap.arena.slice handle.offset old.size ∧
      front ++ block.carve (roundUp size) size ++ back = ahead ++ old :: behind ∧
      filled.TakenBack ahead old behind after ∧
      reallocate handle size heap = ⟨.ok ⟨block.payload⟩, after, []⟩ := by
  rw [reallocate_grows located grows] at going ⊢
  obtain ⟨filled, copies, copied, bytes⟩ :=
    out.copied (ε := HeapRefusal) sound free fits located grows
  have other := offset_ne (ne_of_free sound free located)
  have still := (copied.alike sound free other).located.trans located
  have last : filled.releases + 1 < longLimit ∨ (release handle filled).result.Returns := by
    rcases going with room | returns
    · rw [copied.releases]
      exact Or.inl room
    · have copying := Action.returns_next taken returns
      have releasing := Action.returns_next copies copying
      exact Or.inr (Action.returns_first releasing)
  obtain ⟨member, _⟩ := mem_of_locate copied.tiled still
  obtain ⟨ahead, behind, carved⟩ := List.append_of_mem member
  have between := copied.sound sound free
  rw [carved] at between
  obtain ⟨after, back_again, gives⟩ := release_located between still last
  exact ⟨filled, ahead, behind, after, copied, bytes, carved, back_again,
    Action.bind_steps taken (Action.bind_steps copies (Action.bind_steps gives
      (Action.pure_apply (Handle.mk block.payload) _)))⟩

/-- A reallocation to more bytes than there are moves, or is refused for want of room. -/
theorem move_cases {size : Nat} {old : Block} (sound : heap.Sound blocks)
    (located : heap.locate handle = .ok old) (grows : old.size < size)
    (going : heap.Countable ∨ (reallocate handle size heap).result.Returns) :
    (∃ effects, reallocate handle size heap = ⟨.error (.refused .outOfMemory), heap, effects⟩) ∨
    ∃ moved after, heap.Course blocks (.reallocate handle size) (.ok (.handle moved)) after ∧
      reallocate handle size heap = ⟨.ok moved, after, []⟩ := by
  have further : heap.allocations + 1 < longLimit ∨ (allocate size heap).result.Returns := by
    rw [reallocate_grows located grows] at going
    exact going.imp (fun countable => countable.1) Action.returns_first
  rcases allocate_cases sound size further with ⟨zero, _⟩ | ⟨_, _, effects, _, taken⟩ |
    ⟨positive, _, front, block, back, middle, rfl, chosen, out, taken⟩
  · omega
  · rw [reallocate_grows located grows]
    exact Or.inl ⟨effects, Action.bind_apply_error taken⟩
  · obtain ⟨_, free, fits⟩ := bestFitAmong_mem chosen
    obtain ⟨filled, ahead, behind, after, copied, _, carved, back_again, run⟩ :=
      out.moved sound free fits located grows taken (going.imp_left fun countable => countable.2)
    exact Or.inr ⟨_, after, .moved rfl free positive fits copied located carved back_again, run⟩

/-- **All that a reallocation can do.** -/
theorem reallocate_cases (sound : heap.Sound blocks) (handle : Handle) (size : Nat)
    (going : heap.Countable ∨ (reallocate handle size heap).result.Returns) :
    (size = 0 ∧ reallocate handle size heap = ⟨.error (.refused .invalidSize), heap, []⟩) ∨
    (heap.locate handle = .refuse .invalidAddress ∧
      reallocate handle size heap = ⟨.error (.refused .invalidAddress), heap, []⟩) ∨
    (∃ block, heap.locate handle = .ok block ∧
      ∃ effects, reallocate handle size heap = ⟨.error (.refused .outOfMemory), heap, effects⟩) ∨
    ∃ moved after, heap.Course blocks (.reallocate handle size) (.ok (.handle moved)) after ∧
      reallocate handle size heap = ⟨.ok moved, after, []⟩ := by
  by_cases zero : size = 0
  · rw [reallocate, if_pos zero]
    exact Or.inl ⟨zero, rfl⟩
  rcases locate_cases sound.tiled handle with ⟨old, member, live, same, located⟩ | refused
  · by_cases fits : size ≤ old.size
    · obtain ⟨front, back, rfl⟩ := List.append_of_mem member
      obtain ⟨after, resized, run⟩ := reallocate_kept sound.tiled located zero fits
      exact Or.inr (Or.inr (Or.inr ⟨handle, after, .resized rfl located zero fits resized, run⟩))
    · rcases move_cases sound located (Nat.lt_of_not_le fits) going with full | moved
      · exact Or.inr (Or.inr (Or.inl ⟨old, located, full⟩))
      · exact Or.inr (Or.inr (Or.inr moved))
  · rw [reallocate, if_neg zero]
    exact Or.inr (Or.inl ⟨refused, ask_refused refused⟩)

theorem reallocate_course (sound : heap.Sound blocks) (handle : Handle) (size : Nat)
    (going : heap.Countable ∨ (reallocate handle size heap).result.Returns) :
    heap.Course blocks (.reallocate handle size) ((reallocate handle size heap).result.map .handle)
      (reallocate handle size heap).state := by
  rcases reallocate_cases sound handle size going with ⟨_, run⟩ | ⟨_, run⟩ | ⟨_, _, _, run⟩ |
    ⟨moved, after, course, run⟩
  · rw [run]
    exact .refused _ _
  · rw [run]
    exact .refused _ _
  · rw [run]
    exact .refused _ _
  · rw [run]
    exact course

/-- **Every request on a sound heap goes one of these ways**, unless a lifetime counter is full. -/
theorem perform_course (sound : heap.Sound blocks) (request : Request)
    (going : heap.Countable ∨ (request.perform heap).result.Returns) :
    heap.Course blocks request (request.perform heap).result (request.perform heap).state := by
  cases request with
  | allocate size =>
    rw [Request.perform, Action.map_apply] at going ⊢
    exact allocate_course sound size (going.imp_right Answer.returns_of_map)
  | allocateClear count size =>
    rw [Request.perform, Action.map_apply] at going ⊢
    exact allocateClear_course sound count size (going.imp_right Answer.returns_of_map)
  | reallocate handle size =>
    rw [Request.perform, Action.map_apply] at going ⊢
    exact reallocate_course sound handle size (going.imp_right Answer.returns_of_map)
  | release handle =>
    rw [Request.perform, Action.map_apply] at going ⊢
    exact release_course sound handle (going.imp_right Answer.returns_of_map)
  | write handle start values =>
    rw [Request.perform, Action.map_apply]
    exact write_course sound handle start values
  | fill handle value =>
    rw [Request.perform, Action.map_apply]
    exact fill_course sound handle value
  | capacity handle =>
    rcases locate_cases sound.tiled handle with ⟨block, _, _, _, located⟩ | refused
    · have run : (Request.capacity handle).perform heap = ⟨.ok (.count block.size), heap, []⟩ := by
        refine Action.bind_steps (Action.get_apply heap) ?_
        rw [capacity, located]
        rfl
      rw [run]
      exact .measured located
    · have none_there : heap.capacity handle = .refuse .invalidAddress := by
        rw [capacity, refused]
        rfl
      have run : (Request.capacity handle).perform heap =
          ⟨.error (.refused .invalidAddress), heap, []⟩ := ask_refused none_there
      rw [run]
      exact .refused _ _
  | payload handle =>
    rcases locate_cases sound.tiled handle with ⟨block, _, _, _, located⟩ | refused
    · have run : (Request.payload handle).perform heap =
          ⟨.ok (.bytes (heap.arena.slice handle.offset block.size)), heap, []⟩ := by
        refine Action.bind_steps (Action.get_apply heap) ?_
        rw [payload_of_locate sound.tiled located]
        rfl
      rw [run]
      exact .shown located
    · have run : (Request.payload handle).perform heap =
          ⟨.error (.refused .invalidAddress), heap, []⟩ := ask_refused (payload_of_refuse refused)
      rw [run]
      exact .refused _ _

end Heap

end MiniKernel
