/-
**What the payloads hold decides nothing.**

Headers and payloads share one array of bytes, so what an owner writes could sway what the heap does
next. Two runs are compared here, from arenas of one base and length with any bytes in them, that
make the same calls between any writes.

* `Outcome.Alike` — two computations give one answer and leave the same effects, in related states;
  `Outcome.Alike.bind` composes them.
* `Heap.Twins` — two heaps with the same blocks and the same counters, whatever their payloads hold.
* `Heap.Twins.outlined_alike` — **a call on twins has one answer and leaves twins.**
* `Heap.transcript` — all that can be learned in a run without reading payload bytes, with
  everything there is to ask about the heap asked again after each call.
  `Heap.transcript_independent`: both runs have one transcript, and every audit in it is passed.
-/

import MiniKernel.Proofs.Heap.Integrity

namespace MiniKernel

-- A written header is known by its lemmas only.
seal Arena.setHeader

/-! ### Computations with one answer -/

/-- **Two outcomes with one answer and the same effects**, in related states unless the machine
stopped. -/
structure Outcome.Alike {σ ε α : Type} (related : σ → σ → Prop) (first second : Outcome σ ε α) :
    Prop where
  result : second.result = first.result
  effects : second.effects = first.effects
  states : first.result.Returns → related first.state second.state

namespace Outcome.Alike

variable {σ ε α β : Type} {related : σ → σ → Prop} {state other : σ} {first second : Action σ ε α}

/-- Two outcomes with the same answer and no effects. -/
theorem quiet (answer : Answer ε α) (states : answer.Returns → related state other) :
    Alike related ⟨answer, state, []⟩ ⟨answer, other, []⟩ := ⟨rfl, rfl, states⟩

theorem bind {next further : α → Action σ ε β} (here : Alike related (first state) (second other))
    (later : ∀ value, (first state).result = .ok value →
      related (first state).state (second other).state →
        Alike related (next value (first state).state) (further value (second other).state)) :
    Alike related ((first >>= next) state) ((second >>= further) other) := by
  have states := here.states
  rw [Action.bind_apply, Action.bind_apply, here.result]
  cases ends : (first state).result with
  | error failure =>
    rw [ends] at states
    refine ⟨rfl, here.effects, fun returns => states fun cause stopped => ?_⟩
    exact returns cause (congrArg _ (Except.error.inj stopped))
  | ok value =>
    rw [ends] at states
    have rest := later value ends (states (Answer.returns_ok value))
    exact ⟨rest.result, congrArg₂ _ here.effects rest.effects, rest.states⟩

theorem map (rename : α → β) (here : Alike related (first state) (second other)) :
    Alike related ((rename <$> first) state) ((rename <$> second) other) := by
  rw [Action.map_apply, Action.map_apply]
  exact ⟨congrArg (Except.map rename) here.result, here.effects, fun returns =>
    here.states (Answer.returns_of_map returns)⟩

end Outcome.Alike

/-! ### Heaps with the same blocks -/

/-- **Two heaps that differ in the bytes of their payloads at most.** -/
structure Heap.Twins (first second : Heap) (blocks : List Block) : Prop where
  sound : first.Sound blocks
  other : second.Sound blocks
  base : second.base = first.base
  allocations : second.allocations = first.allocations
  releases : second.releases = first.releases

/-- Two heaps are twins for some list of blocks. -/
def Heap.Paired (first second : Heap) : Prop := ∃ blocks, first.Twins second blocks

namespace Heap

variable {heap after first second third twin : Heap} {block : Block}
  {blocks front back : List Block} {handle : Handle} {wanted size : Nat}

namespace Twins

theorem symm (twins : first.Twins second blocks) : second.Twins first blocks :=
  ⟨twins.other, twins.sound, twins.base.symm, twins.allocations.symm, twins.releases.symm⟩

theorem trans (twins : first.Twins second blocks) (more : second.Twins third blocks) :
    first.Twins third blocks :=
  ⟨twins.sound, more.other, more.base.trans twins.base, more.allocations.trans twins.allocations,
    more.releases.trans twins.releases⟩

theorem paired (twins : first.Twins second blocks) : first.Paired second := ⟨blocks, twins⟩

theorem used (twins : first.Twins second blocks) : second.used = first.used := by
  rw [twins.other.used, twins.sound.used]

theorem free (twins : first.Twins second blocks) : second.free = first.free := by
  rw [twins.other.free, twins.sound.free]

theorem total (twins : first.Twins second blocks) : second.total = first.total := by
  rw [← twins.other.used_add_free, ← twins.sound.used_add_free, twins.used, twins.free]

theorem chain (twins : first.Twins second blocks) : second.arena.chain = first.arena.chain := by
  rw [twins.other.tiled.chain_eq, twins.sound.tiled.chain_eq]

/-- Twins accept the same handles. -/
theorem located (twins : first.Twins second blocks) (handle : Handle) :
    second.locate handle = first.locate handle := by
  unfold locate
  rw [twins.chain]

/-! ### Changes made on both -/

theorem handedOut (twins : first.Twins second (front ++ block :: back))
    (free : block.isFree = true) (out : first.HandedOut front block back wanted size after)
    (out_too : second.HandedOut front block back wanted size twin) :
    after.Twins twin (front ++ block.carve wanted size ++ back) := by
  refine ⟨out.sound twins.sound free, out_too.sound twins.other free, ?_, ?_, ?_⟩
  · exact out_too.changed.base.trans (twins.base.trans out.changed.base.symm)
  · rw [out_too.allocations, out.allocations, twins.allocations]
  · rw [out_too.releases, out.releases, twins.releases]

theorem takenBack (twins : first.Twins second (front ++ block :: back))
    (live : block.isFree = false) (back_again : first.TakenBack front block back after)
    (back_too : second.TakenBack front block back twin) :
    after.Twins twin (merged (front ++ block.vacated :: back)) := by
  refine ⟨back_again.sound twins.sound live, back_too.sound twins.other live, ?_, ?_, ?_⟩
  · exact back_too.changed.base.trans (twins.base.trans back_again.changed.base.symm)
  · rw [back_too.allocations, back_again.allocations, twins.allocations]
  · rw [back_too.releases, back_again.releases, twins.releases]

theorem resized (twins : first.Twins second (front ++ block :: back))
    (live : block.isFree = false) (kept : first.Resized front block back size after)
    (kept_too : second.Resized front block back size twin) :
    after.Twins twin (front ++ block.resized size :: back) := by
  refine ⟨kept.sound twins.sound live, kept_too.sound twins.other live, ?_, ?_, ?_⟩
  · exact kept_too.changed.base.trans (twins.base.trans kept.changed.base.symm)
  · rw [kept_too.counters, kept.counters]
    exact twins.allocations
  · rw [kept_too.counters, kept.counters]
    exact twins.releases

end Twins

/-- Bytes written into a payload leave a twin of the heap. -/
theorem Rewritten.twins (rewritten : heap.Rewritten block after) (sound : heap.Sound blocks)
    (member : block ∈ blocks) : heap.Twins after blocks := by
  refine ⟨sound, rewritten.sound sound member, rewritten.changed.base, ?_, ?_⟩
  · rw [rewritten.counters]
  · rw [rewritten.counters]

/-! ### A full count stops both -/

theorem take_full {ε : Type} (size : Nat) (tiled : heap.arena.Tiled (front ++ block :: back))
    (fits : wanted ≤ block.size) (used : heap.used + block.span < longLimit)
    (free : block.span ≤ heap.free) (full : ¬ heap.allocations + 1 < longLimit) :
    ∃ after, (take block wanted size : Action Heap ε Handle) heap =
      ⟨.error (.aborted (.overflow .add)), after, []⟩ := by
  have member : block ∈ front ++ block :: back := by simp
  obtain ⟨arena, header, cut, changed, _, written⟩ := split_apply (ε := ε) tiled member wanted size
  have inside : block.offset + headerBytes ≤ arena.size := by
    rw [changed.size]
    exact tiled.header_inside member
  have less : header.span ≤ block.span := by
    show headerBytes + (header.taken size).size ≤ _
    rw [written]
    exact Nat.add_le_add_left (Block.size_handed size fits).2 _
  obtain ⟨after, stops⟩ := chargeTaken_full (ε := ε)
    { heap with arena := arena.setHeader block.offset (header.taken size) }
    (lt_of_le_of_lt (Nat.add_le_add_left less heap.used) used) (less.trans free) full
  refine ⟨after, Action.bind_steps cut (Action.bind_steps (storeHeader_apply _ inside) ?_)⟩
  exact Action.bind_apply_error stops

theorem release_full (sound : heap.Sound blocks) (located : heap.locate handle = .ok block)
    (full : ¬ heap.releases + 1 < longLimit) :
    ∃ after, release handle heap = ⟨.error (.aborted (.overflow .add)), after, []⟩ := by
  obtain ⟨member, live, _⟩ := mem_of_locate sound.tiled located
  obtain ⟨front, back, rfl⟩ := List.append_of_mem member
  obtain ⟨room, free⟩ := sound.room_of_live live
  obtain ⟨after, stops⟩ := chargeReleased_full (ε := HeapRefusal)
    { heap with arena := heap.arena.setHeader block.offset block.freed } room free full
  refine ⟨after, Action.bind_steps (Action.get_apply heap) ?_⟩
  rw [located]
  refine Action.bind_steps (Action.ask_apply _ heap) ?_
  refine Action.bind_steps (storeHeader_apply _ (sound.tiled.header_inside member)) ?_
  exact Action.bind_apply_error stops

/-! ### Each call on twins -/

namespace Twins

/-- **An allocation on twins** hands out nothing on either, or the same block on both. -/
theorem allocate_cases (twins : first.Twins second blocks) (size : Nat) :
    (Outcome.Alike Paired (allocate size first) (allocate size second) ∧
      ∀ handle, (allocate size first).result ≠ .ok handle) ∨
    ∃ front block back after twin, blocks = front ++ block :: back ∧ block.isFree = true ∧
      roundUp size ≤ block.size ∧ first.HandedOut front block back (roundUp size) size after ∧
      second.HandedOut front block back (roundUp size) size twin ∧
      allocate size first = ⟨.ok ⟨block.payload⟩, after, []⟩ ∧
      allocate size second = ⟨.ok ⟨block.payload⟩, twin, []⟩ := by
  unfold allocate
  rw [Action.bind_quiet (Action.get_apply first), Action.bind_quiet (Action.get_apply second),
    twins.total, twins.free]
  by_cases zero : size = 0
  · rw [if_pos zero, if_pos zero]
    exact Or.inl ⟨.quiet _ fun _ => twins.paired, fun _ equal => by cases equal⟩
  by_cases large : first.total < size
  · rw [if_neg zero, if_neg zero, if_pos large, if_pos large]
    exact Or.inl ⟨.quiet _ fun _ => twins.paired, fun _ equal => by cases equal⟩
  rw [if_neg zero, if_neg zero, if_neg large, if_neg large, bestFit_eq twins.sound.tiled,
    bestFit_eq twins.other.tiled, Action.bind_quiet (Action.ask_apply _ first),
    Action.bind_quiet (Action.ask_apply _ second)]
  cases chosen : bestFitAmong (roundUp size) blocks with
  | none => exact Or.inl ⟨⟨rfl, rfl, fun _ => twins.paired⟩, fun _ equal => by cases equal⟩
  | some block =>
    obtain ⟨member, free, fits⟩ := bestFitAmong_mem chosen
    obtain ⟨front, back, rfl⟩ := List.append_of_mem member
    obtain ⟨room, used⟩ := twins.sound.room_of_free free
    obtain ⟨room_too, used_too⟩ := twins.other.room_of_free free
    by_cases countable : first.allocations + 1 < longLimit
    · obtain ⟨after, taken, out⟩ := take_apply (ε := HeapRefusal) twins.sound.tiled fits
        (le_roundUp size) used room (Or.inl countable)
      obtain ⟨twin, taken_too, out_too⟩ := take_apply (ε := HeapRefusal) twins.other.tiled fits
        (le_roundUp size) used_too room_too (Or.inl (twins.allocations ▸ countable))
      exact Or.inr ⟨front, block, back, after, twin, rfl, free, fits, out, out_too, taken,
        taken_too⟩
    · obtain ⟨after, stops⟩ := take_full (ε := HeapRefusal) size twins.sound.tiled fits used
        room countable
      obtain ⟨twin, stops_too⟩ := take_full (ε := HeapRefusal) size twins.other.tiled fits
        used_too room_too (twins.allocations ▸ countable)
      refine Or.inl ?_
      simp only [stops, stops_too]
      exact ⟨.quiet _ fun returns => absurd rfl (returns _), fun _ equal => by cases equal⟩

theorem allocate_alike (twins : first.Twins second blocks) (size : Nat) :
    Outcome.Alike Paired (allocate size first) (allocate size second) := by
  rcases twins.allocate_cases size with ⟨alike, _⟩ |
    ⟨front, block, back, after, twin, rfl, free, _, out, out_too, taken, taken_too⟩
  · exact alike
  · rw [taken, taken_too]
    exact .quiet _ fun _ => (twins.handedOut free out out_too).paired

theorem allocateClear_alike (twins : first.Twins second blocks) (count size : Nat) :
    Outcome.Alike Paired (allocateClear count size first) (allocateClear count size second) := by
  unfold allocateClear
  by_cases small : count * size < longLimit
  · rw [if_pos small]
    rcases twins.allocate_cases (count * size) with ⟨alike, short⟩ |
      ⟨front, block, back, after, twin, rfl, free, fits, out, out_too, taken, taken_too⟩
    · exact alike.bind fun handle given => absurd given (short handle)
    · have cleared := out.filled fits le_rfl (after.arena.changedIn_fill block.payload 0 _)
      have cleared_too := out_too.filled fits le_rfl (twin.arena.changedIn_fill block.payload 0 _)
      rw [Action.bind_quiet taken, Action.bind_quiet taken_too,
        Action.bind_quiet (requireRange_apply (out.inside fits)),
        Action.bind_quiet (requireRange_apply (out_too.inside fits))]
      exact .quiet _ fun _ => (twins.handedOut free cleared cleared_too).paired
  · rw [if_neg small]
    exact .quiet _ fun _ => twins.paired

theorem release_alike (twins : first.Twins second blocks) (handle : Handle) :
    Outcome.Alike Paired (release handle first) (release handle second) := by
  rcases locate_cases twins.sound.tiled handle with ⟨block, member, live, _, located⟩ | refused
  · have located_too := (twins.located handle).trans located
    by_cases countable : first.releases + 1 < longLimit
    · obtain ⟨front, back, rfl⟩ := List.append_of_mem member
      obtain ⟨after, back_again, run⟩ := release_located twins.sound located (Or.inl countable)
      obtain ⟨twin, back_too, run_too⟩ :=
        release_located twins.other located_too (Or.inl (twins.releases ▸ countable))
      rw [run, run_too]
      exact .quiet _ fun _ => (twins.takenBack live back_again back_too).paired
    · obtain ⟨after, stops⟩ := release_full twins.sound located countable
      obtain ⟨twin, stops_too⟩ := release_full twins.other located_too
        (twins.releases ▸ countable)
      rw [stops, stops_too]
      exact .quiet _ fun returns => absurd rfl (returns _)
  · have refused_too := (twins.located handle).trans refused
    unfold release
    rw [ask_refused refused, ask_refused refused_too]
    exact .quiet _ fun _ => twins.paired

/-- **A moving reallocation on twins**: the new block, the copy and the old block taken back. -/
theorem move_alike {old : Block} (twins : first.Twins second blocks)
    (located : first.locate handle = .ok old) (grows : old.size < size) :
    Outcome.Alike Paired (reallocate handle size first) (reallocate handle size second) := by
  have located_too := (twins.located handle).trans located
  rw [reallocate_grows located grows, reallocate_grows located_too grows]
  rcases twins.allocate_cases size with ⟨alike, short⟩ |
    ⟨front, block, back, after, twin, rfl, free, fits, out, out_too, taken, taken_too⟩
  · exact alike.bind fun handle given => absurd given (short handle)
  obtain ⟨filled, copies, copied, _⟩ :=
    out.copied (ε := HeapRefusal) twins.sound free fits located grows
  obtain ⟨filled_too, copies_too, copied_too, _⟩ :=
    out_too.copied (ε := HeapRefusal) twins.other free fits located_too grows
  have moved := twins.handedOut free copied copied_too
  rw [Action.bind_quiet taken, Action.bind_quiet taken_too,
    Action.bind_quiet copies, Action.bind_quiet copies_too]
  exact (moved.release_alike handle).bind fun _ _ related => .quiet _ fun _ => related

theorem reallocate_alike (twins : first.Twins second blocks) (handle : Handle) (size : Nat) :
    Outcome.Alike Paired (reallocate handle size first) (reallocate handle size second) := by
  by_cases zero : size = 0
  · rw [reallocate, if_pos zero]
    exact .quiet _ fun _ => twins.paired
  rcases locate_cases twins.sound.tiled handle with ⟨old, member, live, _, located⟩ | refused
  · by_cases fits : size ≤ old.size
    · obtain ⟨front, back, rfl⟩ := List.append_of_mem member
      obtain ⟨after, resized, run⟩ := reallocate_kept twins.sound.tiled located zero fits
      obtain ⟨twin, resized_too, run_too⟩ :=
        reallocate_kept twins.other.tiled ((twins.located handle).trans located) zero fits
      rw [run, run_too]
      exact .quiet _ fun _ => (twins.resized live resized resized_too).paired
    · exact twins.move_alike located (Nat.lt_of_not_le fits)
  · rw [reallocate, if_neg zero, ask_refused refused,
      ask_refused ((twins.located handle).trans refused)]
    exact .quiet _ fun _ => twins.paired

end Twins

/-! ### Calls, and what they tell -/

/-- The answer with the bytes of a payload left out. -/
def Reply.outline : Reply → Reply
  | .bytes values => .count values.length
  | reply => reply

namespace Request

/-- Whether a request asks for anything but a write of payload bytes. -/
def isCall (request : Request) : Bool := request.written?.isNone

/-- Carry a request out and leave payload bytes out of its answer. -/
def outlined (request : Request) : Action Heap HeapRefusal Reply :=
  Reply.outline <$> request.perform

end Request

/-- **A call on twins has one answer and leaves twins.** -/
theorem Twins.outlined_alike (twins : first.Twins second blocks) {request : Request}
    (call : request.isCall = true) :
    Outcome.Alike Paired (request.outlined first) (request.outlined second) := by
  cases request with
  | allocate size => exact ((twins.allocate_alike size).map _).map _
  | allocateClear count size => exact ((twins.allocateClear_alike count size).map _).map _
  | reallocate handle size => exact ((twins.reallocate_alike handle size).map _).map _
  | release handle => exact ((twins.release_alike handle).map _).map _
  | capacity handle =>
    refine Outcome.Alike.map _ ?_
    simp only [Request.perform]
    rw [Action.bind_quiet (Action.get_apply first), Action.bind_quiet (Action.get_apply second),
      capacity, capacity, twins.located]
    exact (Outcome.Alike.quiet _ fun _ => twins.paired).bind fun _ _ related =>
      .quiet _ fun _ => related
  | payload handle =>
    simp only [Request.outlined, Request.perform]
    rw [Action.map_apply, Action.map_apply, Action.bind_quiet (Action.get_apply first),
      Action.bind_quiet (Action.get_apply second)]
    rcases locate_cases twins.sound.tiled handle with ⟨block, _, _, _, located⟩ | refused
    · rw [payload_of_locate twins.sound.tiled located,
        payload_of_locate twins.other.tiled ((twins.located handle).trans located)]
      refine ⟨?_, rfl, fun _ => twins.paired⟩
      show Except.ok (Reply.count _) = Except.ok (Reply.count _)
      rw [Arena.length_slice, Arena.length_slice]
    · rw [payload_of_refuse refused, payload_of_refuse ((twins.located handle).trans refused)]
      exact .quiet _ fun _ => twins.paired
  | write handle start values => cases call
  | fill handle value => cases call

/-! ### Runs -/

/-- All there is to ask about a heap as a whole. -/
structure Survey where
  base : Nat
  total : Nat
  used : Nat
  free : Nat
  allocations : Nat
  releases : Nat
  largestRoom : Answer Empty Nat
  blocks : Answer Empty (List Block)
  audit : Answer Violation Unit

/-- The answers to all of it. -/
def survey (heap : Heap) : Survey where
  base := heap.base
  total := heap.total
  used := heap.used
  free := heap.free
  allocations := heap.allocations
  releases := heap.releases
  largestRoom := heap.largestRoom
  blocks := heap.blocks
  audit := heap.verify

/-- What one call tells, and the heap surveyed after it; or what stopped the machine. -/
inductive Entry
  | answered (answer : Except HeapRefusal Reply) (effects : List Effect) (after : Survey)
  | stopped (cause : Abort) (effects : List Effect)

/-- **All that is told in a run**: an entry for each call, none for a write. -/
def transcript (heap : Heap) : List Request → List Entry
  | [] => []
  | request :: rest =>
    let note (answer : Except HeapRefusal Reply) (effects : List Effect) (after : Heap) :=
      (if request.isCall then [Entry.answered answer effects after.survey] else []) ++
        after.transcript rest
    match request.outlined heap with
    | ⟨.ok reply, after, effects⟩ => note (.ok reply) effects after
    | ⟨.error (.refused cause), after, effects⟩ => note (.error cause) effects after
    | ⟨.error (.aborted cause), _, effects⟩ => [.stopped cause effects]

theorem Twins.survey (twins : first.Twins second blocks) : second.survey = first.survey := by
  have first_audit := verify_eq_ok_iff.mpr ⟨blocks, twins.sound⟩
  have second_audit := verify_eq_ok_iff.mpr ⟨blocks, twins.other⟩
  simp only [Heap.survey, largestRoom, Heap.blocks, twins.base, twins.total, twins.used, twins.free,
    twins.allocations, twins.releases, twins.chain, first_audit, second_audit]

section Runs

variable {request : Request} {requests others : List Request} {reply : Reply}
  {cause : HeapRefusal} {effects : List Effect}

/-- The entry of a request, none for a write. -/
theorem transcript_ok (rest : List Request)
    (run : request.outlined heap = ⟨.ok reply, after, effects⟩) :
    heap.transcript (request :: rest) =
      (if request.isCall then [.answered (.ok reply) effects after.survey] else []) ++
        after.transcript rest := by
  rw [transcript, run]

theorem transcript_refused (rest : List Request)
    (run : request.outlined heap = ⟨.error (.refused cause), after, effects⟩) :
    heap.transcript (request :: rest) =
      (if request.isCall then [.answered (.error cause) effects after.survey] else []) ++
        after.transcript rest := by
  rw [transcript, run]

theorem transcript_stopped {cause : Abort} (rest : List Request)
    (run : request.outlined heap = ⟨.error (.aborted cause), after, effects⟩) :
    heap.transcript (request :: rest) = [.stopped cause effects] := by
  rw [transcript, run]

/-- **A write tells nothing and leaves a twin of the heap.** -/
theorem transcript_written (rest : List Request) (sound : heap.Sound blocks)
    (written : request.isCall = false) :
    ∃ after, heap.Twins after blocks ∧
      heap.transcript (request :: rest) = after.transcript rest := by
  have same : heap.Twins heap blocks := ⟨sound, sound, rfl, rfl, rfl⟩
  cases request with
  | write handle start values =>
    rcases write_cases sound handle start values with
      ⟨_, run⟩ | ⟨block, count, after, located, rewritten, run⟩
    · have outlined : (Request.write handle start values).outlined heap =
          ⟨.error (.refused .invalidAddress), heap, []⟩ := by
        simp only [Request.outlined, Request.perform, Action.map_apply, run]
        rfl
      exact ⟨heap, same, transcript_refused rest outlined⟩
    · have outlined : (Request.write handle start values).outlined heap =
          ⟨.ok (.count count), after, []⟩ := by
        simp only [Request.outlined, Request.perform, Action.map_apply, run]
        rfl
      obtain ⟨member, _⟩ := mem_of_locate sound.tiled located
      exact ⟨after, rewritten.twins sound member, transcript_ok rest outlined⟩
  | fill handle value =>
    rcases fill_cases sound handle value with ⟨_, run⟩ | ⟨block, after, located, rewritten, run⟩
    · have outlined : (Request.fill handle value).outlined heap =
          ⟨.error (.refused .invalidAddress), heap, []⟩ := by
        simp only [Request.outlined, Request.perform, Action.map_apply, run]
        rfl
      exact ⟨heap, same, transcript_refused rest outlined⟩
    · have outlined : (Request.fill handle value).outlined heap =
          ⟨.ok (.count block.size), after, []⟩ := by
        simp only [Request.outlined, Request.perform, Action.map_apply, run]
        rfl
      obtain ⟨member, _⟩ := mem_of_locate sound.tiled located
      exact ⟨after, rewritten.twins sound member, transcript_ok rest outlined⟩
  | _ => cases written

/-- Any number of writes. -/
theorem transcript_front {front : List Request} (rest : List Request) (sound : heap.Sound blocks)
    (written : ∀ request ∈ front, ¬ request.isCall = true) :
    ∃ after, heap.Twins after blocks ∧
      heap.transcript (front ++ rest) = after.transcript rest := by
  induction front generalizing heap with
  | nil => exact ⟨heap, ⟨sound, sound, rfl, rfl, rfl⟩, rfl⟩
  | cons request front ih =>
    obtain ⟨first_written, later_written⟩ := List.forall_mem_cons.mp written
    obtain ⟨middle, twins, here⟩ := transcript_written (front ++ rest) sound
      (Bool.eq_false_of_not_eq_true first_written)
    obtain ⟨after, more, later⟩ := ih twins.other later_written
    exact ⟨after, twins.trans more, here.trans later⟩

/-- **Twins that are asked the same tell the same**, whatever is written between the calls. -/
theorem Twins.transcript_eq (twins : first.Twins second blocks)
    (calls : others.filter Request.isCall = requests.filter Request.isCall) :
    second.transcript others = first.transcript requests := by
  induction requests generalizing others first second blocks with
  | nil =>
    have written := List.filter_eq_nil_iff.mp calls
    obtain ⟨after, _, front⟩ := transcript_front [] twins.other written
    rw [List.append_nil] at front
    rw [front]
    rfl
  | cons request rest ih =>
    cases call : request.isCall with
    | false =>
      rw [List.filter_cons_of_neg (by simp [call])] at calls
      obtain ⟨after, kept, told⟩ := transcript_written rest twins.sound call
      rw [told]
      exact ih (kept.symm.trans twins) calls
    | true =>
      rw [List.filter_cons_of_pos call] at calls
      obtain ⟨front, back, rfl, written, _, calls⟩ := List.filter_eq_cons_iff.mp calls
      obtain ⟨after, kept, told⟩ := transcript_front (request :: back) twins.other written
      rw [told]
      have alike := (twins.trans kept).outlined_alike call
      have same := alike.result
      have effects := alike.effects
      have states := alike.states
      cases run : request.outlined first with
      | mk result later said =>
        cases run_too : request.outlined after with
        | mk result_too later_too said_too =>
          rw [run, run_too] at same effects
          rw [run, run_too] at states
          cases same
          cases effects
          cases result with
          | ok reply =>
            obtain ⟨blocks, twins⟩ := states (Answer.returns_ok reply)
            rw [transcript_ok rest run, transcript_ok back run_too, twins.survey, ih twins calls]
          | error failure =>
            cases failure with
            | refused cause =>
              obtain ⟨blocks, twins⟩ := states (Answer.returns_refused cause)
              rw [transcript_refused rest run, transcript_refused back run_too, twins.survey,
                ih twins calls]
            | aborted cause => rw [transcript_stopped rest run, transcript_stopped back run_too]

/-- A request that comes to its end leaves a heap whose audit is passed. -/
theorem outlined_sound {result : Answer HeapRefusal Reply} (sound : heap.Sound blocks)
    (run : request.outlined heap = ⟨result, after, effects⟩) (returns : result.Returns) :
    ∃ later, after.Sound later := by
  rw [Request.outlined, Action.map_apply] at run
  cases run
  have course := perform_course sound request (Or.inr (Answer.returns_of_map returns))
  exact course.sound sound

/-- **Every audit in a run is passed.** -/
theorem audited {answer : Except HeapRefusal Reply} {said : Survey} (sound : heap.Sound blocks)
    (told : .answered answer effects said ∈ heap.transcript requests) : said.audit = .ok () := by
  induction requests generalizing heap blocks with
  | nil => cases told
  | cons request rest ih =>
    -- an entry is about the heap right after its call, or it is in the rest of the run
    have step : ∀ {after : Heap} {blocks : List Block} {given : Except HeapRefusal Reply}
        {noted : List Effect}, after.Sound blocks →
          .answered answer effects said ∈
            (if request.isCall then [.answered given noted after.survey] else []) ++
              after.transcript rest →
          said.audit = .ok () := by
      intro after blocks given noted sound told
      rcases List.mem_append.mp told with here | beyond
      · split at here
        · cases List.mem_singleton.mp here
          exact verify_eq_ok_iff.mpr ⟨blocks, sound⟩
        · cases here
      · exact ih sound beyond
    cases run : request.outlined heap with
    | mk result after noted =>
      cases result with
      | ok reply =>
        obtain ⟨later, sound⟩ := outlined_sound sound run (Answer.returns_ok reply)
        rw [transcript_ok rest run] at told
        exact step sound told
      | error failure =>
        cases failure with
        | refused cause =>
          obtain ⟨later, sound⟩ := outlined_sound sound run (Answer.returns_refused cause)
          rw [transcript_refused rest run] at told
          exact step sound told
        | aborted cause =>
          rw [transcript_stopped rest run] at told
          cases List.mem_singleton.mp told

end Runs

/-! ### Two arenas -/

/-- Fresh heaps of one base and length are twins. -/
theorem twins_ofArena {arena other : Arena} (base : other.base = arena.base)
    (size : other.size = arena.size) : (ofArena arena).Twins (ofArena other) [arena.whole] := by
  have whole : other.whole = arena.whole := by rw [Arena.whole, size, Arena.whole]
  refine ⟨(regular_whole arena).toSound, ?_, ?_, rfl, rfl⟩
  · rw [← whole]
    exact (regular_whole other).toSound
  · show (other.setHeader 0 _).base = (arena.setHeader 0 _).base
    rw [Arena.base_setHeader, Arena.base_setHeader, base]

/-- **Payload bytes decide nothing.** Two regions with any bytes in them become heaps of one base
and length. Whatever is written in either run, through whatever handles, runs that make the same
calls have the same transcript: every answer, every notice, and after every call the counters, the
largest room, the blocks and the audit, which is passed each time. -/
theorem transcript_independent {region other : Region} {heap twin : Heap}
    (made : ((create region : Action Unit HeapRefusal Heap) ()).result = .ok heap)
    (made_too : ((create other : Action Unit HeapRefusal Heap) ()).result = .ok twin)
    (base : twin.base = heap.base) (total : twin.total = heap.total)
    (requests others : List Request)
    (calls : others.filter Request.isCall = requests.filter Request.isCall) :
    twin.survey = heap.survey ∧ heap.survey.audit = .ok () ∧
      twin.transcript others = heap.transcript requests ∧
      ∀ answer effects after, .answered answer effects after ∈ heap.transcript requests →
        after.audit = .ok () := by
  obtain ⟨arena, _, rfl⟩ := create_eq_ok_iff.mp made
  obtain ⟨second, _, rfl⟩ := create_eq_ok_iff.mp made_too
  have same_base : second.base = arena.base := by
    have same : (second.setHeader 0 _).base = (arena.setHeader 0 _).base := base
    rwa [Arena.base_setHeader, Arena.base_setHeader] at same
  have same_size : second.size = arena.size := by
    have same : (second.setHeader 0 _).size = (arena.setHeader 0 _).size := total
    rwa [Arena.size_setHeader, Arena.size_setHeader] at same
  have twins := twins_ofArena same_base same_size
  exact ⟨twins.survey, verify_eq_ok_iff.mpr ⟨_, twins.sound⟩, twins.transcript_eq calls,
    fun _ _ _ told => audited twins.sound told⟩

/-- The same stretch as `smallRegion`, with every byte set. -/
def litteredRegion : Region where
  address := 0
  bytes := Array.replicate 64 255
  addressable := by decide

def litteredHeap : Heap := ofArena ((Arena.ofRegion? litteredRegion).get (by decide +kernel))

/-- A zeroed arena and a littered one; one owner writes a header's worth of bytes, the other fills
its payload, and both make room and ask for it again. -/
theorem transcript_independent_litteredHeap :
    litteredHeap.base = smallHeap.base ∧ litteredHeap.total = smallHeap.total ∧
      litteredHeap.transcript
          [.allocate 8, .fill ⟨16⟩ 255, .release ⟨16⟩, .allocate 20, .payload ⟨16⟩] =
        smallHeap.transcript
          [.allocate 8, .write ⟨16⟩ 0 [1, 2, 3], .release ⟨16⟩, .allocate 20,
            .write ⟨16⟩ 4 [7], .payload ⟨16⟩] := by
  have made : ((create litteredRegion : Action Unit HeapRefusal Heap) ()).result =
      .ok litteredHeap := create_eq_ok_iff.mpr ⟨_, (Option.some_get _).symm, rfl⟩
  have base : litteredHeap.base = smallHeap.base := by decide +kernel
  have total : litteredHeap.total = smallHeap.total := by decide +kernel
  obtain ⟨_, _, same, _⟩ := transcript_independent create_smallRegion made base total
    [.allocate 8, .write ⟨16⟩ 0 [1, 2, 3], .release ⟨16⟩, .allocate 20, .write ⟨16⟩ 4 [7],
      .payload ⟨16⟩]
    [.allocate 8, .fill ⟨16⟩ 255, .release ⟨16⟩, .allocate 20, .payload ⟨16⟩] rfl
  exact ⟨base, total, same⟩

end Heap

end MiniKernel
