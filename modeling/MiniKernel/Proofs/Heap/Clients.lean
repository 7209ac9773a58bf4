/-
**A heap between clients that do not know each other.**

* `Heap.Request.moves` — the handles whose entries a request changes. A client moves what it uses up
  and what it is answered, and nothing else (`Request.answered_or_spent`).
* `Heap.Honours.allocated`, `Heap.Honours.released` — a block handed out was nobody's, and a block
  that is held is always taken back.
* `Heap.Honours.unowned` — a heap that owes nothing is one free block.
-/

import MiniKernel.Proofs.Heap.Isolation

namespace MiniKernel

/-! ### What a request moves in a ledger -/

namespace Heap

variable {heap after : Heap} {blocks : List Block} {request : Request}
  {result : Answer HeapRefusal Reply} {handle : Handle}

/-- The handle a request may use up. -/
def Request.spent? : Request → Option Handle
  | .reallocate handle _ => some handle
  | .release handle => some handle
  | _ => none

/-- Whether a request answered so changes the entry of a handle. -/
def Request.moves : Request → Answer HeapRefusal Reply → Handle → Prop
  | .allocate _, .ok (.handle answered), handle => handle = answered
  | .allocateClear _ _, .ok (.handle answered), handle => handle = answered
  | .reallocate old _, .ok (.handle answered), handle => handle = old ∨ handle = answered
  | .release released, .ok _, handle => handle = released
  | _, _, _ => False

/-- A handle that is moved is answered or used up. -/
theorem Request.answered_or_spent (moves : request.moves result handle) :
    result = .ok (.handle handle) ∨ request.spent? = some handle := by
  unfold Request.moves at moves
  split at moves
  · rw [moves]
    exact Or.inl rfl
  · rw [moves]
    exact Or.inl rfl
  · rcases moves with rfl | rfl
    · exact Or.inr rfl
    · exact Or.inl rfl
  · rw [moves]
    exact Or.inr rfl
  · exact absurd moves id

theorem Ledger.after_of_not_moves (ledger : Ledger) (still : ¬ request.moves result handle) :
    ledger.after request result handle = ledger handle := by
  unfold Request.moves at still
  unfold Ledger.after
  split
  · exact Ledger.set_other still
  · exact Ledger.set_other still
  · obtain ⟨off, apart⟩ := not_or.mp still
    rw [Ledger.set_other apart, Ledger.set_other off]
  · exact Ledger.set_other still
  · rfl

/-- A moved entry does not depend on what it was. -/
theorem Ledger.after_of_moves (ledger other : Ledger) (moves : request.moves result handle) :
    ledger.after request result handle = other.after request result handle := by
  unfold Request.moves at moves
  split at moves
  · rw [moves, Ledger.after, Ledger.after, Ledger.set_same, Ledger.set_same]
  · rw [moves, Ledger.after, Ledger.after, Ledger.set_same, Ledger.set_same]
  · rename_i old size answered
    rw [Ledger.after, Ledger.after]
    by_cases same : handle = answered
    · rw [same, Ledger.set_same, Ledger.set_same]
    · rw [Ledger.set_other same, Ledger.set_other same, moves.resolve_right same,
        Ledger.set_same, Ledger.set_same]
  · rw [moves, Ledger.after, Ledger.after, Ledger.set_same, Ledger.set_same]
  · exact absurd moves id

/-- No request moves the arena. -/
theorem Course.base (course : heap.Course blocks request result after) :
    after.base = heap.base := by
  cases course with
  | refused _ cause => rfl
  | measured located => rfl
  | shown located => rfl
  | handedOut wants shape free positive fits out => exact out.changed.base
  | resized shape located positive fits kept => exact kept.changed.base
  | moved shape free positive fits out located carved back_again =>
    exact back_again.changed.base.trans out.changed.base
  | takenBack shape located back_again => exact back_again.changed.base
  | rewritten count writes located rewritten => exact rewritten.changed.base

/-- A refused request leaves the heap as it was. -/
theorem Course.eq_of_refused {failure : Failure HeapRefusal}
    (course : heap.Course blocks request (.error failure) after) : after = heap := by
  cases course
  rfl

/-- What a request used up was a live block. -/
theorem Course.located_of_spent {reply : Reply}
    (course : heap.Course blocks request (.ok reply) after) (spent : request.spent? = some handle) :
    ∃ block, heap.locate handle = .ok block := by
  cases course with
  | measured _ | shown _ => cases spent
  | handedOut wants => cases request <;> cases wants <;> cases spent
  | resized _ located | takenBack _ located =>
    cases spent
    exact ⟨_, located⟩
  | moved _ _ _ _ _ located =>
    cases spent
    exact ⟨_, located⟩
  | rewritten _ writes => cases request <;> cases writes <;> cases spent

/-- **A block that is taken back was live**, is so no more, and is the only one that changes. -/
theorem Course.released {reply : Reply}
    (course : heap.Course blocks (.release handle) (.ok reply) after) (sound : heap.Sound blocks) :
    (∃ block, heap.locate handle = .ok block) ∧
      after.locate handle = .refuse .invalidAddress ∧
      ∀ other, other ≠ handle → heap.Alike after other := by
  cases course with
  | handedOut wants | rewritten _ wants => cases wants
  | takenBack shape located back_again =>
    subst shape
    obtain ⟨_, live, _⟩ := mem_of_locate sound.tiled located
    have known := handle_eq sound.tiled located
    subst known
    exact ⟨⟨_, located⟩, back_again.refused sound, fun other apart =>
      back_again.alike sound live (offset_ne apart)⟩

end Heap

/-! ### Blocks and their owners -/

namespace Heap

variable {heap after : Heap} {blocks : List Block} {ledger : Ledger} {size : Nat} {handle : Handle}
  {effects : List Effect}

/-- A handed out block was nobody's and is held now. -/
theorem Honours.allocated (honours : heap.Honours blocks ledger)
    (run : allocate size heap = ⟨.ok handle, after, effects⟩) :
    ledger handle = none ∧ after.base = heap.base ∧
      ∃ later, after.Honours later (ledger.set handle (some size)) := by
  have returns : (allocate size heap).result.Returns := by
    rw [run]
    exact Answer.returns_ok _
  have course := allocate_course honours.toSound size (Or.inr returns)
  rw [run] at course
  refine ⟨?_, course.base, honours.course course⟩
  rcases course.answered honours.toSound rfl with refused | ⟨_, other⟩
  · exact honours.unheld refused
  · cases other

theorem Honours.not_allocated {cause : HeapRefusal} (honours : heap.Honours blocks ledger)
    (run : allocate size heap = ⟨.error (.refused cause), after, effects⟩) : after = heap := by
  have returns : (allocate size heap).result.Returns := by
    rw [run]
    exact Answer.returns_refused _
  have course := allocate_course honours.toSound size (Or.inr returns)
  rw [run] at course
  exact course.eq_of_refused

/-- An allocation reports that it found no block, and nothing else. -/
theorem allocate_effects (sound : heap.Sound blocks)
    (returns : (allocate size heap).result.Returns) :
    ∀ effect ∈ (allocate size heap).effects, effect = .report (.noBlock size heap.free) := by
  rcases allocate_cases sound size (Or.inr returns) with ⟨_, run⟩ | ⟨_, _, effects, all, run⟩ |
    ⟨_, _, _, _, _, _, _, _, _, run⟩
  · rw [run]
    exact fun _ member => absurd member List.not_mem_nil
  · rw [run]
    exact all
  · rw [run]
    exact fun _ member => absurd member List.not_mem_nil

/-- **A block that is held is taken back**, and nothing is reported. -/
theorem Honours.released {result : Answer HeapRefusal Unit} (honours : heap.Honours blocks ledger)
    (held : ledger handle = some size) (run : release handle heap = ⟨result, after, effects⟩)
    (going : heap.releases + 1 < longLimit ∨ result.Returns) :
    result = .ok () ∧ effects = [] ∧ after.base = heap.base ∧
      ∃ later, after.Honours later (ledger.set handle none) := by
  have going : heap.releases + 1 < longLimit ∨ (release handle heap).result.Returns := by
    rw [run]
    exact going
  obtain ⟨block, _, located, _⟩ := honours.held held
  obtain ⟨member, live, _⟩ := mem_of_locate honours.tiled located
  obtain ⟨front, back, rfl⟩ := List.append_of_mem member
  obtain ⟨freed, back_again, answers⟩ := release_located honours.toSound located going
  rw [run] at answers
  cases answers
  rw [handle_eq honours.tiled located]
  exact ⟨rfl, rfl, back_again.changed.base, _, honours.takenBack live back_again⟩

/-- Every live block is held by its handle. -/
theorem Honours.owned {block : Block} (honours : heap.Honours blocks ledger)
    (live : block ∈ liveBlocks blocks) : ledger ⟨block.payload⟩ = some block.requested :=
  (honours.owed _ _).mpr ⟨block, honours.toRegular.locate_eq_ok_iff.mpr ⟨live, rfl⟩, rfl⟩

/-- **A heap that owes nothing is one free block.** -/
theorem Honours.unowned (honours : heap.Honours blocks ledger)
    (nobody : ∀ handle, ledger handle = none) :
    heap.used = 0 ∧ ∃ block, blocks = [block] ∧ block.isFree = true := by
  have unheld : liveBlocks blocks = [] := by
    refine List.eq_nil_iff_forall_not_mem.mpr fun block live => ?_
    have held := honours.owned live
    rw [nobody] at held
    cases held
  have free : ∀ block ∈ blocks, block.isFree = true := by
    intro block member
    by_contra live
    have owned := mem_liveBlocks.mpr ⟨member, Bool.eq_false_iff.mpr live⟩
    rw [unheld] at owned
    cases owned
  refine ⟨by rw [honours.used, unheld, spanSum_nil], ?_⟩
  cases blocks with
  | nil => exact absurd rfl honours.tiled.ne_nil
  | cons block rest =>
    refine ⟨block, ?_, free block List.mem_cons_self⟩
    cases rest with
    | nil => rfl
    | cons follower rest =>
      -- Two free neighbours would have been merged.
      have apart := (List.isChain_cons_cons.mp honours.spaced).1 (free block List.mem_cons_self)
      rw [free follower (List.mem_cons_of_mem _ List.mem_cons_self)] at apart
      cases apart

end Heap

end MiniKernel
