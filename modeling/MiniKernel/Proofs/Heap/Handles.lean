/-
**Which handles a heap accepts.**

* `Heap.Exchange` — a request with its answer. A history lists the exchanges of a run, the latest
  first.
* `Heap.Live` — a handle was handed out, and has since been neither released nor moved away from.
* `Heap.Ran heap history` — a run from a fresh heap with that history ends at `heap`.
* `Heap.perform_unlocated`, `Heap.perform_located` — a request through a handle is refused exactly
  where no live block is.
* `Heap.handles_checked` — in every run a handle is accepted exactly while it is live, and every
  other one is refused as an invalid address.
-/

import MiniKernel.Proofs.Heap.Clients
import MiniKernel.Proofs.History

namespace MiniKernel

-- A written header is known by its lemmas only.
seal Arena.setHeader

/-! ### Histories -/

/-- A request with its answer. -/
structure Heap.Exchange where
  request : Heap.Request
  answer : Answer HeapRefusal Heap.Reply

namespace Heap

variable {heap : Heap} {blocks : List Block} {history : List Exchange} {request : Request}
  {handle : Handle} {ledger : Ledger}

/-- Whether a handle is handed out. -/
def Exchange.Gives : Exchange → Handle → Prop
  | ⟨.allocate _, .ok (.handle given)⟩, handle => given = handle
  | ⟨.allocateClear _ _, .ok (.handle given)⟩, handle => given = handle
  | ⟨.reallocate _ _, .ok (.handle given)⟩, handle => given = handle
  | _, _ => False

/-- Whether a handle is released or moved away from. -/
def Exchange.Takes : Exchange → Handle → Prop
  | ⟨.release taken, .ok _⟩, handle => taken = handle
  | ⟨.reallocate taken _, .ok (.handle given)⟩, handle => taken = handle ∧ given ≠ handle
  | _, _ => False

/-- **A handle that was handed out and has since been neither released nor moved away from.** -/
def Live (history : List Exchange) (handle : Handle) : Prop :=
  Standing history (·.Gives handle) (·.Takes handle)

/-- What the clients hold after a history. -/
def Ledger.told : List Exchange → Ledger
  | [] => .empty
  | exchange :: before => (Ledger.told before).after exchange.request exchange.answer

theorem Ledger.held_set_some {given : Handle} {asked : Nat} :
    (∃ size, ledger.set given (some asked) handle = some size) ↔
      given = handle ∨ ∃ size, ledger handle = some size := by
  by_cases same : handle = given
  · rw [same, Ledger.set_same]
    simp
  · rw [Ledger.set_other same]
    simp [Ne.symm same]

theorem Ledger.held_set_none {taken : Handle} :
    (∃ size, ledger.set taken none handle = some size) ↔
      taken ≠ handle ∧ ∃ size, ledger handle = some size := by
  by_cases same : handle = taken
  · rw [same, Ledger.set_same]
    simp
  · rw [Ledger.set_other same]
    simp [Ne.symm same]

/-- What is held after an exchange: what it gave, and what was held and it did not take. -/
theorem Ledger.held_after (ledger : Ledger) (exchange : Exchange) (handle : Handle) :
    (∃ size, ledger.after exchange.request exchange.answer handle = some size) ↔
      exchange.Gives handle ∨ ¬ exchange.Takes handle ∧ ∃ size, ledger handle = some size := by
  obtain ⟨request, answer⟩ := exchange
  show (∃ size, ledger.after request answer handle = some size) ↔ _
  unfold Ledger.after
  split
  · rw [held_set_some]
    simp [Exchange.Gives, Exchange.Takes]
  · rw [held_set_some]
    simp [Exchange.Gives, Exchange.Takes]
  · rw [held_set_some, held_set_none]
    simp only [Exchange.Gives, Exchange.Takes]
    tauto
  · rw [held_set_none]
    simp [Exchange.Gives, Exchange.Takes]
  · rename_i allocate allocateClear reallocate release
    have gives : ¬ (Exchange.mk request answer).Gives handle := by
      unfold Exchange.Gives
      split <;> grind
    have takes : ¬ (Exchange.mk request answer).Takes handle := by
      unfold Exchange.Takes
      split <;> grind
    simp [gives, takes]

/-- The live handles are those that are held. -/
theorem live_iff_held : Live history handle ↔ ∃ size, Ledger.told history handle = some size := by
  induction history with
  | nil => simp [Live, Ledger.told, Ledger.empty]
  | cons exchange before ih =>
    rw [Ledger.told, Ledger.held_after, ← ih]
    exact standing_cons

/-! ### Runs with their histories -/

/-- **The heaps at the end of a run from a fresh one**, with the history of that run. -/
inductive Ran : Heap → List Exchange → Prop
  | fresh {region : Region} {heap : Heap}
    (made : ((create region : Action Unit HeapRefusal Heap) ()).result = .ok heap) :
    Ran heap []
  | step {heap : Heap} {history : List Exchange} (ran : Ran heap history) (request : Request)
    (returns : (request.perform heap).result.Returns) :
    Ran (request.perform heap).state (⟨request, (request.perform heap).result⟩ :: history)

theorem Ran.reached (ran : heap.Ran history) : heap.Reached (Ledger.told history) := by
  induction ran with
  | fresh made => exact .fresh made
  | step _ request returns ih => exact .step ih request returns

/-- There is a live block behind a handle exactly while the handle is live. -/
theorem Ran.located_iff (ran : heap.Ran history) :
    (∃ block, heap.locate handle = .ok block) ↔ Live history handle := by
  obtain ⟨blocks, honours⟩ := ran.reached.honours
  rw [live_iff_held]
  constructor
  · rintro ⟨block, located⟩
    exact ⟨_, (honours.owed handle _).mpr ⟨block, located, rfl⟩⟩
  · rintro ⟨size, held⟩
    obtain ⟨block, located, _⟩ := (honours.owed handle size).mp held
    exact ⟨block, located⟩

/-! ### Requests through a handle -/

/-- The handle a request goes through. A reallocation to no bytes does not look at its handle. -/
def Request.through? : Request → Option Handle
  | .reallocate handle size => if size = 0 then none else some handle
  | .release handle | .capacity handle | .payload handle => some handle
  | .write handle _ _ | .fill handle _ => some handle
  | .allocate _ | .allocateClear _ _ => none

/-- The lifetime counters that a request moves on have room for one more. -/
def Request.HasRoom : Request → Heap → Prop
  | .allocate _, heap | .allocateClear _ _, heap => heap.allocations + 1 < longLimit
  | .release _, heap => heap.releases + 1 < longLimit
  | .reallocate _ _, heap => heap.Countable
  | .capacity _, _ | .payload _, _ | .write _ _ _, _ | .fill _ _, _ => True

/-- **A request through a handle without a live block** is refused, whatever else it asks for. -/
theorem perform_unlocated (refused : heap.locate handle = .refuse .invalidAddress)
    (through : request.through? = some handle) :
    request.perform heap = ⟨.error (.refused .invalidAddress), heap, []⟩ := by
  cases request with
  | allocate size => cases through
  | allocateClear count size => cases through
  | reallocate other size =>
    obtain ⟨positive, rfl⟩ : size ≠ 0 ∧ other = handle := by
      simpa [Request.through?] using through
    have run : reallocate other size heap = ⟨.error (.refused .invalidAddress), heap, []⟩ := by
      rw [reallocate, if_neg positive]
      exact ask_refused refused
    rw [Request.perform, Action.map_apply, run]
    rfl
  | release other =>
    cases through
    exact Request.perform_release (ask_refused refused)
  | capacity other =>
    cases through
    have none_there : heap.capacity handle = .refuse .invalidAddress := by
      rw [capacity, refused]
      rfl
    exact ask_refused none_there
  | payload other =>
    cases through
    exact ask_refused (payload_of_refuse refused)
  | write other start values =>
    cases through
    have run : write handle start values heap =
        ⟨.error (.refused .invalidAddress), heap, []⟩ := ask_refused refused
    rw [Request.perform, Action.map_apply, run]
    rfl
  | fill other value =>
    cases through
    have run : fill handle value heap = ⟨.error (.refused .invalidAddress), heap, []⟩ :=
      ask_refused refused
    rw [Request.perform, Action.map_apply, run]
    rfl

/-- **A request through a handle with a live block** answers, unless it is a reallocation for which
there is no room. -/
theorem perform_located {block : Block} (sound : heap.Sound blocks)
    (located : heap.locate handle = .ok block) (through : request.through? = some handle)
    (going : request.HasRoom heap ∨ (request.perform heap).result.Returns) :
    (∃ reply, (request.perform heap).result = .ok reply) ∨
      ∃ size, request = .reallocate handle size ∧
        (request.perform heap).result = .refuse .outOfMemory := by
  have accepted : heap.locate handle ≠ .refuse .invalidAddress := by
    rw [located]
    exact fun refused => by cases refused
  cases request with
  | allocate size => cases through
  | allocateClear count size => cases through
  | reallocate other size =>
    obtain ⟨positive, rfl⟩ : size ≠ 0 ∧ other = handle := by
      simpa [Request.through?] using through
    rw [Request.perform, Action.map_apply] at going ⊢
    rcases reallocate_cases sound other size (going.imp_right Answer.returns_of_map) with
      ⟨zero, _⟩ | ⟨refused, _⟩ | ⟨_, _, _, run⟩ | ⟨moved, _, _, run⟩
    · exact absurd zero positive
    · exact absurd refused accepted
    · rw [run]
      exact Or.inr ⟨size, rfl, rfl⟩
    · rw [run]
      exact Or.inl ⟨.handle moved, rfl⟩
  | release other =>
    cases through
    rw [Request.perform, Action.map_apply] at going ⊢
    rcases release_cases sound handle (going.imp_right Answer.returns_of_map) with
      ⟨refused, _⟩ | ⟨_, _, _, _, _, _, _, _, _, run⟩
    · exact absurd refused accepted
    · rw [run]
      exact Or.inl ⟨.done, rfl⟩
  | capacity other =>
    cases through
    refine Or.inl ⟨.count block.size, ?_⟩
    rw [Request.perform, Action.bind_quiet (Action.get_apply heap), capacity_eq_of_locate located]
    rfl
  | payload other =>
    cases through
    refine Or.inl ⟨.bytes (heap.arena.slice handle.offset block.size), ?_⟩
    rw [Request.perform, Action.bind_quiet (Action.get_apply heap),
      payload_of_locate sound.tiled located]
    rfl
  | write other start values =>
    cases through
    rw [Request.perform, Action.map_apply]
    rcases write_cases sound handle start values with ⟨refused, _⟩ | ⟨_, count, _, _, _, run⟩
    · exact absurd refused accepted
    · rw [run]
      exact Or.inl ⟨.count count, rfl⟩
  | fill other value =>
    cases through
    rw [Request.perform, Action.map_apply]
    rcases fill_cases sound handle value with ⟨refused, _⟩ | ⟨found, _, _, _, run⟩
    · exact absurd refused accepted
    · rw [run]
      exact Or.inl ⟨.count found.size, rfl⟩

/-- **Handles are checked exactly.** In every run, whatever was written into payloads on the way and
wherever a handle comes from, a request through it is refused as an invalid address if and only if
the handle is not live. The heap is then as it was. A request through a live handle answers, unless
it is a reallocation for which there is no room. -/
theorem handles_checked (ran : heap.Ran history) (through : request.through? = some handle) :
    ((request.perform heap).result = .refuse .invalidAddress ↔ ¬ Live history handle) ∧
    (¬ Live history handle →
      request.perform heap = ⟨.error (.refused .invalidAddress), heap, []⟩) ∧
    (Live history handle → request.HasRoom heap →
      (∃ reply, (request.perform heap).result = .ok reply) ∨
        ∃ size, request = .reallocate handle size ∧
          (request.perform heap).result = .refuse .outOfMemory) := by
  obtain ⟨blocks, honours⟩ := ran.reached.honours
  have dead : ¬ Live history handle →
      request.perform heap = ⟨.error (.refused .invalidAddress), heap, []⟩ := by
    intro dead
    refine perform_unlocated ?_ through
    rcases locate_cases honours.tiled handle with ⟨block, _, _, _, located⟩ | refused
    · exact absurd (ran.located_iff.mp ⟨block, located⟩) dead
    · exact refused
  refine ⟨⟨fun refused live => ?_, fun gone => ?_⟩, dead, fun live room => ?_⟩
  · obtain ⟨block, located⟩ := ran.located_iff.mpr live
    have returns : (request.perform heap).result.Returns := by
      rw [refused]
      exact Answer.returns_refused _
    rcases perform_located honours.toSound located through (Or.inr returns) with
      ⟨reply, answered⟩ | ⟨_, _, full⟩
    · rw [refused] at answered
      cases answered
    · rw [refused] at full
      cases full
  · rw [dead gone]
    rfl
  · obtain ⟨block, located⟩ := ran.located_iff.mpr live
    exact perform_located honours.toSound located through (Or.inl room)

/-- A header that could be taken for that of a live block of 8 bytes, the last of its chain. -/
def forgedHeader : List UInt8 :=
  [8, 0, 0, 0, 255, 255, 255, 255, 0, 0, 0, 0, 8, 0, 0, 0]

/-- A heap with one block handed out, into which its owner wrote such a header. -/
def forgedHeap : Heap :=
  ((Request.write ⟨16⟩ 0 forgedHeader).perform
    ((Request.allocate 32).perform smallHeap).state).state

/-- A header forged inside a payload makes no handle. The owner's own one is still good. -/
theorem handles_checked_forgedHeap :
    forgedHeap.arena.header 16 = { size := 8, next := endOfChain, flags := 0, requested := 8 } ∧
    ∃ history, forgedHeap.Ran history ∧
      ¬ Live history ⟨32⟩ ∧ Request.through? (.release ⟨32⟩) = some ⟨32⟩ ∧
      (Request.release ⟨32⟩).perform forgedHeap =
        ⟨.error (.refused .invalidAddress), forgedHeap, []⟩ ∧
      Live history ⟨16⟩ ∧ (Request.reallocate ⟨16⟩ 40).through? = some ⟨16⟩ ∧
      ((Request.reallocate ⟨16⟩ 40).perform forgedHeap).result ≠ .refuse .invalidAddress := by
  have given : ((Request.allocate 32).perform smallHeap).result = .ok (.handle ⟨16⟩) := by
    decide +kernel
  have written : ((Request.write ⟨16⟩ 0 forgedHeader).perform
      ((Request.allocate 32).perform smallHeap).state).result = .ok (.count 16) := by
    decide +kernel
  have ran : forgedHeap.Ran [⟨.write ⟨16⟩ 0 forgedHeader, .ok (.count 16)⟩,
      ⟨.allocate 32, .ok (.handle ⟨16⟩)⟩] := by
    have first := Ran.step (.fresh create_smallRegion) (.allocate 32)
      (given.symm ▸ Answer.returns_ok _)
    have second := Ran.step first (.write ⟨16⟩ 0 forgedHeader)
      (written.symm ▸ Answer.returns_ok _)
    rw [given, written] at second
    exact second
  have forged : ¬ Live [⟨.write ⟨16⟩ 0 forgedHeader, .ok (.count 16)⟩,
      ⟨.allocate 32, .ok (.handle ⟨16⟩)⟩] ⟨32⟩ := by
    simp [Live, standing_cons, Exchange.Gives]
  have owned : Live [⟨.write ⟨16⟩ 0 forgedHeader, .ok (.count 16)⟩,
      ⟨.allocate 32, .ok (.handle ⟨16⟩)⟩] ⟨16⟩ := by
    simp [Live, standing_cons, Exchange.Gives, Exchange.Takes]
  refine ⟨by decide +kernel, _, ran, forged, rfl, ?_, owned, rfl, ?_⟩
  · exact (handles_checked ran rfl).2.1 forged
  · exact fun refused => (handles_checked ran rfl).1.mp refused owned

end Heap

end MiniKernel
