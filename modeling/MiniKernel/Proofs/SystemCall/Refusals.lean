/-
**A refusal changes nothing.**

* `Action.Atomic` — a computation that refuses a state leaves it as it was.
* `Heap.Request.atomic`, `Core.Request.atomic`, `Core.Operation.atomic`, `SystemCall.atomic` — every
  request of a sound heap is atomic, and every request, operation and system call on a sane core.
* `Core.Met` — the cores met in a run of operations and system calls.
* `Core.refusals_change_nothing` — **in every core that is met a refusal leaves the core as it
  was**, and so does an answer that nothing was blocked or unblocked.
-/

import MiniKernel.Proofs.Heap.Clients
import MiniKernel.Proofs.SystemCall.Safety

namespace MiniKernel

-- A selection pass is known by its lemmas only.
seal ProcessTable.select ProcessTable.selectNotices

/-! ### Atomic computations -/

namespace Action

variable {σ τ ε δ α β : Type}

/-- **If the computation refuses, the state is as it was.** -/
def Atomic (action : Action σ ε α) (state : σ) : Prop :=
  ∀ cause, (action state).result = .error (.refused cause) → (action state).state = state

variable {action : Action σ ε α} {state : σ}

theorem atomic_map {rename : α → β} :
    (rename <$> action).Atomic state ↔ action.Atomic state := by
  unfold Atomic
  rw [map_apply]
  cases (action state).result with
  | ok value => exact ⟨fun _ _ refused => (by cases refused), fun _ _ refused => (by cases refused)⟩
  | error failure =>
    exact ⟨fun atomic cause refused => atomic cause (congrArg _ (Except.error.inj refused)),
      fun atomic cause refused => atomic cause (congrArg _ (Except.error.inj refused))⟩

theorem Atomic.relabel (atomic : action.Atomic state) (rename : ε → δ) :
    (action.relabel rename).Atomic state := by
  intro cause refused
  rw [relabel_apply] at refused ⊢
  cases ends : (action state).result with
  | ok value =>
    rw [ends] at refused
    cases refused
  | error failure =>
    cases failure with
    | refused original => exact atomic original ends
    | aborted stopped =>
      rw [ends] at refused
      cases refused

/-- A part that stays as it was leaves all around it as it was. -/
theorem Atomic.within {part : τ → σ} {put : σ → τ → τ} {whole : τ}
    (atomic : action.Atomic (part whole)) (restores : put (part whole) whole = whole) :
    (within part put action).Atomic whole := by
  intro cause refused
  rw [within_apply] at refused ⊢
  rw [atomic cause refused]
  exact restores

/-- A question first changes nothing. -/
theorem atomic_ask {answer : Answer ε α} {next : α → Action σ ε β}
    (atomic : ∀ value, (next value).Atomic state) : (ask answer >>= next).Atomic state := by
  cases answer with
  | error failure => exact fun _ _ => rfl
  | ok value =>
    intro cause refused
    rw [bind_quiet (ask_apply _ state)] at refused ⊢
    exact atomic value cause refused

end Action

/-! ### Requests, operations and calls -/

theorem Heap.Request.atomic {heap : Heap} {blocks : List Block} (sound : heap.Sound blocks)
    (request : Heap.Request) : request.perform.Atomic heap := by
  intro cause refused
  have returns : (request.perform heap).result.Returns := by
    rw [refused]
    exact Answer.returns_refused cause
  have course := Heap.perform_course sound request (Or.inr returns)
  rw [refused] at course
  exact course.eq_of_refused

namespace Core

variable {core : Core}

theorem Request.atomic (sane : core.Sane) (request : Request) : request.perform.Atomic core := by
  intro cause refused
  obtain ⟨blocks, sound⟩ := sane.sound
  have returns : (request.perform core).result.Returns := by
    rw [refused]
    exact Answer.returns_refused cause
  have course := perform_course request returns
  rw [refused] at course
  generalize (request.perform core).effects = effects at course
  generalize (request.perform core).state = after at course ⊢
  cases course with
  | refused _ _ => rfl
  | short served =>
    -- A stack that could not be had has not changed the heap either.
    have kept := Action.atomic_map.mp
      (Heap.Request.atomic sound (.allocate core.processes.stackBytes))
    have same := kept _ (by rw [served])
    rw [served] at same
    exact congrArg (Core.mk · core.processes) same

theorem atomic_onHeap {ε α : Type} {action : Action Heap ε α} (atomic : action.Atomic core.heap) :
    (onHeap action).Atomic core :=
  atomic.within rfl

/-- **An operation that is refused leaves a sane core as it was.** -/
theorem Operation.atomic (sane : core.Sane) (operation : Operation) :
    operation.perform.Atomic core := by
  cases operation with
  | processes request => exact Action.atomic_map.mpr ((request.atomic sane).relabel _)
  | heap request =>
    obtain ⟨blocks, sound⟩ := sane.sound
    exact Action.atomic_map.mpr ((atomic_onHeap (request.atomic sound)).relabel _)

end Core

theorem SystemCall.atomic {core : Core} (sane : core.Sane) (timer : Timer) (call : Call) :
    (perform timer call).Atomic core := by
  intro cause refused
  have course := perform_course timer call core
  rw [refused] at course
  generalize (perform timer call core).effects = effects at course
  generalize (perform timer call core).state = after at course ⊢
  cases course with
  | refused _ _ _ => rfl
  | @failed operation _ _ _ amounts ran =>
    have same := operation.atomic sane cause (by rw [ran])
    rw [ran] at same
    exact same

namespace Core

variable {core : Core}

/-! ### Answers that nothing moved -/

theorem blockProcess_unmoved {pid : Nat} (answers : (blockProcess pid core).result = .ok false) :
    (blockProcess pid core).state = core := by
  rw [blockProcess, Action.relabel_apply] at answers ⊢
  rcases block_cases pid core with ⟨_, run, _⟩ | ⟨_, _, _, _, run⟩
  · rw [run]
  · rw [run] at answers
    cases answers

theorem unblockProcess_unmoved {pid : Nat}
    (answers : (unblockProcess pid core).result = .ok false) :
    (unblockProcess pid core).state = core := by
  rw [unblockProcess, Action.relabel_apply] at answers ⊢
  rcases unblock_cases pid core with ⟨_, run, _⟩ | ⟨_, _, _, run⟩
  · rw [run]
  · rw [run] at answers
    cases answers

/-! ### Runs -/

/-- **The cores met in a run from a fresh one**: operations and system calls in any order. -/
inductive Met : Core → Prop
  | fresh {region : Region} {timer : Timer} {stackBytes : Nat} {core : Core}
    (made : ((create region timer stackBytes : Action Unit KernelRefusal Core) ()).result =
      .ok core) : Met core
  | operation {core : Core} (met : Met core) (operation : Operation)
    (returns : (operation.perform core).result.Returns) : Met (operation.perform core).state
  | call {core : Core} (met : Met core) (timer : Timer) (call : SystemCall.Call)
    (returns : (SystemCall.perform timer call core).result.Returns) :
    Met (SystemCall.perform timer call core).state

theorem sane_create {region : Region} {timer : Timer} {stackBytes : Nat}
    (made : ((create region timer stackBytes : Action Unit KernelRefusal Core) ()).result =
      .ok core) : core.Sane := by
  obtain ⟨heap, made_heap, rest, _⟩ := Action.ok_of_bind made
  obtain ⟨now, _, made_core, _⟩ := Action.ok_of_bind rest
  obtain ⟨arena, _, rfl⟩ := Heap.create_eq_ok_iff.mp (Action.ok_of_relabel made_heap)
  obtain ⟨blocks, regular⟩ := Heap.regular_ofArena arena
  cases made_core
  exact ⟨⟨blocks, regular.toSound⟩, ProcessTable.consistent_create stackBytes now⟩

theorem Met.sane (met : core.Met) : core.Sane := by
  induction met with
  | fresh made => exact sane_create made
  | operation _ operation returns ih => exact ih.operation operation returns
  | call _ timer call returns ih => exact ih.worked (SystemCall.worked_perform returns)

/-- **A refusal changes nothing.** In every core that is met, an operation, one of the kernel's own
requests or a system call that is refused leaves the heap, byte for byte and counter for counter,
and the process table as they were. So does a request to block or unblock that answers that it moved
nothing. -/
theorem refusals_change_nothing (met : core.Met) :
    (∀ operation : Operation, operation.perform.Atomic core) ∧
    (∀ size, (allocate size).Atomic core) ∧
    (∀ handle size, (reallocate handle size).Atomic core) ∧
    (∀ handle, (release handle).Atomic core) ∧
    (∀ timer name entry priority, (launch timer name entry priority).Atomic core) ∧
    (∀ pid, (killProcess pid).Atomic core) ∧
    (∀ pid, (blockProcess pid).Atomic core ∧
      ((blockProcess pid core).result = .ok false → (blockProcess pid core).state = core)) ∧
    (∀ pid, (unblockProcess pid).Atomic core ∧
      ((unblockProcess pid core).result = .ok false → (unblockProcess pid core).state = core)) ∧
    ∀ timer call, (SystemCall.perform timer call).Atomic core := by
  have sane := met.sane
  obtain ⟨blocks, sound⟩ := sane.sound
  have heap : ∀ request : Heap.Request, request.perform.Atomic core.heap :=
    Heap.Request.atomic sound
  have processes : ∀ request : Request, request.perform.Atomic core := Request.atomic sane
  refine ⟨Operation.atomic sane, fun size => ?_, fun handle size => ?_, fun handle => ?_,
    fun timer name entry priority => ?_, fun pid => ?_, fun pid => ⟨?_, blockProcess_unmoved⟩,
    fun pid => ⟨?_, unblockProcess_unmoved⟩, SystemCall.atomic sane⟩
  · exact (atomic_onHeap (Action.atomic_map.mp (heap (.allocate size)))).relabel _
  · exact (atomic_onHeap (Action.atomic_map.mp (heap (.reallocate handle size)))).relabel _
  · exact (atomic_onHeap (Action.atomic_map.mp (heap (.release handle)))).relabel _
  · exact Action.atomic_ask fun now =>
      (Action.atomic_map.mp (processes (.spawn name entry priority now))).relabel _
  · exact (Action.atomic_map.mp (processes (.kill pid))).relabel _
  · exact (Action.atomic_map.mp (processes (.block pid))).relabel _
  · exact (Action.atomic_map.mp (processes (.unblock pid))).relabel _

/-- A clock that ticks a hundred times a second. -/
def sampleTimer : Timer where
  frequency := 100

theorem met_sharedCore : sharedCore.Met := by
  have made : (create Heap.smallRegion sampleTimer 16 : Action Unit KernelRefusal Core) () =
      ⟨.ok ⟨Heap.smallHeap, ProcessTable.create 16 0⟩, (), _⟩ := rfl
  have created : ((Operation.processes (.spawn "init" 64 .normal 0)).perform
      ⟨Heap.smallHeap, (ProcessTable.create 16 0).started⟩).result = .ok (.inl (.number 1)) := by
    decide +kernel
  have allocated : ((Operation.heap (.allocate 8)).perform ProcessTable.smallCore).result =
      .ok (.inr (.handle ⟨48⟩)) := by
    decide +kernel
  have on : Met ⟨Heap.smallHeap, (ProcessTable.create 16 0).started⟩ :=
    .operation (.fresh (congrArg Outcome.result made)) (.processes .start) (Answer.returns_ok _)
  have admitted : ProcessTable.smallCore.Met :=
    .operation on (.processes (.spawn "init" 64 .normal 0)) (created.symm ▸ Answer.returns_ok _)
  exact .operation admitted (.heap (.allocate 8)) (allocated.symm ▸ Answer.returns_ok _)

/-- There is no room for a second stack, the first process does not run yet, and nobody is number 7:
all three are found out without a change. -/
theorem refusals_change_nothing_sharedCore : sharedCore.Met ∧
    (launch sampleTimer "late" 64 .normal sharedCore).result = .error (.refused .outOfMemory) ∧
    (launch sampleTimer "late" 64 .normal sharedCore).state = sharedCore ∧
    (blockProcess 1 sharedCore).result = .ok false ∧
    (blockProcess 1 sharedCore).state = sharedCore ∧
    (SystemCall.perform sampleTimer { number := 14, arg0 := 7 } sharedCore).result =
      .error (.refused .invalidTarget) ∧
    (SystemCall.perform sampleTimer { number := 14, arg0 := 7 } sharedCore).state = sharedCore := by
  have crowded : (launch sampleTimer "late" 64 .normal sharedCore).result =
      .error (.refused .outOfMemory) := by
    decide +kernel
  have waits : (blockProcess 1 sharedCore).result = .ok false := by
    decide +kernel
  have nobody : (SystemCall.perform sampleTimer { number := 14, arg0 := 7 } sharedCore).result =
      .error (.refused .invalidTarget) := by
    decide +kernel
  obtain ⟨_, _, _, _, launches, _, blocks, _, calls⟩ := refusals_change_nothing met_sharedCore
  exact ⟨met_sharedCore, crowded, launches _ _ _ _ _ crowded, waits, (blocks 1).2 waits, nobody,
    calls _ _ _ nobody⟩

end Core

end MiniKernel
