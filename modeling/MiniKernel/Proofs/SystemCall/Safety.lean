/-
**System calls come to their end.**

* `Core.Sane` — the heap is sound and the process table consistent; every operation that comes to
  its end keeps it (`Core.Sane.operation`), so every run of them does (`Core.Sane.worked`).
* `Core.exit_returns`, `Core.kill_returns` — ending a process comes to its end.
* `SystemCall.perform_returns` — **so does every system call**, as long as the lifetime counters of
  the heap have room and the timer counts, and it leaves nothing but reports.
* `SystemCall.worked_perform` — what it does to the core is the work of operations.
-/

import Mathlib.Logic.Relation
import MiniKernel.Proofs.Process.Ownership
import MiniKernel.Proofs.SystemCall.Operations
import MiniKernel.Proofs.SystemCall.Reports

namespace MiniKernel

-- A selection pass is known by its lemmas only.
seal ProcessTable.select ProcessTable.selectNotices

namespace Core

variable {core after : Core} {ε : Type}

/-! ### Sane cores -/

/-- **A sound heap and a consistent process table.** -/
structure Sane (core : Core) : Prop where
  sound : ∃ blocks, core.heap.Sound blocks
  consistent : core.processes.Consistent

/-- One operation was carried out to its end. -/
def Step (before after : Core) : Prop :=
  ∃ operation : Operation, (operation.perform before).result.Returns ∧
    after = (operation.perform before).state

/-- Operations were carried out to their ends. -/
def Worked : Core → Core → Prop := Relation.ReflTransGen Step

/-- A fresh core is sane. -/
theorem sane_ofArena (arena : Arena) (stackBytes now : Nat) :
    Sane ⟨Heap.ofArena arena, (ProcessTable.create stackBytes now).started⟩ := by
  obtain ⟨blocks, regular⟩ := Heap.regular_ofArena arena
  exact ⟨⟨blocks, regular.toSound⟩, (ProcessTable.consistent_create stackBytes now).started⟩

/-- **An operation that comes to its end leaves a sane core.** -/
theorem Sane.operation (sane : core.Sane) (operation : Operation)
    (returns : (operation.perform core).result.Returns) : (operation.perform core).state.Sane := by
  obtain ⟨blocks, sound⟩ := sane.sound
  refine ⟨?_, ?_⟩
  · have served := heap_of_operation operation returns
    cases asks : operation.asks? core with
    | none =>
      rw [asks] at served
      rw [show (operation.perform core).state.heap = core.heap from served]
      exact ⟨blocks, sound⟩
    | some ask =>
      rw [asks] at served
      obtain ⟨asked, same⟩ := served
      rw [same]
      exact (Heap.perform_course sound ask (Or.inr asked)).sound sound
  · cases operation with
    | processes request =>
      rw [perform_processes]
      exact (perform_course request (returns_processes.mp returns)).consistent sane.consistent
    | heap request =>
      rw [perform_heap]
      exact sane.consistent

theorem Sane.worked (sane : core.Sane) (worked : Worked core after) : after.Sane := by
  induction worked with
  | refl => exact sane
  | tail _ step ih =>
    obtain ⟨operation, returns, rfl⟩ := step
    exact ih.operation operation returns

/-! ### Ending a process -/

variable {blocks : List Block}

/-- A stack can go back to a sound heap whose lifetime counters have room. -/
theorem exists_stackReturned {heap : Heap} (sound : heap.Sound blocks) (countable : heap.Countable)
    (pid : Nat) (stack : Option Stack) :
    ∃ after effects, StackReturned heap pid stack after effects := by
  cases stack with
  | none => exact ⟨heap, [], .bare⟩
  | some stack =>
    have released := Answer.returns_of_map
      (Heap.release_course sound stack.handle (Or.inl countable)).returns
    cases outcome : Heap.release stack.handle heap with
    | mk result after effects =>
      rw [outcome] at released
      cases result with
      | ok value => exact ⟨after, effects, .released outcome⟩
      | error failure =>
        cases failure with
        | refused cause => exact ⟨after, _, .kept outcome⟩
        | aborted cause => exact absurd rfl (released cause)

theorem exit_returns (sound : core.heap.Sound blocks) (countable : core.heap.Countable)
    (code : Int) : ((exit code : Action Core ε Unit) core).result.Returns := by
  by_cases own : core.processes.current = ProcessTable.ownSlot
  · unfold exit
    rw [Action.bind_quiet (Action.get_apply core), if_pos own]
    exact Answer.returns_ok _
  · obtain ⟨heap, effects, returned⟩ := exists_stackReturned sound countable _ _
    rw [exit_user code own returned]
    exact Answer.returns_ok _

theorem kill_returns (sound : core.heap.Sound blocks) (countable : core.heap.Countable)
    (pid : Nat) : (kill pid core).result.Returns := by
  by_cases zero : pid = 0
  · unfold kill
    rw [if_pos zero]
    exact Answer.returns_refused _
  cases found : core.processes.slotWith? pid with
  | none =>
    unfold kill
    rw [if_neg zero, Action.bind_apply_error (required_of_none found)]
    exact Answer.returns_refused _
  | some slot =>
    obtain ⟨heap, effects, returned⟩ := exists_stackReturned sound countable _ _
    rw [kill_found zero found returned]
    exact Answer.returns_ok _

end Core

namespace SystemCall

variable {timer : Timer} {call : Call} {core : Core} {blocks : List Block}
  {operation : Core.Operation}

/-- **What a call amounts to comes to its end.** -/
theorem operation_returns (sound : core.heap.Sound blocks) (countable : core.heap.Countable)
    (amounts : call.operation? core = some operation) :
    (operation.perform core).result.Returns := by
  rcases Call.operation_cases amounts with ⟨code, rfl⟩ | rfl | ⟨pid, rfl⟩ | ⟨size, rfl⟩ |
    ⟨handle, rfl⟩
  · rw [Core.returns_processes, Core.Request.perform, Action.map_apply, Answer.returns_map]
    exact Core.exit_returns sound countable code
  · exact Core.returns_processes.mpr (Answer.returns_ok _)
  · rw [Core.returns_processes, Core.Request.perform, Action.map_apply, Answer.returns_map]
    exact Core.kill_returns sound countable pid
  · exact Core.returns_heap.mpr (Heap.perform_course sound _ (Or.inl countable)).returns
  · exact Core.returns_heap.mpr (Heap.perform_course sound _ (Or.inl countable)).returns

/-- **Every system call comes to its end** on a sound heap, as long as the lifetime counters have
room and the timer counts, and leaves nothing but reports. -/
theorem perform_returns (call : Call) (sound : core.heap.Sound blocks)
    (countable : core.heap.Countable) (counts : timer.frequency ≠ 0) :
    (perform timer call core).result.Returns ∧ OnlyReports (perform timer call core).effects := by
  refine ⟨?_, perform_reports timer call core⟩
  have course := perform_course timer call core
  generalize (perform timer call core).result = result at course ⊢
  generalize (perform timer call core).effects = effects at course
  generalize (perform timer call core).state = after at course
  cases course with
  | asked _ _ _ => exact Answer.returns_ok _
  | refused _ notices _ => exact Answer.returns_refused _
  | stuck still _ => exact absurd still counts
  | served amounts ran => exact Answer.returns_ok _
  | failed amounts ran =>
    have returns := operation_returns sound countable amounts
    rw [ran] at returns
    exact fun cause stopped => returns cause (congrArg _ (Except.error.inj stopped))

/-- A system call that comes to its end does to the core what some operations do. -/
theorem worked_perform (returns : (perform timer call core).result.Returns) :
    Core.Worked core (perform timer call core).state := by
  cases amounts : call.operation? core with
  | none =>
    rw [state_of_plain amounts]
    exact .refl
  | some operation =>
    obtain ⟨same, performed⟩ := state_of_operation timer amounts
    exact .single ⟨operation, performed returns, same⟩

/-- Who is to sleep does so for as long as it asked. -/
theorem waits_arg0 {milliseconds : Nat}
    (answers : (perform timer call core).result = .ok (.sleep milliseconds)) :
    milliseconds = call.arg0 := by
  have course := perform_course timer call core
  rw [answers] at course
  generalize (perform timer call core).effects = effects at course
  generalize (perform timer call core).state = after at course
  cases course with
  | asked _ _ waits => exact waits milliseconds rfl

end SystemCall

end MiniKernel
