/-
**Every run of the process table keeps exactly one process running.**

* `Core.Course.consistent` — one request keeps a table consistent.
* `ProcessTable.Reached` — the tables met in some run, with any heap behind each request.
* `ProcessTable.one_runs` — what follows for every table that is reached.
-/

import MiniKernel.Proofs.Heap.Integrity
import MiniKernel.Proofs.Process.Requests

namespace MiniKernel

-- A selection pass is known by its lemmas only.
seal ProcessTable.select ProcessTable.selectNotices

/-! ### One request -/

/-- **However a request goes, it keeps the process table consistent**, whatever the heap does. -/
theorem Core.Course.consistent {core after : Core} {request : Core.Request}
    {result : Answer ProcessRefusal Core.Reply} {effects : List Effect}
    (course : core.Course request result after effects)
    (consistent : core.processes.Consistent) : after.processes.Consistent := by
  cases course with
  | refused _ cause => exact consistent
  | unmoved _ reply => exact consistent
  | started => exact consistent.started
  | short served => exact consistent
  | spawned context found served => exact consistent.enlist found rfl rfl
  | exited user returned => exact consistent.exit user rfl rfl
  | killed positive found returned => exact consistent.clear (consistent.user positive found)
  | blocked user runs => exact consistent.block user runs
  | unblocked waits => exact consistent.unblock waits
  | yielded => exact consistent.select
  | ticked => exact consistent.charge _

/-! ### Runs -/

namespace ProcessTable

/-- **The tables met in a run from a fresh one**, with any heap behind each request. -/
inductive Reached : ProcessTable → Prop
  | fresh (stackBytes now : Nat) : Reached (create stackBytes now)
  | step {table : ProcessTable} (reached : Reached table) (heap : Heap) (request : Core.Request)
    (returns : (request.perform ⟨heap, table⟩).result.Returns) :
    Reached (request.perform ⟨heap, table⟩).state.processes

theorem Reached.consistent {table : ProcessTable} (reached : table.Reached) : table.Consistent := by
  induction reached with
  | fresh stackBytes now => exact consistent_create stackBytes now
  | step _ heap request returns ih => exact (Core.perform_course request returns).consistent ih

/-- **Exactly one process runs, the current one.** The kernel's process is in its own slot, running
or ready. At most one process has ended and is still there, and it is not the current one. Free slots
are vacant, and the numbers of the live processes are distinct and were given before. -/
theorem one_runs {table : ProcessTable} (reached : table.Reached) :
    (∀ slot, (table.process slot).state = .running ↔ slot = table.current) ∧
    (table.process ownSlot).pid = 0 ∧
    (table.process ownSlot).state =
      (if table.current = ownSlot then RunState.running else RunState.ready) ∧
    (∀ slot, (table.process slot).state = .zombie → slot ≠ table.current ∧
      ∀ other, (table.process other).state = .zombie → other = slot) ∧
    (∀ slot, (table.process slot).state = .free → table.process slot = ProcessEntry.vacant) ∧
    (∀ slot other, (table.process slot).state ≠ .free → (table.process other).state ≠ .free →
      (table.process slot).pid = (table.process other).pid → slot = other) ∧
    ∀ slot, slot ≠ ownSlot → (table.process slot).state ≠ .free →
      1 ≤ (table.process slot).pid ∧ (table.process slot).pid < table.nextNumber := by
  have consistent := reached.consistent
  refine ⟨consistent.runs, consistent.own, ?_, ?_, consistent.vacant, consistent.distinct,
    consistent.numbered⟩
  · by_cases own : table.current = ownSlot
    · rw [if_pos own, ← own]
      exact consistent.running
    · rw [if_neg own]
      exact consistent.waits own
  · intro slot ended
    refine ⟨?_, fun other other_ended => consistent.ended other slot other_ended ended⟩
    rintro rfl
    rw [consistent.running] at ended
    cases ended

/-- A core in which one process was created. -/
def smallCore : Core :=
  ((Core.Request.spawn "init" 64 .normal 0).perform
    ⟨Heap.smallHeap, (create 16 0).started⟩).state

theorem reached_smallCore : smallCore.processes.Reached := by
  have answers : ((Core.Request.spawn "init" 64 .normal 0).perform
      ⟨Heap.smallHeap, (create 16 0).started⟩).result = .ok (.number 1) := by
    decide +kernel
  have on : (create 16 0).started.Reached :=
    .step (.fresh 16 0) Heap.smallHeap .start (Answer.returns_ok Core.Reply.done)
  exact .step on Heap.smallHeap _ (answers.symm ▸ Answer.returns_ok _)

/-- A created process runs after a selection pass, and the kernel's waits. -/
theorem one_runs_smallCore : smallCore.processes.select.Reached ∧
    (smallCore.processes.select.process ownSlot).state = .ready ∧
    ∀ slot, (smallCore.processes.select.process slot).state = .running ↔ slot = 1 := by
  have reached : smallCore.processes.select.Reached := by
    have step := Reached.step reached_smallCore smallCore.heap .yield
      (Answer.returns_ok Core.Reply.done)
    rw [Core.Request.perform, Action.map_apply, Core.yield_apply] at step
    exact step
  have current : smallCore.processes.select.current = 1 := by
    decide +kernel
  obtain ⟨runs, _, own, _⟩ := one_runs reached
  rw [current] at runs own
  exact ⟨reached, own, runs⟩

end ProcessTable

end MiniKernel
