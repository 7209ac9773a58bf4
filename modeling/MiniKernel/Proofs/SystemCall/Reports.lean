/-
**The core only reports.**

* `OnlyReports` — nothing but reports was left.
* `Heap.allocate_reports`, `Heap.release_reports`, `Core.exit_reports`, `Core.kill_reports` — the
  operations leave nothing but reports, also on a damaged heap and when they stop midway.
* `SystemCall.perform_reports` — **nor does any system call leave anything else.**
-/

import MiniKernel.Proofs.Effects
import MiniKernel.SystemCall

namespace MiniKernel

/-! ### Reports -/

/-- Nothing but reports was left. -/
def OnlyReports (effects : List Effect) : Prop :=
  ∀ effect ∈ effects, ∃ notice, effect = .report notice

instance : Sequential OnlyReports where
  nil := nofun
  append one others := List.forall_mem_append.mpr ⟨one, others⟩

open MiniKernel.Action

/-- A notice is the only effect the operations below have themselves. -/
theorem Action.leaves_report {σ ε : Type} (notice : Notice) :
    Leaves OnlyReports (report notice : Action σ ε Unit) :=
  leaves_emit (List.forall_mem_singleton.mpr ⟨notice, rfl⟩)

theorem Action.leaves_reportAll {σ ε : Type} (notices : List Notice) :
    Leaves OnlyReports (reportAll notices : Action σ ε Unit) := by
  intro state effect member
  obtain ⟨notice, _, same⟩ := List.mem_map.mp member
  exact ⟨notice, same.symm⟩

/-! ### The heap -/

namespace Heap

/-- The heap reports that it found no block. -/
theorem allocate_reports (size : Nat) : Leaves OnlyReports (allocate size) :=
  allocate_leaves (fun _ _ => List.forall_mem_singleton.mpr ⟨_, rfl⟩) size

/-- It does not report a release, nor a handle that it refuses. -/
theorem release_reports (handle : Handle) : Leaves OnlyReports (release handle) :=
  release_leaves handle

end Heap

/-! ### Processes -/

namespace ProcessTable

variable {ε : Type}

/-- A pass reports the processes that it clears away and where the processor goes. -/
theorem reschedule_reports : Leaves OnlyReports (reschedule : Action ProcessTable ε Unit) :=
  leaves_get.bind fun _ => (leaves_reportAll _).bind fun _ => leaves_modify _

/-- A process that there is none of is refused in silence. -/
theorem requireSlot_reports (pid : Nat) : Leaves OnlyReports (requireSlot pid) := by
  refine leaves_get.bind fun table => ?_
  cases table.slotWith? pid with
  | none => exact leaves_ask _
  | some slot => exact leaves_pure _

theorem tick_reports : Leaves OnlyReports (tick : Action ProcessTable ε Unit) :=
  leaves_get.bind fun _ => .ite ((leaves_ask _).bind fun _ => leaves_modify _) (leaves_pure _)

end ProcessTable

namespace Core

variable {ε : Type}

/-- **A stack goes back with no more than a report**, if the heap refuses it. -/
theorem returnStack_reports (slot : Slot) :
    Leaves OnlyReports (returnStack slot : Action Core ε Unit) := by
  refine leaves_get.bind fun core => ?_
  dsimp only
  cases (core.processes.process slot).stack with
  | none => exact leaves_pure _
  | some stack =>
    refine (leaves_modify _).within.bind fun _ => ?_
    refine (Heap.release_reports stack.handle).within.attempt.bind fun answer => ?_
    cases answer with
    | ok value => exact leaves_pure _
    | error cause => exact leaves_report _

/-- The end of a process: its stack goes back, it is reported, and another one is passed to. -/
theorem exit_reports (code : Int) : Leaves OnlyReports (exit code : Action Core ε Unit) := by
  refine leaves_get.bind fun core => .ite (leaves_pure _) ?_
  refine (leaves_modify _).within.bind fun _ => (returnStack_reports _).bind fun _ => ?_
  exact (leaves_report _).bind fun _ => ProcessTable.reschedule_reports.within

/-- A process that is killed is reported after its stack has gone back. -/
theorem kill_reports (pid : Nat) : Leaves OnlyReports (kill pid) := by
  refine .ite (leaves_ask _) ((ProcessTable.requireSlot_reports pid).within.bind fun slot => ?_)
  refine (leaves_modify _).within.bind fun _ => (returnStack_reports slot).bind fun _ => ?_
  refine (leaves_modify _).within.bind fun _ => (leaves_report _).bind fun _ => ?_
  exact leaves_get.bind fun _ => .ite ProcessTable.reschedule_reports.within (leaves_pure _)

end Core

/-- **A system call leaves nothing but reports**, whatever comes of it. -/
theorem SystemCall.perform_reports (timer : Timer) (call : Call) :
    Leaves OnlyReports (perform timer call) := by
  refine (leaves_report _).bind fun _ => ?_
  cases Number.ofWord call.number with
  | exit => exact (Core.exit_reports _).bind fun _ => leaves_pure _
  | getPid => exact leaves_get.bind fun _ => leaves_pure _
  | yield => exact ProcessTable.reschedule_reports.within.bind fun _ => leaves_pure _
  | kill =>
    refine .ite ?_ (leaves_ask _)
    exact ((Core.kill_reports _).relabel _).bind fun _ => leaves_pure _
  | sleep => exact leaves_pure _
  | time => exact (leaves_ask _).bind fun _ => leaves_pure _
  | malloc =>
    refine ((Heap.allocate_reports _).within.relabel _).bind fun handle => ?_
    exact leaves_get.bind fun _ => leaves_pure _
  | free =>
    refine leaves_get.bind fun core => ?_
    cases core.heap.handleAt call.arg0 with
    | error cause => exact leaves_ask _
    | ok handle =>
      refine ((Heap.release_reports handle).within.relabel _).bind fun _ => ?_
      exact leaves_pure _
  | unknown => exact (leaves_report _).bind fun _ => leaves_ask _

end MiniKernel
