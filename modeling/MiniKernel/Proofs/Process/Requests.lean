/-
**What the kernel is asked about processes, and all that can come of it.**

* `Core.Request`, `Core.Request.perform` — the requests and how each is carried out.
* `Core.Course` — the ways a request can go: with nothing changed, or with one of the changes of
  `MiniKernel.Proofs.Process.Lifecycle`, and what each reports.
* `Core.perform_course` — **every request that comes to its end goes one of these ways.**
-/

import MiniKernel.Proofs.Process.Lifecycle

namespace MiniKernel

-- A selection pass is known by its lemmas only.
seal ProcessTable.select ProcessTable.selectNotices

/-! ### Requests -/

/-- What the kernel is asked about processes. -/
inductive Core.Request
  | start
  | spawn (name : String) (entry : Nat) (priority : Priority) (now : Nat)
  | exit (code : Int)
  | kill (pid : Nat)
  | block (pid : Nat)
  | unblock (pid : Nat)
  | yield
  | tick

/-- What the kernel answers. -/
inductive Core.Reply
  | number (pid : Nat)
  | moved (moved : Bool)
  | done
  deriving DecidableEq, Repr

namespace Core

/-- Carry a request out. -/
def Request.perform : Request → Action Core ProcessRefusal Reply
  | start => (fun _ => Reply.done) <$> Core.start
  | spawn name entry priority now => Reply.number <$> Core.spawn name entry priority now
  | exit code => (fun _ => Reply.done) <$> Core.exit code
  | kill pid => (fun _ => Reply.done) <$> Core.kill pid
  | block pid => Reply.moved <$> onProcesses (ProcessTable.block pid)
  | unblock pid => Reply.moved <$> onProcesses (ProcessTable.unblock pid)
  | yield => (fun _ => Reply.done) <$> Core.yield
  | tick => (fun _ => Reply.done) <$> Core.tick

/-- What a request that came to its end without changing anything answers. -/
def Request.Idle : Request → Reply → Prop
  | exit _, .done | tick, .done | block _, .moved false | unblock _, .moved false => True
  | _, _ => False

/-- **The ways a request can go**: its answer, the core after it and what it leaves. -/
inductive Course (before : Core) :
    Request → Answer ProcessRefusal Reply → Core → List Effect → Prop
  | refused (request : Request) (cause : ProcessRefusal) :
    Course before request (.error (.refused cause)) before []
  | unmoved (request : Request) (reply : Reply) (idle : request.Idle reply) :
    Course before request (.ok reply) before []
  | started : Course before .start (.ok .done) ⟨before.heap, before.processes.started⟩ []
  | short {name : String} {entry now : Nat} {priority : Priority} {cause : HeapRefusal}
    {heap : Heap} {effects : List Effect}
    (served : Heap.allocate before.processes.stackBytes before.heap =
      ⟨.error (.refused cause), heap, effects⟩) :
    Course before (.spawn name entry priority now) (.error (.refused .outOfMemory))
      ⟨heap, before.processes⟩ effects
  | spawned {name : String} {entry now : Nat} {priority : Priority} {slot : Slot} {handle : Handle}
    {heap : Heap} {effects : List Effect} (context : Context)
    (found : before.processes.freeSlot? = some slot)
    (served : Heap.allocate before.processes.stackBytes before.heap =
      ⟨.ok handle, heap, effects⟩) :
    Course before (.spawn name entry priority now) (.ok (.number before.processes.nextNumber))
      ⟨heap, (numbered before.processes).put slot (recruit before.processes name entry priority now
        ⟨handle, heap.address handle, before.processes.stackBytes⟩ context)⟩
      (effects ++ [.report (.processCreated before.processes.nextNumber (Name.ofString name).text
        before.processes.running.pid)])
  | exited {code : Int} {heap : Heap} {effects : List Effect}
    (user : before.processes.current ≠ ProcessTable.ownSlot)
    (returned : StackReturned before.heap before.processes.running.pid
      before.processes.running.stack heap effects) :
    Course before (.exit code) (.ok .done) ⟨heap, (exited before.processes code).select⟩
      (effects ++ .report (.processExited before.processes.running.pid code) ::
        (exited before.processes code).selectNotices.map .report)
  | killed {pid : Nat} {slot : Slot} {heap : Heap} {effects : List Effect} (positive : pid ≠ 0)
    (found : before.processes.slotWith? pid = some slot)
    (returned : StackReturned before.heap (before.processes.process slot).pid
      (before.processes.process slot).stack heap effects) :
    Course before (.kill pid) (.ok .done) ⟨heap, cleared before.processes slot⟩
      (effects ++ .report (.processKilled pid) ::
        if slot = before.processes.current then
          (before.processes.put slot ProcessEntry.vacant).selectNotices.map .report
        else [])
  | blocked {pid : Nat} {slot : Slot} (user : slot ≠ ProcessTable.ownSlot)
    (runs : (before.processes.process slot).state = .running)
    (found : before.processes.slotWith? pid = some slot) :
    Course before (.block pid) (.ok (.moved true))
      ⟨before.heap, (before.processes.setState slot .blocked).select⟩
      ((before.processes.setState slot .blocked).selectNotices.map .report)
  | unblocked {pid : Nat} {slot : Slot}
    (waits : (before.processes.process slot).state = .blocked)
    (found : before.processes.slotWith? pid = some slot) :
    Course before (.unblock pid) (.ok (.moved true))
      ⟨before.heap, before.processes.setState slot .ready⟩ []
  | yielded : Course before .yield (.ok .done) ⟨before.heap, before.processes.select⟩
      (before.processes.selectNotices.map .report)
  | ticked : Course before .tick (.ok .done)
      ⟨before.heap, before.processes.put before.processes.current
        { before.processes.running with ticksRun := before.processes.running.ticksRun + 1 }⟩ []

variable {core : Core}

/-- **Every request that comes to its end goes one of these ways.** -/
theorem perform_course (request : Request) (returns : (request.perform core).result.Returns) :
    core.Course request (request.perform core).result (request.perform core).state
      (request.perform core).effects := by
  cases request with
  | start =>
    rw [Request.perform, Action.map_apply]
    exact .started
  | spawn name entry priority now =>
    rw [Request.perform, Action.map_apply] at returns ⊢
    rcases spawn_cases name entry priority now (Answer.returns_of_map returns) with
      ⟨_, run⟩ | ⟨_, _, _, _, _, _, served, run⟩ |
      ⟨_, _, _, _, _, context, found, _, served, _, _, run⟩
    · rw [run]
      exact .refused _ _
    · rw [run]
      exact .short served
    · rw [run]
      exact .spawned context found served
  | exit code =>
    rw [Request.perform, Action.map_apply] at returns ⊢
    rcases exit_cases code (Answer.returns_of_map returns) with
      ⟨_, run⟩ | ⟨user, _, _, returned, run⟩
    · rw [run]
      exact .unmoved _ _ trivial
    · rw [run]
      exact .exited user returned
  | kill pid =>
    rw [Request.perform, Action.map_apply] at returns ⊢
    rcases kill_cases pid (Answer.returns_of_map returns) with
      ⟨_, run⟩ | ⟨positive, _, _, _, found, returned, run⟩
    · rw [run]
      exact .refused _ _
    · rw [run]
      exact .killed positive found returned
  | block pid =>
    rw [Request.perform, Action.map_apply]
    rcases block_cases pid core with ⟨_, run, rfl | rfl⟩ | ⟨_, found, user, runs, run⟩
    · rw [run]
      exact .refused _ _
    · rw [run]
      exact .unmoved _ _ trivial
    · rw [run]
      exact .blocked user runs found
  | unblock pid =>
    rw [Request.perform, Action.map_apply]
    rcases unblock_cases pid core with ⟨_, run, rfl | rfl⟩ | ⟨_, found, waits, run⟩
    · rw [run]
      exact .refused _ _
    · rw [run]
      exact .unmoved _ _ trivial
    · rw [run]
      exact .unblocked waits found
  | yield =>
    rw [Request.perform, Action.map_apply, yield_apply]
    exact .yielded
  | tick =>
    rw [Request.perform, Action.map_apply] at returns ⊢
    rcases tick_cases (Answer.returns_of_map returns) with ⟨_, run⟩ | ⟨_, run⟩
    · rw [run]
      exact .unmoved _ _ trivial
    · rw [run]
      exact .ticked

end Core

end MiniKernel
