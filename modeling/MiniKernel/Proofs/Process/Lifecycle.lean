/-
**The life of a process, request by request.**

Each request of the kernel core about processes is inverted once, into all that can come of it. What
the heap does on the way stays open here: any heap, sound or not, may stand behind the stacks.

* `Core.StackReturned` — the ways a stack can go back to the heap.
* `Core.spawn_cases`, `Core.exit_cases`, `Core.kill_cases`, `Core.block_cases` and the like — the
  requests.
-/

import Mathlib.Tactic.ByContra
import MiniKernel.Proofs.Effects
import MiniKernel.Proofs.Process.Consistency

namespace MiniKernel

-- A selection pass is known by its lemmas only.
seal ProcessTable.select ProcessTable.selectNotices

namespace Core

variable {ε : Type} {core : Core} {slot : Slot}

/-! ### Parts of the core -/

theorem onHeap_apply {α : Type} (action : Action Heap ε α) (core : Core) :
    onHeap action core = ⟨(action core.heap).result, { core with heap := (action core.heap).state },
      (action core.heap).effects⟩ := rfl

theorem onProcesses_apply {α : Type} (action : Action ProcessTable ε α) (core : Core) :
    onProcesses action core = ⟨(action core.processes).result,
      { core with processes := (action core.processes).state },
      (action core.processes).effects⟩ := rfl

theorem reschedule_apply (table : ProcessTable) :
    (ProcessTable.reschedule : Action ProcessTable ε Unit) table =
      ⟨.ok (), table.select, table.selectNotices.map .report⟩ := by
  unfold ProcessTable.reschedule
  rw [Action.bind_apply_ok (Action.get_apply table)]
  simp only [Action.bind_apply, Action.reportAll, Action.modify_apply, List.nil_append,
    List.append_nil]

theorem requireSlot_of_found {pid : Nat} {table : ProcessTable}
    (found : table.slotWith? pid = some slot) :
    ProcessTable.requireSlot pid table = ⟨.ok slot, table, []⟩ := by
  refine Action.bind_steps (Action.get_apply table) ?_
  rw [found]
  rfl

theorem requireSlot_of_none {pid : Nat} {table : ProcessTable}
    (missing : table.slotWith? pid = none) :
    ProcessTable.requireSlot pid table = ⟨.error (.refused .invalidTarget), table, []⟩ := by
  refine Action.bind_steps (Action.get_apply table) ?_
  rw [missing]
  rfl

theorem required_of_found {pid : Nat} (found : core.processes.slotWith? pid = some slot) :
    onProcesses (ProcessTable.requireSlot pid) core = ⟨.ok slot, core, []⟩ := by
  rw [onProcesses_apply, requireSlot_of_found found]

theorem required_of_none {pid : Nat} (missing : core.processes.slotWith? pid = none) :
    onProcesses (ProcessTable.requireSlot pid) core =
      ⟨.error (.refused .invalidTarget), core, []⟩ := by
  rw [onProcesses_apply, requireSlot_of_none missing]

/-! ### A stack goes back -/

/-- **The ways the stack of process `pid` can go back to the heap**, when there is one. -/
inductive StackReturned (before : Heap) (pid : Nat) : Option Stack → Heap → List Effect → Prop
  | bare : StackReturned before pid none before []
  | released {stack : Stack} {after : Heap} {effects : List Effect}
    (released : Heap.release stack.handle before = ⟨.ok (), after, effects⟩) :
    StackReturned before pid (some stack) after effects
  | kept {stack : Stack} {cause : HeapRefusal} {after : Heap} {effects : List Effect}
    (refused : Heap.release stack.handle before = ⟨.error (.refused cause), after, effects⟩) :
    StackReturned before pid (some stack) after (effects ++ [.report (.stackKept pid cause)])

/-- A stack that goes back leaves at most a notice that its block stays taken. -/
theorem StackReturned.leaves {allowed : List Effect → Prop} [Sequential allowed]
    {before after : Heap} {pid : Nat} {stack : Option Stack} {effects : List Effect}
    (returned : StackReturned before pid stack after effects)
    (kept : ∀ pid cause, allowed [.report (.stackKept pid cause)]) : allowed effects := by
  have leaves : ∀ handle, Action.Leaves allowed (Heap.release handle) := Heap.release_leaves
  cases returned with
  | bare => exact Sequential.nil
  | @released stack _ _ released =>
    have quiet := leaves stack.handle before
    rw [released] at quiet
    exact quiet
  | @kept stack cause _ _ refused =>
    have quiet := leaves stack.handle before
    rw [refused] at quiet
    exact Sequential.append quiet (kept pid cause)

/-- The table with the stack of one slot's process forgotten. -/
def stripped (table : ProcessTable) (slot : Slot) : ProcessTable :=
  table.put slot { table.process slot with stack := none }

theorem returnStack_bare (bare : (core.processes.process slot).stack = none) :
    (returnStack slot : Action Core ε Unit) core =
      ⟨.ok (), ⟨core.heap, stripped core.processes slot⟩, []⟩ := by
  have same : stripped core.processes slot = core.processes := by
    unfold stripped
    rw [← bare]
    exact core.processes.put_self slot
  rw [same]
  unfold returnStack
  refine Action.bind_steps (Action.get_apply core) ?_
  simp only [bare]
  rfl

/-- The stack's block goes to the heap, and the outcome decides what follows. -/
theorem returnStack_held {stack : Stack} {result : Answer HeapRefusal Unit} {heap : Heap}
    {effects : List Effect} (held : (core.processes.process slot).stack = some stack)
    (outcome : Heap.release stack.handle core.heap = ⟨result, heap, effects⟩) :
    (returnStack slot : Action Core ε Unit) core =
      match result with
      | .ok _ => ⟨.ok (), ⟨heap, stripped core.processes slot⟩, effects⟩
      | .error (.refused cause) =>
        ⟨.ok (), ⟨heap, stripped core.processes slot⟩,
          effects ++ [.report (.stackKept (core.processes.process slot).pid cause)]⟩
      | .error (.aborted cause) =>
        ⟨.error (.aborted cause), ⟨heap, stripped core.processes slot⟩, effects⟩ := by
  have released : onHeap (Heap.release stack.handle) ⟨core.heap, stripped core.processes slot⟩ =
      ⟨result, ⟨heap, stripped core.processes slot⟩, effects⟩ := by
    rw [onHeap_apply, outcome]
  have forgets : onProcesses (modify fun table => table.put slot
      { core.processes.process slot with stack := none }) core =
        (⟨.ok ⟨⟩, ⟨core.heap, stripped core.processes slot⟩, []⟩ : Outcome Core ε PUnit) := rfl
  unfold returnStack
  rw [Action.bind_quiet (Action.get_apply core)]
  simp only [held]
  rw [Action.bind_quiet forgets]
  cases result with
  | ok value =>
    rw [Action.bind_apply_ok (Action.attempt_ok released)]
    simp [Action.pure_apply]
  | error failure =>
    cases failure with
    | refused cause =>
      rw [Action.bind_apply_ok (Action.attempt_refused released)]
      rfl
    | aborted cause => rw [Action.bind_apply_error (Action.attempt_aborted released)]

/-- A stack that can go back does. -/
theorem returnStack_apply {heap : Heap} {effects : List Effect}
    (returned : StackReturned core.heap (core.processes.process slot).pid
      (core.processes.process slot).stack heap effects) :
    (returnStack slot : Action Core ε Unit) core =
      ⟨.ok (), ⟨heap, stripped core.processes slot⟩, effects⟩ := by
  generalize held : (core.processes.process slot).stack = stack at returned
  cases returned with
  | bare => exact returnStack_bare held
  | released outcome => exact returnStack_held held outcome
  | kept outcome => exact returnStack_held held outcome

theorem returnStack_cases (slot : Slot)
    (returns : ((returnStack slot : Action Core ε Unit) core).result.Returns) :
    ∃ heap effects, StackReturned core.heap (core.processes.process slot).pid
        (core.processes.process slot).stack heap effects ∧
      (returnStack slot : Action Core ε Unit) core =
        ⟨.ok (), ⟨heap, stripped core.processes slot⟩, effects⟩ := by
  suffices ∃ heap effects, StackReturned core.heap (core.processes.process slot).pid
      (core.processes.process slot).stack heap effects by
    obtain ⟨heap, effects, returned⟩ := this
    exact ⟨heap, effects, returned, returnStack_apply returned⟩
  cases held : (core.processes.process slot).stack with
  | none => exact ⟨core.heap, [], .bare⟩
  | some stack =>
    cases outcome : Heap.release stack.handle core.heap with
    | mk result heap effects =>
      cases result with
      | ok value => exact ⟨heap, effects, .released outcome⟩
      | error failure =>
        cases failure with
        | refused cause => exact ⟨heap, _, .kept outcome⟩
        | aborted cause =>
          rw [returnStack_held held outcome] at returns
          exact absurd rfl (returns cause)

@[simp] theorem stripped_put (table : ProcessTable) (slot : Slot) (process : ProcessEntry) :
    stripped (table.put slot process) slot = table.put slot { process with stack := none } := by
  rw [stripped, ProcessTable.put_put, ProcessTable.process_put_same]

/-! ### Ends -/

/-- The table in which the current process has ended. -/
def exited (table : ProcessTable) (code : Int) : ProcessTable :=
  table.put table.current
    { table.running with state := .zombie, exitStatus := code, stack := none }

/-- A process other than the kernel's own ends wherever its stack can go back to the heap. -/
theorem exit_user (code : Int) {heap : Heap} {effects : List Effect}
    (user : core.processes.current ≠ ProcessTable.ownSlot)
    (returned : StackReturned core.heap core.processes.running.pid core.processes.running.stack
      heap effects) :
    (exit code : Action Core ε Unit) core =
      ⟨.ok (), ⟨heap, (exited core.processes code).select⟩,
        effects ++ .report (.processExited core.processes.running.pid code) ::
          (exited core.processes code).selectNotices.map .report⟩ := by
  have ends : onProcesses (modify fun table => table.put table.current
      { table.running with state := .zombie, exitStatus := code }) core =
        (⟨.ok ⟨⟩, ⟨core.heap, core.processes.put core.processes.current
          { core.processes.running with state := .zombie, exitStatus := code }⟩, []⟩ :
            Outcome Core ε PUnit) := rfl
  have run : (returnStack core.processes.current : Action Core ε Unit)
      ⟨core.heap, core.processes.put core.processes.current
        { core.processes.running with state := .zombie, exitStatus := code }⟩ =
          ⟨.ok (), ⟨heap, exited core.processes code⟩, effects⟩ := by
    refine (returnStack_apply ?_).trans (by rw [stripped_put]; rfl)
    rw [ProcessTable.process_put_same]
    exact returned
  unfold exit
  rw [Action.bind_quiet (Action.get_apply core), if_neg user, Action.bind_quiet ends]
  refine Action.bind_steps run (Action.bind_steps (Action.emit_apply _ _) ?_)
  rw [onProcesses_apply, reschedule_apply]

theorem exit_cases (code : Int) (returns : ((exit code : Action Core ε Unit) core).result.Returns) :
    (core.processes.current = ProcessTable.ownSlot ∧
      (exit code : Action Core ε Unit) core = ⟨.ok (), core, []⟩) ∨
    (core.processes.current ≠ ProcessTable.ownSlot ∧ ∃ heap effects,
      StackReturned core.heap core.processes.running.pid core.processes.running.stack heap effects ∧
      (exit code : Action Core ε Unit) core =
        ⟨.ok (), ⟨heap, (exited core.processes code).select⟩,
          effects ++ .report (.processExited core.processes.running.pid code) ::
            (exited core.processes code).selectNotices.map .report⟩) := by
  by_cases own : core.processes.current = ProcessTable.ownSlot
  · refine Or.inl ⟨own, ?_⟩
    refine Action.bind_steps (Action.get_apply core) ?_
    rw [if_pos own]
    rfl
  have ends : onProcesses (modify fun table => table.put table.current
      { table.running with state := .zombie, exitStatus := code }) core =
        (⟨.ok ⟨⟩, ⟨core.heap, core.processes.put core.processes.current
          { core.processes.running with state := .zombie, exitStatus := code }⟩, []⟩ :
            Outcome Core ε PUnit) := rfl
  unfold exit at returns
  rw [Action.bind_quiet (Action.get_apply core), if_neg own, Action.bind_quiet ends] at returns
  obtain ⟨heap, effects, returned, _⟩ :=
    returnStack_cases core.processes.current (Action.returns_first returns)
  rw [ProcessTable.process_put_same] at returned
  exact Or.inr ⟨own, heap, effects, returned, exit_user code own returned⟩

/-- The table in which the process of one slot was killed. -/
def cleared (table : ProcessTable) (slot : Slot) : ProcessTable :=
  if slot = table.current then (table.put slot ProcessEntry.vacant).select
  else table.put slot ProcessEntry.vacant

/-- A process is killed wherever its stack can go back to the heap. -/
theorem kill_found {pid : Nat} {heap : Heap} {effects : List Effect} (positive : pid ≠ 0)
    (found : core.processes.slotWith? pid = some slot)
    (returned : StackReturned core.heap (core.processes.process slot).pid
      (core.processes.process slot).stack heap effects) :
    kill pid core = ⟨.ok (), ⟨heap, cleared core.processes slot⟩,
      effects ++ .report (.processKilled pid) ::
        if slot = core.processes.current then
          (core.processes.put slot ProcessEntry.vacant).selectNotices.map .report
        else []⟩ := by
  have ends : onProcesses (modify fun table => table.setState slot .zombie) core =
      (⟨.ok ⟨⟩, ⟨core.heap, core.processes.setState slot .zombie⟩, []⟩ :
        Outcome Core ProcessRefusal PUnit) := rfl
  have run : (returnStack slot : Action Core ProcessRefusal Unit)
      ⟨core.heap, core.processes.setState slot .zombie⟩ =
        ⟨.ok (), ⟨heap, stripped (core.processes.setState slot .zombie) slot⟩, effects⟩ := by
    refine returnStack_apply ?_
    rw [ProcessTable.setState, ProcessTable.process_put_same]
    exact returned
  have clears : onProcesses (modify fun table => table.put slot ProcessEntry.vacant)
      ⟨heap, stripped (core.processes.setState slot .zombie) slot⟩ =
        (⟨.ok ⟨⟩, ⟨heap, core.processes.put slot ProcessEntry.vacant⟩, []⟩ :
          Outcome Core ProcessRefusal PUnit) := by
    rw [ProcessTable.setState, stripped_put, onProcesses_apply, Action.modify_apply,
      ProcessTable.put_put]
  unfold kill
  rw [if_neg positive, Action.bind_quiet (required_of_found found), Action.bind_quiet ends]
  refine Action.bind_steps run ?_
  rw [Action.bind_quiet clears, cleared]
  by_cases current : slot = core.processes.current
  · rw [if_pos current, if_pos current]
    refine Action.bind_steps (Action.emit_apply _ _) ?_
    rw [Action.bind_quiet (Action.get_apply _), ProcessTable.current_put, if_pos current,
      onProcesses_apply, reschedule_apply]
  · rw [if_neg current, if_neg current]
    refine Action.bind_steps (Action.emit_apply _ _) ?_
    rw [Action.bind_quiet (Action.get_apply _), ProcessTable.current_put, if_neg current]
    rfl

theorem kill_cases (pid : Nat) (returns : (kill pid core).result.Returns) :
    ((pid = 0 ∨ core.processes.slotWith? pid = none) ∧
      kill pid core = ⟨.error (.refused .invalidTarget), core, []⟩) ∨
    (pid ≠ 0 ∧ ∃ slot heap effects, core.processes.slotWith? pid = some slot ∧
      StackReturned core.heap (core.processes.process slot).pid
        (core.processes.process slot).stack heap effects ∧
      kill pid core = ⟨.ok (), ⟨heap, cleared core.processes slot⟩,
        effects ++ .report (.processKilled pid) ::
          if slot = core.processes.current then
            (core.processes.put slot ProcessEntry.vacant).selectNotices.map .report
          else []⟩) := by
  by_cases zero : pid = 0
  · refine Or.inl ⟨Or.inl zero, ?_⟩
    unfold kill
    rw [if_pos zero]
    rfl
  cases found : core.processes.slotWith? pid with
  | none =>
    refine Or.inl ⟨Or.inr rfl, ?_⟩
    unfold kill
    rw [if_neg zero, Action.bind_apply_error (required_of_none found)]
  | some slot =>
    have ends : onProcesses (modify fun table => table.setState slot .zombie) core =
        (⟨.ok ⟨⟩, ⟨core.heap, core.processes.setState slot .zombie⟩, []⟩ :
          Outcome Core ProcessRefusal PUnit) := rfl
    unfold kill at returns
    rw [if_neg zero, Action.bind_quiet (required_of_found found), Action.bind_quiet ends] at returns
    obtain ⟨heap, effects, returned, _⟩ := returnStack_cases slot (Action.returns_first returns)
    rw [ProcessTable.setState, ProcessTable.process_put_same] at returned
    exact Or.inr ⟨zero, slot, heap, effects, rfl, returned, kill_found zero found returned⟩

/-! ### Beginnings -/

/-- A new process as the table admits it. -/
def recruit (table : ProcessTable) (name : String) (entry : Nat) (priority : Priority) (now : Nat)
    (stack : Stack) (context : Context) : ProcessEntry :=
  { pid := table.nextNumber, name := Name.ofString name, state := .ready, priority, context
    stack := some stack, parent := table.running.pid, since := now, entry }

/-- The table with one more number given. -/
def numbered (table : ProcessTable) : ProcessTable :=
  { table with nextNumber := table.nextNumber + 1 }

/-- The registers of a new process, once they are there. -/
theorem exists_of_fresh {entry top : Nat}
    (returns : (Context.fresh entry top : Answer ε Context).Returns) :
    ∃ context, (Context.fresh entry top : Answer ε Context) = .ok context := by
  have room : 4 ≤ top := by
    refine Checked.le_of_sub_returns (ε := ε) fun cause stopped => returns cause ?_
    rw [Context.fresh, stopped]
    rfl
  rw [Context.fresh, Checked.sub_eq_ok room]
  exact ⟨_, rfl⟩

/-- Where the registers of a new process can be told, so can the top of its stack. -/
theorem exists_of_registers {entry : Nat} {stack : Stack}
    (returns : (stack.top >>= Context.fresh entry : Answer ε Context).Returns) :
    ∃ top context, (stack.top : Answer ε Nat) = .ok top ∧
      (Context.fresh entry top : Answer ε Context) = .ok context := by
  have within : stack.base + stack.size < longLimit := by
    refine Checked.lt_of_add_returns (ε := ε) fun cause stopped => returns cause ?_
    rw [Stack.top, stopped]
    rfl
  have topped : (stack.top : Answer ε Nat) = .ok (stack.base + stack.size) :=
    Checked.add_eq_ok within
  rw [topped] at returns
  obtain ⟨context, fresh⟩ := exists_of_fresh returns
  exact ⟨_, context, topped, fresh⟩

section Creation

variable (name : String) (entry : Nat) (priority : Priority) (now : Nat) {handle : Handle}
  {heap : Heap} {effects : List Effect}

/-- Without a free slot, or without a number to give, nothing is created. -/
theorem spawn_full
    (full : core.processes.freeSlot? = none ∨ wordLimit ≤ core.processes.nextNumber + 1) :
    spawn name entry priority now core = ⟨.error (.refused .noFreeSlot), core, []⟩ := by
  unfold spawn
  rw [Action.bind_quiet (Action.get_apply core)]
  cases found : core.processes.freeSlot? with
  | none => rfl
  | some slot =>
    have used_up := full.resolve_left (by simp [found])
    simp only [if_neg (Nat.not_lt.mpr used_up)]
    rfl

/-- Where the heap has no stack to give, nothing is created. -/
theorem spawn_unserved {failure : Failure HeapRefusal}
    (found : core.processes.freeSlot? = some slot)
    (small : core.processes.nextNumber + 1 < wordLimit)
    (outcome : Heap.allocate core.processes.stackBytes core.heap =
      ⟨.error failure, heap, effects⟩) :
    spawn name entry priority now core =
      ⟨.error (failure.map fun _ => .outOfMemory), ⟨heap, core.processes⟩, effects⟩ := by
  have served : (onHeap (Heap.allocate core.processes.stackBytes)).relabel
      (fun _ => ProcessRefusal.outOfMemory) core =
        ⟨.error (failure.map fun _ => .outOfMemory), ⟨heap, core.processes⟩, effects⟩ := by
    simp only [Action.relabel, onHeap_apply, outcome]
    rfl
  unfold spawn
  rw [Action.bind_quiet (Action.get_apply core)]
  simp only [found, if_pos small]
  exact Action.bind_apply_error served

/-- Where the heap gives a stack, the registers of the new process decide what follows. -/
theorem spawn_served (found : core.processes.freeSlot? = some slot)
    (small : core.processes.nextNumber + 1 < wordLimit)
    (outcome : Heap.allocate core.processes.stackBytes core.heap = ⟨.ok handle, heap, effects⟩) :
    spawn name entry priority now core =
      match ((⟨handle, heap.address handle, core.processes.stackBytes⟩ : Stack).top >>=
        Context.fresh entry : Answer ProcessRefusal Context) with
      | .ok context =>
        ⟨.ok core.processes.nextNumber,
          ⟨heap, (numbered core.processes).put slot (recruit core.processes name entry priority now
            ⟨handle, heap.address handle, core.processes.stackBytes⟩ context)⟩,
          effects ++ [.report (.processCreated core.processes.nextNumber (Name.ofString name).text
            core.processes.running.pid)]⟩
      | .error failure => ⟨.error failure, ⟨heap, numbered core.processes⟩, effects⟩ := by
  have served : (onHeap (Heap.allocate core.processes.stackBytes)).relabel
      (fun _ => ProcessRefusal.outOfMemory) core =
        ⟨.ok handle, ⟨heap, core.processes⟩, effects⟩ := by
    simp only [Action.relabel, onHeap_apply, outcome]
    rfl
  have counts : onProcesses (modify fun table =>
      { table with nextNumber := core.processes.nextNumber + 1 }) ⟨heap, core.processes⟩ =
        (⟨.ok ⟨⟩, ⟨heap, numbered core.processes⟩, []⟩ : Outcome Core ProcessRefusal PUnit) := rfl
  unfold spawn
  rw [Action.bind_quiet (Action.get_apply core)]
  simp only [found, if_pos small]
  rw [Action.bind_apply_ok served, Action.bind_quiet (Action.get_apply _),
    Action.bind_quiet counts]
  generalize (⟨handle, heap.address handle, core.processes.stackBytes⟩ : Stack) = stack
  cases (stack.top : Answer ProcessRefusal Nat) with
  | error failure =>
    simp only [Action.bind_apply_error (Action.ask_apply _ _), List.append_nil]
    rfl
  | ok top =>
    rw [Action.bind_quiet (Action.ask_apply _ _)]
    show _ = match (Context.fresh entry top : Answer ProcessRefusal Context) with
      | .ok _ => _
      | .error _ => _
    cases (Context.fresh entry top : Answer ProcessRefusal Context) with
    | error failure =>
      simp only [Action.bind_apply_error (Action.ask_apply _ _), List.append_nil]
    | ok context =>
      rw [Action.bind_quiet (Action.ask_apply _ _), Action.bind_quiet (onProcesses_apply _ _)]
      rfl

end Creation

theorem spawn_cases (name : String) (entry : Nat) (priority : Priority) (now : Nat)
    (returns : (spawn name entry priority now core).result.Returns) :
    ((core.processes.freeSlot? = none ∨ wordLimit ≤ core.processes.nextNumber + 1) ∧
      spawn name entry priority now core = ⟨.error (.refused .noFreeSlot), core, []⟩) ∨
    (∃ slot cause heap effects, core.processes.freeSlot? = some slot ∧
      core.processes.nextNumber + 1 < wordLimit ∧
      Heap.allocate core.processes.stackBytes core.heap =
        ⟨.error (.refused cause), heap, effects⟩ ∧
      spawn name entry priority now core =
        ⟨.error (.refused .outOfMemory), ⟨heap, core.processes⟩, effects⟩) ∨
    ∃ slot handle heap effects top context, core.processes.freeSlot? = some slot ∧
      core.processes.nextNumber + 1 < wordLimit ∧
      Heap.allocate core.processes.stackBytes core.heap = ⟨.ok handle, heap, effects⟩ ∧
      (⟨handle, heap.address handle, core.processes.stackBytes⟩ : Stack).top =
        (.ok top : Answer ProcessRefusal Nat) ∧
      Context.fresh entry top = (.ok context : Answer ProcessRefusal Context) ∧
      spawn name entry priority now core =
        ⟨.ok core.processes.nextNumber,
          ⟨heap, (numbered core.processes).put slot (recruit core.processes name entry priority now
            ⟨handle, heap.address handle, core.processes.stackBytes⟩ context)⟩,
          effects ++ [.report (.processCreated core.processes.nextNumber (Name.ofString name).text
            core.processes.running.pid)]⟩ := by
  cases found : core.processes.freeSlot? with
  | none => exact Or.inl ⟨Or.inl rfl, spawn_full name entry priority now (Or.inl found)⟩
  | some slot =>
    rcases Nat.lt_or_ge (core.processes.nextNumber + 1) wordLimit with small | used_up
    · right
      cases outcome : Heap.allocate core.processes.stackBytes core.heap with
      | mk result heap effects =>
        cases result with
        | error failure =>
          have run := spawn_unserved name entry priority now found small outcome
          cases failure with
          | refused cause => exact Or.inl ⟨slot, cause, heap, effects, rfl, small, rfl, run⟩
          | aborted cause =>
            rw [run] at returns
            exact absurd rfl (returns cause)
        | ok handle =>
          have run := spawn_served name entry priority now found small outcome
          obtain ⟨top, context, topped, fresh⟩ := exists_of_registers fun cause stopped => by
            rw [run, stopped] at returns
            exact returns cause rfl
          rw [topped, show (Except.ok top >>= _ : Answer ProcessRefusal Context) = _ from fresh]
            at run
          exact Or.inr ⟨slot, handle, heap, effects, top, context, rfl, small, rfl, topped, fresh,
            run⟩
    · exact Or.inl ⟨Or.inr used_up, spawn_full name entry priority now (Or.inr used_up)⟩

/-! ### Changes of who runs -/

theorem yield_apply (core : Core) : (yield : Action Core ε Unit) core =
    ⟨.ok (), ⟨core.heap, core.processes.select⟩, core.processes.selectNotices.map .report⟩ := by
  unfold yield
  rw [onProcesses_apply, reschedule_apply]

/-- While accounting is off a tick changes nothing. -/
theorem tick_off (off : core.processes.enabled = false) :
    (tick : Action Core ε Unit) core = ⟨.ok (), core, []⟩ := by
  unfold tick ProcessTable.tick
  rw [onProcesses_apply, Action.bind_quiet (Action.get_apply _), if_neg (by simp [off])]
  rfl

/-- While accounting is on a tick counts for the current process, as long as its count has room. -/
theorem tick_on (on : core.processes.enabled = true)
    (room : core.processes.running.ticksRun + 1 < longLimit) :
    (tick : Action Core ε Unit) core =
      ⟨.ok (), ⟨core.heap, core.processes.put core.processes.current
        { core.processes.running with ticksRun := core.processes.running.ticksRun + 1 }⟩, []⟩ := by
  unfold tick ProcessTable.tick
  rw [onProcesses_apply, Action.bind_quiet (Action.get_apply _), if_pos on, Checked.add_eq_ok room]
  rfl

theorem tick_cases (returns : ((tick : Action Core ε Unit) core).result.Returns) :
    (core.processes.enabled = false ∧ (tick : Action Core ε Unit) core = ⟨.ok (), core, []⟩) ∨
    (core.processes.enabled = true ∧ (tick : Action Core ε Unit) core =
      ⟨.ok (), ⟨core.heap, core.processes.put core.processes.current
        { core.processes.running with ticksRun := core.processes.running.ticksRun + 1 }⟩, []⟩) := by
  cases enabled : core.processes.enabled with
  | false => exact Or.inl ⟨rfl, tick_off enabled⟩
  | true =>
    refine Or.inr ⟨rfl, tick_on enabled ?_⟩
    unfold tick ProcessTable.tick at returns
    rw [onProcesses_apply, Action.bind_quiet (Action.get_apply _), if_pos enabled] at returns
    exact Checked.lt_of_add_returns (Action.returns_first returns)

theorem block_cases (pid : Nat) (core : Core) :
    (∃ reply, onProcesses (ProcessTable.block pid) core = ⟨reply, core, []⟩ ∧
      (reply = .error (.refused .invalidTarget) ∨ reply = .ok false)) ∨
    ∃ slot, core.processes.slotWith? pid = some slot ∧ slot ≠ ProcessTable.ownSlot ∧
      (core.processes.process slot).state = .running ∧
      onProcesses (ProcessTable.block pid) core =
        ⟨.ok true, ⟨core.heap, (core.processes.setState slot .blocked).select⟩,
          (core.processes.setState slot .blocked).selectNotices.map .report⟩ := by
  rw [onProcesses_apply]
  unfold ProcessTable.block
  cases found : core.processes.slotWith? pid with
  | none =>
    rw [Action.bind_apply_error (requireSlot_of_none found)]
    exact Or.inl ⟨_, rfl, Or.inl rfl⟩
  | some slot =>
    rw [Action.bind_quiet (requireSlot_of_found found), Action.bind_quiet (Action.get_apply _)]
    by_cases still : slot = ProcessTable.ownSlot ∨ (core.processes.process slot).state ≠ .running
    · rw [if_pos still]
      exact Or.inl ⟨_, rfl, Or.inr rfl⟩
    · rw [if_neg still]
      obtain ⟨user, runs⟩ := not_or.mp still
      refine Or.inr ⟨slot, rfl, user, Decidable.not_not.mp runs, ?_⟩
      rw [Action.bind_quiet (Action.modify_apply _ _),
        Action.bind_apply_ok (reschedule_apply _), Action.pure_apply, List.append_nil]

theorem unblock_cases (pid : Nat) (core : Core) :
    (∃ reply, onProcesses (ProcessTable.unblock pid) core = ⟨reply, core, []⟩ ∧
      (reply = .error (.refused .invalidTarget) ∨ reply = .ok false)) ∨
    ∃ slot, core.processes.slotWith? pid = some slot ∧
      (core.processes.process slot).state = .blocked ∧
      onProcesses (ProcessTable.unblock pid) core =
        ⟨.ok true, ⟨core.heap, core.processes.setState slot .ready⟩, []⟩ := by
  rw [onProcesses_apply]
  unfold ProcessTable.unblock
  cases found : core.processes.slotWith? pid with
  | none =>
    rw [Action.bind_apply_error (requireSlot_of_none found)]
    exact Or.inl ⟨_, rfl, Or.inl rfl⟩
  | some slot =>
    rw [Action.bind_quiet (requireSlot_of_found found), Action.bind_quiet (Action.get_apply _)]
    by_cases still : (core.processes.process slot).state ≠ .blocked
    · rw [if_pos still]
      exact Or.inl ⟨_, rfl, Or.inr rfl⟩
    · rw [if_neg still]
      exact Or.inr ⟨slot, rfl, Decidable.not_not.mp still, rfl⟩

end Core

end MiniKernel
