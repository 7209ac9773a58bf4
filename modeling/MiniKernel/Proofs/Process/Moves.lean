/-
**The life cycle of a process.**

```text
            create        pass          block
      free ───────▸ ready ⇄ running ──────────▸ blocked ──unblock──▸ ready
                                └──exit──▸ zombie ──pass, kill──▸ free
      any of the four live states ──kill──▸ free
```

A request changes one slot itself and then may run a selection pass, which looks at all of them. So
each slot is followed twice: through the pass, and through the request.

* `ProcessTable.Selectable.turned` — **one pass**: a slot is cleared, chosen, paused or left alone.
* `ProcessTable.Move` — the moves of a slot's state, each with what makes it.
* `Core.Course.proceeds` — **one request**: every slot makes one of these moves or none, and what is
  told of a process once stays the same as long as it lives.
* `ProcessTable.Lives`, `ProcessTable.life_cycle` — the same for a whole life, in every run.
-/

import MiniKernel.Proofs.Process.Passes
import MiniKernel.Proofs.Process.Turns

namespace MiniKernel

-- A selection pass is known by its lemmas only.
seal ProcessTable.select ProcessTable.selectNotices

namespace ProcessTable

variable {table handed before after : ProcessTable} {slot : Slot} {request : Core.Request}

/-! ### One pass -/

/-- What a pass can make of the process in a slot. -/
inductive Turned (table : ProcessTable) (slot : Slot) : ProcessEntry → Prop
  | kept : Turned table slot (table.process slot)
  | cleared (apart : slot ≠ table.current) (ended : (table.process slot).state = .zombie) :
    Turned table slot ProcessEntry.vacant
  | chosen (ready : (table.process slot).state = .ready) (next : table.select.current = slot) :
    Turned table slot { table.process slot with state := .running }
  | paused (current : slot = table.current) (runs : (table.process slot).state = .running)
    (next : table.select.current ≠ slot) :
    Turned table slot { table.process slot with state := .ready }

/-- **A pass clears, chooses or pauses a slot, or leaves it alone.** -/
theorem Selectable.turned (selectable : table.Selectable) (on : table.enabled = true)
    (slot : Slot) : table.Turned slot (table.select.process slot) := by
  rw [selectable.process_select on]
  split
  · rename_i ended
    exact .cleared ended.1 ended.2
  · split
    · rename_i here
      subst here
      rcases selectable.chosen on with ⟨_, ready⟩ | ⟨stays, runs⟩
      · exact .chosen ready rfl
      · rw [stays, ← runs]
        exact .kept
    · rename_i elsewhere
      split
      · rename_i paused
        exact .paused paused.1 paused.2 (Ne.symm elsewhere)
      · exact .kept

/-- A pass leaves the process that has just stopped to run where it is. -/
theorem Selectable.process_select_stopped (selectable : table.Selectable)
    (on : table.enabled = true) (stopped : (table.process table.current).state ≠ .running) :
    table.select.process table.current = table.process table.current := by
  have turned := selectable.turned on table.current
  generalize table.select.process table.current = process at turned ⊢
  cases turned with
  | kept => rfl
  | cleared apart _ => exact absurd rfl apart
  | chosen ready _ => exact absurd ready selectable.unready
  | paused _ runs _ => exact absurd runs stopped

/-! ### The moves of a slot -/

/-- **The request ran a selection pass** on the table it handed over. -/
def Selects (before : ProcessTable) (request : Core.Request) (after : ProcessTable) : Prop :=
  before.enabled = true ∧ ∃ handed, request.handed? before = some handed ∧ after = handed.select

/-- **The moves of a slot's state** when a request leads from one table to another. -/
inductive Move (before : ProcessTable) (request : Core.Request) (after : ProcessTable)
    (slot : Slot) : RunState → RunState → Prop
  | none (state : RunState) : Move before request after slot state state
  | created {name : String} {entry now : Nat} {priority : Priority}
    (creates : request = .spawn name entry priority now)
    (found : before.freeSlot? = some slot) : Move before request after slot .free .ready
  | chosen (selects : before.Selects request after) (last : slot ≠ before.current)
    (next : slot = after.current) : Move before request after slot .ready .running
  | paused (selects : before.Selects request after) (last : slot = before.current)
    (next : slot ≠ after.current) : Move before request after slot .running .ready
  | blocked {pid : Nat} (blocks : request = .block pid)
    (found : before.slotWith? pid = some slot) : Move before request after slot .running .blocked
  | unblocked {pid : Nat} (unblocks : request = .unblock pid)
    (found : before.slotWith? pid = some slot) : Move before request after slot .blocked .ready
  | exited {code : Int} (exits : request = .exit code) (last : slot = before.current) :
    Move before request after slot .running .zombie
  | cleared (selects : before.Selects request after) (last : slot ≠ before.current) :
    Move before request after slot .zombie .free
  | killed {pid : Nat} {state : RunState} (kills : request = .kill pid)
    (found : before.slotWith? pid = some slot) (user : slot ≠ ownSlot) (live : state ≠ .free) :
    Move before request after slot state .free

/-- A slot comes to run from being ready only. -/
theorem Move.ready_of_running {first last : RunState}
    (move : before.Move request after slot first last) (runs : last = .running)
    (began : first ≠ .running) : first = .ready := by
  cases move with
  | none => exact absurd runs began
  | chosen => rfl
  | created | paused | blocked | unblocked | exited | cleared | killed => cases runs

/-- What has ended stays so as long as it is there. -/
theorem Move.zombie_of_zombie {first last : RunState}
    (move : before.Move request after slot first last) (ended : first = .zombie)
    (live : last ≠ .free) : last = .zombie := by
  cases move with
  | none => exact ended
  | cleared | killed => exact absurd rfl live
  | created | chosen | paused | blocked | unblocked | exited => cases ended

/-! ### What stays the same of a process -/

/-- **What is settled when a process is created.** -/
structure SameProcess (first last : ProcessEntry) : Prop where
  pid : last.pid = first.pid
  name : last.name = first.name
  priority : last.priority = first.priority
  parent : last.parent = first.parent
  since : last.since = first.since
  entry : last.entry = first.entry
  context : last.context = first.context

theorem SameProcess.refl (process : ProcessEntry) : SameProcess process process :=
  ⟨rfl, rfl, rfl, rfl, rfl, rfl, rfl⟩

theorem SameProcess.trans {first middle last : ProcessEntry} (one : SameProcess first middle)
    (two : SameProcess middle last) : SameProcess first last :=
  ⟨two.pid.trans one.pid, two.name.trans one.name, two.priority.trans one.priority,
    two.parent.trans one.parent, two.since.trans one.since, two.entry.trans one.entry,
    two.context.trans one.context⟩

/-- The process ended between the two. -/
def Ends (first last : ProcessEntry) : Prop := first.state = .running ∧ last.state = .zombie

/-- **A slot goes on as documented**: it makes one of the moves or none, and a process that lives on
keeps what was settled at its creation, and until it ends also its exit status and its stack. -/
structure Proceeds (before : ProcessTable) (request : Core.Request) (after : ProcessTable)
    (slot : Slot) : Prop where
  move : before.Move request after slot (before.process slot).state (after.process slot).state
  same : (before.process slot).state ≠ .free → (after.process slot).state ≠ .free →
    SameProcess (before.process slot) (after.process slot)
  kept : (before.process slot).state ≠ .free → (after.process slot).state ≠ .free →
    ¬ Ends (before.process slot) (after.process slot) →
    (after.process slot).exitStatus = (before.process slot).exitStatus ∧
      (after.process slot).stack = (before.process slot).stack

namespace Proceeds

/-- A slot that nothing happened to. -/
theorem of_same (same : after.process slot = before.process slot) :
    before.Proceeds request after slot := by
  refine ⟨?_, fun _ _ => ?_, fun _ _ _ => ?_⟩
  · rw [same]
    exact .none _
  · rw [same]
    exact .refl _
  · rw [same]
    exact ⟨rfl, rfl⟩

/-- A process that goes to another state and nothing else. -/
theorem of_state {first last : RunState} (was : (before.process slot).state = first)
    (now : after.process slot = { before.process slot with state := last })
    (move : before.Move request after slot first last) : before.Proceeds request after slot := by
  refine ⟨?_, fun _ _ => ?_, fun _ _ _ => ?_⟩
  · rw [was, now]
    exact move
  · rw [now]
    exact ⟨rfl, rfl, rfl, rfl, rfl, rfl, rfl⟩
  · rw [now]
    exact ⟨rfl, rfl⟩

/-- A process that is cleared away. -/
theorem of_cleared (now : after.process slot = ProcessEntry.vacant)
    (move : before.Move request after slot (before.process slot).state .free) :
    before.Proceeds request after slot := by
  have free : (after.process slot).state = .free := by
    rw [now]
    rfl
  exact ⟨free ▸ move, fun _ live => absurd free live, fun _ live => absurd free live⟩

/-- **A slot that only the pass of a request looks at.** -/
theorem of_pass (selectable : handed.Selectable) (selects : before.Selects request handed.select)
    (on : handed.enabled = true) (current : handed.current = before.current)
    (same : handed.process slot = before.process slot) :
    before.Proceeds request handed.select slot := by
  have turned := selectable.turned on slot
  generalize now : handed.select.process slot = process at turned
  cases turned with
  | kept => exact of_same (now.trans same)
  | cleared apart ended =>
    rw [same] at ended
    refine of_cleared now ?_
    rw [ended]
    exact .cleared selects (current ▸ apart)
  | chosen ready next =>
    have apart := selectable.apart_of_ready ready
    rw [same] at now ready
    exact of_state ready now (.chosen selects (current ▸ apart) next.symm)
  | paused here runs next =>
    rw [same] at now runs
    exact of_state runs now (.paused selects (here.trans current) (Ne.symm next))

/-- **A request that stops the current process and then runs a pass**: the pass leaves that process
where it is, and looks at the others. -/
theorem of_stopped {process : ProcessEntry}
    (selectable : (before.put before.current process).Selectable)
    (selects : before.Selects request (before.put before.current process).select)
    (stopped : process.state ≠ .running)
    (here : ∀ {after : ProcessTable}, after.process before.current = process →
      before.Proceeds request after before.current)
    (slot : Slot) : before.Proceeds request (before.put before.current process).select slot := by
  by_cases current : slot = before.current
  · subst current
    refine here ?_
    have stays := selectable.process_select_stopped selects.1 (by simpa using stopped)
    rwa [current_put, process_put_same] at stays
  · exact of_pass selectable selects selects.1 rfl (process_put_other current)

end Proceeds

end ProcessTable

/-! ### One request -/

namespace Core

open ProcessTable

variable {core after : Core} {request : Request} {result : Answer ProcessRefusal Reply}
  {effects : List Effect} {slot : Slot}

/-- **However a request goes, every slot goes on as documented.** -/
theorem Course.proceeds (course : core.Course request result after effects)
    (consistent : core.processes.Consistent) (slot : Slot) :
    core.processes.Proceeds request after.processes slot := by
  have runs := consistent.running
  have live : (core.processes.process core.processes.current).state ≠ .free := by
    rw [runs]
    decide
  cases course with
  | refused _ cause => exact .of_same rfl
  | unmoved _ reply => exact .of_same rfl
  | started => exact .of_same rfl
  | short served => exact .of_same rfl
  | @spawned name entry now priority found_slot handle heap _ context found served =>
    by_cases here : slot = found_slot
    · subst here
      have free := (free_of_freeSlot? found).2
      refine ⟨?_, fun live => absurd free live, fun live => absurd free live⟩
      rw [free]
      simp only [process_put_same]
      exact .created rfl found
    · exact .of_same (process_put_other here)
  | @exited code _ _ user returned =>
    have hands : (Request.exit code).handed? core.processes =
        some (Core.exited core.processes code) := if_neg user
    have selectable : (Core.exited core.processes code).Selectable :=
      consistent.ending user rfl rfl
    refine .of_stopped selectable ⟨consistent.enabled user, _, hands, rfl⟩ RunState.noConfusion
      (fun now => ?_) slot
    refine ⟨?_, fun _ _ => ?_, fun _ _ lasts => ?_⟩
    · rw [runs, now]
      exact .exited rfl rfl
    · rw [now]
      exact ⟨rfl, rfl, rfl, rfl, rfl, rfl, rfl⟩
    · exact absurd ⟨runs, by rw [now]⟩ lasts
  | @killed pid taken _ _ positive found returned =>
    have user := consistent.user positive found
    have kills : ∀ {after : ProcessTable} {state : RunState}, state ≠ .free →
        core.processes.Move (.kill pid) after taken state .free := .killed rfl found user
    by_cases current : taken = core.processes.current
    · subst current
      have hands : (Request.kill pid).handed? core.processes =
          some (core.processes.put core.processes.current ProcessEntry.vacant) :=
        if_pos ⟨positive, found⟩
      rw [cleared, if_pos rfl]
      exact .of_stopped (consistent.clearing user) ⟨consistent.enabled user, _, hands, rfl⟩
        RunState.noConfusion (fun now => .of_cleared now (kills live)) slot
    · rw [cleared, if_neg current]
      by_cases here : slot = taken
      · subst here
        exact .of_cleared (process_put_same _ _ _) (kills (live_of_slotWith? found).1)
      · exact .of_same (process_put_other here)
  | @blocked pid taken user running found =>
    have current := (consistent.runs taken).mp running
    subst current
    have open_to := not_or.mpr ⟨user, Decidable.not_not.mpr runs⟩
    have hands : (Request.block pid).handed? core.processes =
        some (core.processes.setState core.processes.current .blocked) := by
      rw [Request.handed?, found, Option.bind_some, if_neg open_to]
    exact .of_stopped (consistent.blocking user runs) ⟨consistent.enabled user, _, hands, rfl⟩
      RunState.noConfusion (fun now => .of_state runs now (.blocked rfl found)) slot
  | @unblocked pid woken waits found =>
    by_cases here : slot = woken
    · subst here
      exact .of_state waits (process_put_same _ _ _) (.unblocked rfl found)
    · exact .of_same (process_put_other here)
  | yielded =>
    cases on : core.processes.enabled with
    | false => exact .of_same (by rw [select_off on])
    | true => exact .of_pass consistent.selectable ⟨on, _, rfl, rfl⟩ on rfl rfl
  | ticked =>
    by_cases here : slot = core.processes.current
    · subst here
      refine ⟨?_, fun _ _ => ?_, fun _ _ _ => ?_⟩
      all_goals simp only [process_put_same]
      · exact .none _
      · exact ⟨rfl, rfl, rfl, rfl, rfl, rfl, rfl⟩
      · exact ⟨rfl, rfl⟩
    · exact .of_same (process_put_other here)

end Core

/-! ### Selection off -/

/-- No switch to another process was reported, and no process as cleared away. -/
def Unselected (effects : List Effect) : Prop := ∀ effect ∈ effects,
  (∀ source target, effect ≠ .report (.processSwitched source target)) ∧
    ∀ pid, effect ≠ .report (.processReaped pid)

instance : Sequential Unselected where
  nil := nofun
  append := fun here later effect member =>
    (List.mem_append.mp member).elim (here effect) (later effect)

theorem unselected_report {notice : Notice}
    (other : ∀ source target, notice ≠ .processSwitched source target)
    (another : ∀ pid, notice ≠ .processReaped pid) : Unselected [.report notice] := by
  intro effect member
  cases List.mem_singleton.mp member
  exact ⟨fun source target same => other source target (Effect.report.inj same),
    fun pid same => another pid (Effect.report.inj same)⟩

namespace Core

open ProcessTable

variable {core after : Core} {request : Request} {result : Answer ProcessRefusal Reply}
  {effects : List Effect}

theorem unselected_allocate {size : Nat} {heap later : Heap} {result : Answer HeapRefusal Handle}
    (served : Heap.allocate size heap = ⟨result, later, effects⟩) : Unselected effects := by
  have leaves : Action.Leaves Unselected (Heap.allocate size) :=
    Heap.allocate_leaves (fun _ _ =>
      unselected_report (fun _ _ => Notice.noConfusion) fun _ => Notice.noConfusion) size
  have quiet := leaves heap
  rw [served] at quiet
  exact quiet

/-- **While selection is off a request runs no pass**: the current slot stays, and nothing that only
a pass reports is reported. -/
theorem Course.unselected (course : core.Course request result after effects)
    (consistent : core.processes.Consistent) (off : core.processes.enabled = false) :
    after.processes.current = core.processes.current ∧ Unselected effects := by
  have own := consistent.idle off
  cases course with
  | refused _ cause => exact ⟨rfl, Sequential.nil⟩
  | unmoved _ reply => exact ⟨rfl, Sequential.nil⟩
  | started => exact ⟨rfl, Sequential.nil⟩
  | short served => exact ⟨rfl, unselected_allocate served⟩
  | spawned context found served =>
    refine ⟨rfl, Sequential.append (unselected_allocate served) ?_⟩
    exact unselected_report (fun _ _ => Notice.noConfusion) fun _ => Notice.noConfusion
  | exited user returned => exact absurd own user
  | @killed pid slot _ _ positive found returned =>
    have waiting : slot ≠ core.processes.current := by
      rw [own]
      exact consistent.user positive found
    have stack_back := returned.leaves fun _ _ =>
      unselected_report (fun _ _ => Notice.noConfusion) fun _ => Notice.noConfusion
    rw [cleared, if_neg waiting, if_neg waiting]
    refine ⟨rfl, Sequential.append stack_back ?_⟩
    exact unselected_report (fun _ _ => Notice.noConfusion) fun _ => Notice.noConfusion
  | @blocked pid slot user runs found =>
    exact absurd (((consistent.runs slot).mp runs).trans own) user
  | unblocked waits => exact ⟨rfl, Sequential.nil⟩
  | yielded =>
    rw [select_off off, selectNotices_off off]
    exact ⟨rfl, Sequential.nil⟩
  | ticked => exact ⟨rfl, Sequential.nil⟩

end Core

/-! ### Whole lives -/

namespace ProcessTable

variable {start table : ProcessTable} {slot : Slot}

/-- **The continuations in which the process of a slot lives on.** -/
inductive Lives (slot : Slot) (start : ProcessTable) : ProcessTable → Prop
  | here : Lives slot start start
  | step {table : ProcessTable} (lives : Lives slot start table) (heap : Heap)
    (request : Core.Request) (returns : (request.perform ⟨heap, table⟩).result.Returns)
    (live : ((request.perform ⟨heap, table⟩).state.processes.process slot).state ≠ .free) :
    Lives slot start (request.perform ⟨heap, table⟩).state.processes

/-- **A process keeps what was settled at its creation as long as it lives**, and until it ends also
its exit status and its stack. -/
theorem Lives.same (lives : Lives slot start table) (reached : start.Reached)
    (live : (start.process slot).state ≠ .free) :
    SameProcess (start.process slot) (table.process slot) ∧
      ((start.process slot).state = .zombie → (table.process slot).state = .zombie) ∧
      (((table.process slot).state = .zombie → (start.process slot).state = .zombie) →
        (table.process slot).exitStatus = (start.process slot).exitStatus ∧
          (table.process slot).stack = (start.process slot).stack) := by
  suffices table.Reached ∧ (table.process slot).state ≠ .free ∧ _ from this.2.2
  induction lives with
  | here => exact ⟨reached, live, .refl _, id, fun _ => ⟨rfl, rfl⟩⟩
  | step _ heap request returns still ih =>
    obtain ⟨met, was_live, same, stays, kept⟩ := ih
    have proceeds := (Core.perform_course request returns).proceeds met.consistent slot
    refine ⟨met.step heap request returns, still, same.trans (proceeds.same was_live still),
      fun ended => proceeds.move.zombie_of_zombie (stays ended) still, fun lasts => ?_⟩
    -- a process that had ended before goes on so, so it had ended at the start
    have earlier := kept fun ended =>
      lasts (proceeds.move.zombie_of_zombie ended still)
    have now := proceeds.kept was_live still fun ends => by
      have ended := stays (lasts ends.2)
      rw [ends.1] at ended
      cases ended
    exact ⟨now.1.trans earlier.1, now.2.trans earlier.2⟩

/-- **The life cycle of a process.** Whatever is asked in whatever table is reached, each slot makes
one of the moves or none, and comes to run from being ready only. While selection is off, no request
runs a pass. As long as the process in a slot lives, what was settled at its creation stays the
same; its exit status and its stack stay the same until it ends. -/
theorem life_cycle (reached : table.Reached) (slot : Slot) :
    (∀ (heap : Heap) (request : Core.Request), (request.perform ⟨heap, table⟩).result.Returns →
      let after := (request.perform ⟨heap, table⟩).state.processes
      let effects := (request.perform ⟨heap, table⟩).effects
      table.Move request after slot (table.process slot).state (after.process slot).state ∧
      ((after.process slot).state = .running → (table.process slot).state ≠ .running →
        (table.process slot).state = .ready) ∧
      (table.enabled = false →
        ¬ table.Selects request after ∧ after.current = table.current ∧ Unselected effects)) ∧
    ((table.process slot).state ≠ .free → ∀ {later : ProcessTable}, Lives slot table later →
      SameProcess (table.process slot) (later.process slot) ∧
      (((later.process slot).state = .zombie → (table.process slot).state = .zombie) →
        (later.process slot).exitStatus = (table.process slot).exitStatus ∧
          (later.process slot).stack = (table.process slot).stack)) := by
  have consistent := reached.consistent
  refine ⟨fun heap request returns => ?_, fun live later lives => ?_⟩
  · have course := Core.perform_course request returns
    have move := (course.proceeds consistent slot).move
    refine ⟨move, move.ready_of_running, fun off => ⟨fun selects => ?_, ?_⟩⟩
    · rw [selects.1] at off
      cases off
    · exact course.unselected consistent off
  · obtain ⟨same, _, kept⟩ := lives.same reached live
    exact ⟨same, kept⟩

/-- A created process is chosen by the next pass, and is the same one as before. -/
theorem life_cycle_smallCore :
    smallCore.processes.Move .yield smallCore.processes.select 1 .ready .running ∧
    SameProcess (smallCore.processes.process 1) (smallCore.processes.select.process 1) := by
  have yields : (Core.Request.yield.perform ⟨Heap.smallHeap, smallCore.processes⟩).state.processes =
      smallCore.processes.select := by
    rw [Core.Request.perform, Action.map_apply, Core.yield_apply]
  have ready : (smallCore.processes.process 1).state = .ready := by
    decide +kernel
  have runs : (smallCore.processes.select.process 1).state = .running := by
    decide +kernel
  have returns := Answer.returns_ok (ε := ProcessRefusal) Core.Reply.done
  obtain ⟨moves, stays⟩ := life_cycle reached_smallCore 1
  obtain ⟨move, _⟩ := moves Heap.smallHeap .yield returns
  have lives : Lives 1 smallCore.processes smallCore.processes.select := by
    have starts : Lives 1 smallCore.processes smallCore.processes := .here
    have next := starts.step Heap.smallHeap .yield returns (by simp [yields, runs])
    rwa [yields] at next
  rw [yields, ready, runs] at move
  exact ⟨move, (stays (by simp [ready]) lives).1⟩

end ProcessTable

end MiniKernel
