/-
**No ready process is passed over.**

A selection pass looks at the slots in cyclic order after the current one and stops at the first
ready one. So a ready process is either the one it stops at, or it still lies ahead, and fewer steps
ahead than before.

* `ProcessTable.distance` — how many steps a slot lies ahead of the current one.
* `ProcessTable.Selectable.turn` — **one pass** chooses a ready slot or comes closer to it.
* `Core.Request.handed?`, `Core.processes_of_handed`, `Core.stay_of_unhanded` — which requests make a
  pass, and on which table; the others leave a waiting process and the current slot as they are.
* `ProcessTable.Waits`, `ProcessTable.no_pass_over` — **the whole run**: a ready process runs at the
  latest with the pass whose number is its distance at the start.
-/

import MiniKernel.Proofs.Process.Runs

namespace MiniKernel

-- A selection pass is known by its lemmas only.
seal ProcessTable.select ProcessTable.selectNotices

namespace ProcessTable

variable {table handed after : ProcessTable} {slot other : Slot}

/-! ### Steps in cyclic order -/

/-- How many steps in cyclic order a slot lies ahead of the current one. -/
def distance (table : ProcessTable) (slot : Slot) : Nat :=
  (slot.val + slotCount - table.current.val) % slotCount

theorem distance_lt (table : ProcessTable) (slot : Slot) : table.distance slot < slotCount :=
  Nat.mod_lt _ (by decide)

@[simp] theorem distance_reap (table : ProcessTable) (slot : Slot) :
    table.reap.distance slot = table.distance slot := by
  rw [distance, distance, current_reap]

theorem distance_pos (apart : slot ≠ table.current) : 0 < table.distance slot := by
  have differs : slot.val ≠ table.current.val := fun same => apart (Fin.ext same)
  have slot_lt := slot.isLt
  have current_lt := table.current.isLt
  unfold distance slotCount at *
  omega

/-- The distance leads from the current slot to the slot. -/
theorem stepFrom_distance (table : ProcessTable) (slot : Slot) :
    stepFrom table.current (table.distance slot) = slot := by
  have slot_lt := slot.isLt
  have current_lt := table.current.isLt
  refine Fin.ext ?_
  unfold stepFrom distance slotCount at *
  show (_ + _) % 17 = _
  omega

/-- Steps that stop short of a slot leave the rest of its distance. -/
theorem distance_of_stepFrom {steps : Nat} (short : steps ≤ table.distance slot)
    (moved : after.current = stepFrom table.current steps) :
    after.distance slot = table.distance slot - steps := by
  have slot_lt := slot.isLt
  have current_lt := table.current.isLt
  have value : after.current.val = (table.current.val + steps) % 17 := by
    rw [moved]
    rfl
  unfold distance slotCount at *
  rw [value]
  omega

/-! ### One pass -/

theorem enabled_select (table : ProcessTable) : table.select.enabled = table.enabled := by
  unfold select
  split
  · split
    · rw [Selectable.enabled_switchTo, enabled_reap]
    · exact table.enabled_reap
  · rfl

/-- The scan stops at a ready slot or before it. -/
theorem successor_within (apart : slot ≠ table.current)
    (ready : (table.process slot).state = .ready) :
    ∃ steps, 0 < steps ∧ steps ≤ table.distance slot ∧
      table.successor? = some (stepFrom table.current steps) := by
  have ahead := distance_pos apart
  have near := table.distance_lt slot
  have place : table.distance slot - 1 + 1 = table.distance slot := Nat.sub_add_cancel ahead
  have here : (table.process (stepFrom table.current (table.distance slot - 1 + 1))).state =
      .ready := by
    rw [place, stepFrom_distance]
    exact ready
  unfold successor?
  rw [List.find?_map]
  cases found : (List.range processLimit).find?
      ((fun slot => (table.process slot).state == .ready) ∘
        fun steps => stepFrom table.current (steps + 1)) with
  | none =>
    have missed := List.find?_eq_none.mp found (table.distance slot - 1) (by
      rw [List.mem_range]
      unfold processLimit slotCount at *
      omega)
    exact absurd (beq_iff_eq.mpr here) missed
  | some steps =>
    obtain ⟨_, _, earlier⟩ := List.find?_range_eq_some.mp found
    refine ⟨steps + 1, Nat.succ_pos steps, ?_, rfl⟩
    by_contra beyond
    have skipped := earlier (table.distance slot - 1) (by omega)
    rw [Function.comp_apply, here] at skipped
    cases skipped

namespace Selectable

/-- **A pass chooses a ready slot, or leaves its process as it is and comes closer to it.** -/
theorem turn (selectable : table.Selectable) (enabled : table.enabled = true)
    (ready : (table.process slot).state = .ready) :
    table.select.current = slot ∨
      table.select.process slot = table.process slot ∧
        table.select.distance slot < table.distance slot := by
  have apart := selectable.apart_of_ready ready
  have kept : table.reap.process slot = table.process slot := by
    rw [process_reap, if_neg]
    rintro ⟨_, ended⟩
    rw [ready] at ended
    cases ended
  have reaped_ready : (table.reap.process slot).state = .ready := by
    rw [kept]
    exact ready
  have reaped_apart : slot ≠ table.reap.current := by
    rw [current_reap]
    exact apart
  obtain ⟨steps, forward, short, found⟩ := successor_within reaped_apart reaped_ready
  have chosen : table.reap.choice? = some (stepFrom table.reap.current steps) := by
    rw [choice?, found]
  have selected : table.select = table.reap.switchTo (stepFrom table.reap.current steps) := by
    unfold ProcessTable.select
    rw [if_pos enabled, chosen]
  have moved : table.select.current = stepFrom table.reap.current steps := by
    rw [selected]
    rfl
  by_cases reach : stepFrom table.reap.current steps = slot
  · exact Or.inl (moved.trans reach)
  · refine Or.inr ⟨?_, ?_⟩
    · have off : stepFrom table.reap.current steps ≠ table.reap.current :=
        selectable.reap.1.apart_of_ready (selectable.reap.1.ready_of_choice chosen)
      have unpaused : ¬(slot = table.reap.current ∧
          (table.reap.process table.reap.current).state = .running) := by
        rintro ⟨here, _⟩
        exact apart (here.trans table.current_reap)
      rw [selected, process_switchTo off, if_neg (Ne.symm reach), if_neg unpaused]
      exact kept
    · have ahead := distance_pos apart
      have rest := distance_of_stepFrom short moved
      rw [distance_reap] at rest
      omega

end Selectable

end ProcessTable

/-! ### Which requests make a pass -/

namespace Core

variable {table handed : ProcessTable} {heap : Heap} {slot : Slot}

/-- The table a request hands to a selection pass; none when the request makes no pass. -/
def Request.handed? (table : ProcessTable) : Request → Option ProcessTable
  | .exit code =>
    if table.current = ProcessTable.ownSlot then none else some (exited table code)
  | .kill pid =>
    if pid ≠ 0 ∧ table.slotWith? pid = some table.current then
      some (table.put table.current ProcessEntry.vacant)
    else none
  | .block pid =>
    (table.slotWith? pid).bind fun slot =>
      if slot = ProcessTable.ownSlot ∨ (table.process slot).state ≠ .running then none
      else some (table.setState slot .blocked)
  | .yield => some table
  | .start | .spawn .. | .unblock _ | .tick => none

/-- How many selection passes a request makes. -/
def Request.passes (table : ProcessTable) (request : Request) : Nat :=
  (request.handed? table).elim 0 fun _ => 1

/-- Whether a request does not kill the process of a number; the kernel's own cannot be killed. -/
def Request.spares (pid : Nat) (request : Request) : Prop := request = .kill pid → pid = 0

/-- What is handed to a pass is the table with the current process changed at most. -/
theorem selectable_of_handed (consistent : table.Consistent) {request : Request}
    (hands : request.handed? table = some handed) :
    handed.Selectable ∧ handed.current = table.current ∧ handed.enabled = table.enabled ∧
      ∀ other, other ≠ table.current → handed.process other = table.process other := by
  cases request with
  | exit code =>
    rw [Request.handed?] at hands
    split at hands
    · cases hands
    · rename_i user
      cases hands
      exact ⟨consistent.ending user rfl rfl, rfl, rfl,
        fun _ apart => ProcessTable.process_put_other apart⟩
  | kill pid =>
    rw [Request.handed?] at hands
    split at hands
    · rename_i found
      cases hands
      exact ⟨consistent.clearing (consistent.user found.1 found.2), rfl, rfl,
        fun _ apart => ProcessTable.process_put_other apart⟩
    · cases hands
  | block pid =>
    rw [Request.handed?] at hands
    obtain ⟨slot, found, hands⟩ := Option.bind_eq_some_iff.mp hands
    split at hands
    · cases hands
    · rename_i open_to
      obtain ⟨user, runs⟩ := not_or.mp open_to
      have running := Decidable.not_not.mp runs
      have current := (consistent.runs slot).mp running
      cases hands
      refine ⟨consistent.blocking user running, rfl, rfl, fun _ apart => ?_⟩
      exact ProcessTable.process_put_other (current ▸ apart)
  | yield =>
    cases hands
    exact ⟨consistent.selectable, rfl, rfl, fun _ _ => rfl⟩
  | start | spawn _ _ _ _ | unblock _ | tick => cases hands

/-- **A request that makes a pass ends with it.** -/
theorem processes_of_handed {request : Request}
    (returns : (request.perform ⟨heap, table⟩).result.Returns)
    (hands : request.handed? table = some handed) :
    (request.perform ⟨heap, table⟩).state.processes = handed.select := by
  cases request with
  | exit code =>
    rw [Request.perform, Action.map_apply] at returns ⊢
    rw [Request.handed?] at hands
    split at hands
    · cases hands
    · rename_i user
      cases hands
      rcases exit_cases code (Answer.returns_of_map returns) with ⟨own, _⟩ | ⟨_, _, _, _, run⟩
      · exact absurd own user
      · rw [run]
  | kill pid =>
    rw [Request.perform, Action.map_apply] at returns ⊢
    rw [Request.handed?] at hands
    split at hands
    · rename_i named
      cases hands
      rcases kill_cases pid (Answer.returns_of_map returns) with
        ⟨zero | missing, _⟩ | ⟨_, slot, _, _, found, _, run⟩
      · exact absurd zero named.1
      · rw [named.2] at missing
        cases missing
      · have current : slot = table.current := Option.some.inj (found.symm.trans named.2)
        rw [run, current]
        exact if_pos rfl
    · cases hands
  | block pid =>
    rw [Request.perform, Action.map_apply]
    rw [Request.handed?] at hands
    obtain ⟨slot, found, hands⟩ := Option.bind_eq_some_iff.mp hands
    split at hands
    · cases hands
    · rename_i open_to
      cases hands
      show (onProcesses (ProcessTable.block pid) ⟨heap, table⟩).state.processes = _
      rw [onProcesses_apply]
      unfold ProcessTable.block
      rw [Action.bind_quiet (requireSlot_of_found found), Action.bind_quiet (Action.get_apply _),
        if_neg open_to, Action.bind_quiet (Action.modify_apply _ _),
        Action.bind_apply_ok (reschedule_apply _)]
      rfl
  | yield =>
    rw [Request.perform, Action.map_apply, yield_apply]
    cases hands
    rfl
  | start | spawn _ _ _ _ | unblock _ | tick => cases hands

/-- A request that makes no pass leaves a ready process it does not kill. -/
theorem Course.stays {core after : Core} {request : Request} {result : Answer ProcessRefusal Reply}
    {effects : List Effect} (course : core.Course request result after effects)
    (consistent : core.processes.Consistent)
    (ready : (core.processes.process slot).state = .ready)
    (spares : request.spares (core.processes.process slot).pid)
    (unhanded : request.handed? core.processes = none) :
    after.processes.current = core.processes.current ∧
      after.processes.process slot = core.processes.process slot := by
  have waiting : slot ≠ core.processes.current := consistent.selectable.apart_of_ready ready
  cases course with
  | refused _ cause => exact ⟨rfl, rfl⟩
  | unmoved _ reply => exact ⟨rfl, rfl⟩
  | started => exact ⟨rfl, rfl⟩
  | short served => exact ⟨rfl, rfl⟩
  | spawned context found served =>
    refine ⟨rfl, ProcessTable.process_put_other ?_⟩
    rintro rfl
    rw [(ProcessTable.free_of_freeSlot? found).2] at ready
    cases ready
  | exited user returned =>
    rw [Request.handed?, if_neg user] at unhanded
    cases unhanded
  | @killed pid taken _ _ positive found returned =>
    have passed : taken ≠ core.processes.current := by
      rintro rfl
      rw [Request.handed?, if_pos ⟨positive, found⟩] at unhanded
      cases unhanded
    have apart : slot ≠ taken := by
      rintro rfl
      have named := (ProcessTable.live_of_slotWith? found).2
      rw [← named] at positive spares
      exact positive (spares rfl)
    rw [cleared, if_neg passed]
    exact ⟨rfl, ProcessTable.process_put_other apart⟩
  | blocked user runs found =>
    have open_to := not_or.mpr ⟨user, Decidable.not_not.mpr runs⟩
    rw [Request.handed?, found, Option.bind_some, if_neg open_to] at unhanded
    cases unhanded
  | unblocked waits =>
    refine ⟨rfl, ProcessTable.process_put_other ?_⟩
    rintro rfl
    rw [waits] at ready
    cases ready
  | yielded => cases unhanded
  | ticked => exact ⟨rfl, ProcessTable.process_put_other waiting⟩

/-- **A request that makes no pass leaves the current slot and a ready process it does not kill.** -/
theorem stay_of_unhanded (consistent : table.Consistent)
    (ready : (table.process slot).state = .ready) {request : Request}
    (returns : (request.perform ⟨heap, table⟩).result.Returns)
    (spares : request.spares (table.process slot).pid) (unhanded : request.handed? table = none) :
    (request.perform ⟨heap, table⟩).state.processes.current = table.current ∧
      (request.perform ⟨heap, table⟩).state.processes.process slot = table.process slot :=
  (perform_course request returns).stays consistent ready spares unhanded

/-- Selection stays on. -/
theorem Course.enabled {core after : Core} {request : Request}
    {result : Answer ProcessRefusal Reply} {effects : List Effect}
    (course : core.Course request result after effects)
    (enabled : core.processes.enabled = true) : after.processes.enabled = true := by
  cases course with
  | refused _ cause => exact enabled
  | unmoved _ reply => exact enabled
  | started => rfl
  | short served => exact enabled
  | spawned context found served => exact enabled
  | exited user returned => exact (ProcessTable.enabled_select _).trans enabled
  | @killed _ slot _ _ positive found returned =>
    unfold cleared
    split
    · exact (ProcessTable.enabled_select _).trans enabled
    · exact enabled
  | blocked user runs => exact (ProcessTable.enabled_select _).trans enabled
  | unblocked waits => exact enabled
  | yielded => exact (ProcessTable.enabled_select _).trans enabled
  | ticked => exact enabled

end Core

/-! ### The whole run -/

namespace ProcessTable

variable {start table : ProcessTable} {slot : Slot} {passes : Nat}

/-- **The continuations in which the process of a slot goes on waiting**: nobody kills it and no
pass has chosen it. Counted are the selection passes. -/
inductive Waits (slot : Slot) (start : ProcessTable) : Nat → ProcessTable → Prop
  | here : Waits slot start 0 start
  | step {passes : Nat} {table : ProcessTable} (waits : Waits slot start passes table)
    (heap : Heap) (request : Core.Request)
    (returns : (request.perform ⟨heap, table⟩).result.Returns)
    (spares : request.spares (table.process slot).pid)
    (unchosen : (request.perform ⟨heap, table⟩).state.processes.current ≠ slot) :
    Waits slot start (passes + request.passes table)
      (request.perform ⟨heap, table⟩).state.processes

/-- **One request**: it makes a pass and chooses the ready process or comes closer to it, or it makes
no pass and leaves the process where it is. -/
theorem Consistent.request_turn (consistent : table.Consistent) (enabled : table.enabled = true)
    (ready : (table.process slot).state = .ready) {heap : Heap} {request : Core.Request}
    (returns : (request.perform ⟨heap, table⟩).result.Returns)
    (spares : request.spares (table.process slot).pid) :
    (request.perform ⟨heap, table⟩).state.processes.current = slot ∨
      (request.perform ⟨heap, table⟩).state.processes.process slot = table.process slot ∧
        request.passes table +
          (request.perform ⟨heap, table⟩).state.processes.distance slot ≤ table.distance slot := by
  have waiting := consistent.selectable.apart_of_ready ready
  cases hands : request.handed? table with
  | some handed =>
    obtain ⟨selectable, current, on, others⟩ := Core.selectable_of_handed consistent hands
    have same := others slot waiting
    have near : handed.distance slot = table.distance slot := by
      rw [distance, distance, current]
    have turn := selectable.turn (on.trans enabled) (same.symm ▸ ready)
    rw [Core.processes_of_handed returns hands, ← same, ← near]
    refine turn.imp_right fun closer => ⟨closer.1, ?_⟩
    rw [Core.Request.passes, hands, Option.elim_some]
    omega
  | none =>
    obtain ⟨current, same⟩ := Core.stay_of_unhanded consistent ready returns spares hands
    refine Or.inr ⟨same, ?_⟩
    rw [Core.Request.passes, hands, distance, distance, current]
    exact Nat.le_of_eq (Nat.zero_add _)

/-- What holds as long as the process waits. -/
theorem Waits.holds (waits : Waits slot start passes table) (reached : start.Reached)
    (enabled : start.enabled = true) (ready : (start.process slot).state = .ready) :
    table.Reached ∧ table.enabled = true ∧ table.process slot = start.process slot ∧
      passes + table.distance slot ≤ start.distance slot := by
  induction waits with
  | here => exact ⟨reached, enabled, rfl, Nat.le_of_eq (Nat.zero_add _)⟩
  | @step passes table _ heap request returns spares unchosen ih =>
    obtain ⟨met, on, same, near⟩ := ih
    have still : (table.process slot).state = .ready := by
      rw [same]
      exact ready
    refine ⟨met.step heap request returns, (Core.perform_course request returns).enabled on, ?_⟩
    rcases met.consistent.request_turn on still returns spares with chosen | ⟨kept, closer⟩
    · exact absurd chosen unchosen
    · exact ⟨kept.trans same, by omega⟩

/-- **No ready process is passed over.** However the run goes on, as long as nobody kills the process
each selection pass chooses it, and then it runs, or comes closer to it. So it is chosen at the latest
by the pass whose number is its distance at the start, which is at most 16. -/
theorem no_pass_over (reached : start.Reached) (enabled : start.enabled = true)
    (ready : (start.process slot).state = .ready) :
    1 ≤ start.distance slot ∧ start.distance slot ≤ processLimit ∧
    ∀ {passes : Nat} {table : ProcessTable}, Waits slot start passes table →
      passes < start.distance slot ∧ table.process slot = start.process slot ∧
      ∀ (heap : Heap) (request : Core.Request),
        (request.perform ⟨heap, table⟩).result.Returns →
        request.spares (start.process slot).pid →
        let after := (request.perform ⟨heap, table⟩).state.processes
        match request.handed? table with
        | none => after.current = table.current ∧ after.process slot = start.process slot
        | some handed => after = handed.select ∧
          (after.current = slot ∧ (after.process slot).state = .running ∨
            after.process slot = start.process slot ∧
              passes + 1 < start.distance slot ∧
              after.distance slot < table.distance slot) := by
  have ahead := distance_pos (reached.consistent.selectable.apart_of_ready ready)
  refine ⟨ahead, Nat.le_of_lt_succ (start.distance_lt slot), fun {passes table} waits => ?_⟩
  obtain ⟨met, on, same, near⟩ := waits.holds reached enabled ready
  have still : (table.process slot).state = .ready := by
    rw [same]
    exact ready
  have left := distance_pos (met.consistent.selectable.apart_of_ready still)
  refine ⟨by omega, same, fun heap request returns spares => ?_⟩
  rw [← same] at spares ⊢
  cases hands : request.handed? table with
  | none => exact Core.stay_of_unhanded met.consistent still returns spares hands
  | some handed =>
    refine ⟨Core.processes_of_handed returns hands, ?_⟩
    rcases met.consistent.request_turn on still returns spares with chosen | ⟨kept, closer⟩
    · refine Or.inl ⟨chosen, ?_⟩
      exact ((met.step heap request returns).consistent.runs slot).mpr chosen.symm
    · have after_still : ((request.perform ⟨heap, table⟩).state.processes.process slot).state =
          .ready := by
        rw [kept]
        exact still
      have after_left := distance_pos
        ((met.step heap request returns).consistent.selectable.apart_of_ready after_still)
      rw [Core.Request.passes, hands, Option.elim_some] at closer
      exact Or.inr ⟨kept, by omega, by omega⟩

/-- A core in which two processes were created. -/
def pairCore : Core :=
  ((Core.Request.spawn "second" 128 .low 0).perform ⟨Heap.smallHeap, smallCore.processes⟩).state

/-- The second of two processes waits through one pass and runs with the next. -/
theorem no_pass_over_pairCore :
    Waits 2 pairCore.processes 1 pairCore.processes.select ∧
    pairCore.processes.distance 2 = 2 ∧
    pairCore.processes.select.select.current = 2 := by
  have answers : ((Core.Request.spawn "second" 128 .low 0).perform
      ⟨Heap.smallHeap, smallCore.processes⟩).result = .ok (.number 2) := by
    decide +kernel
  have reached : pairCore.processes.Reached :=
    .step reached_smallCore Heap.smallHeap _ (answers.symm ▸ Answer.returns_ok _)
  have ready : (pairCore.processes.process 2).state = .ready := by
    decide +kernel
  have away : pairCore.processes.distance 2 = 2 := by
    decide +kernel
  have enabled : pairCore.processes.enabled = true := by
    decide +kernel
  have yields : ∀ table : ProcessTable,
      ((Core.Request.yield.perform ⟨Heap.smallHeap, table⟩).state.processes) = table.select := by
    intro table
    rw [Core.Request.perform, Action.map_apply, Core.yield_apply]
  have spares : ∀ pid, Core.Request.yield.spares pid := fun _ kills => by cases kills
  have waits : Waits 2 pairCore.processes 1 pairCore.processes.select := by
    have starts : Waits 2 pairCore.processes 0 pairCore.processes := .here
    have passed := starts.step Heap.smallHeap .yield (Answer.returns_ok Core.Reply.done)
      (spares _) (by
        rw [yields]
        decide +kernel)
    rw [yields] at passed
    exact passed
  refine ⟨waits, away, ?_⟩
  obtain ⟨_, _, turns⟩ := no_pass_over reached enabled ready
  obtain ⟨_, _, next⟩ := turns waits
  rcases (next Heap.smallHeap .yield (Answer.returns_ok Core.Reply.done) (spares _)).2 with
    ⟨chosen, _⟩ | ⟨_, early, _⟩
  · rw [yields] at chosen
    exact chosen
  · rw [away] at early
    exact absurd early (by decide)

end ProcessTable

end MiniKernel
