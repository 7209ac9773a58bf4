/-
**Every tick is charged to who runs.**

A process counts the ticks it ran. What it has to count is told here by the requests alone: the
ticks asked for since it was created, while accounting was on and it was the current process.

* `ProcessTable.Exchange.charged?` — whom a request charges a tick.
* `ProcessTable.ticksCharged` — the ticks charged to a process since it was created.
* `Core.Course.ticksRun` — **one request** other than a tick leaves the count of every slot alone
  whose process lives on or begins.
* `ProcessTable.ticks_accounted` — **the whole run**: every process counts what it was charged.
-/

import MiniKernel.Proofs.Process.Moves
import MiniKernel.Proofs.Process.Numbers

namespace MiniKernel

-- A selection pass is known by its lemmas only.
seal ProcessTable.select ProcessTable.selectNotices

/-! ### Requests that charge nobody -/

namespace ProcessTable

variable {table : ProcessTable} {slot other : Slot} {process : ProcessEntry} {pid : Nat}

/-- A pass counts nothing. -/
theorem Selectable.ticksRun_select (selectable : table.Selectable)
    (live : (table.select.process slot).state ≠ .free) :
    (table.process slot).state ≠ .free ∧
      (table.select.process slot).ticksRun = (table.process slot).ticksRun := by
  cases on : table.enabled with
  | false =>
    rw [select_off on] at live ⊢
    exact ⟨live, rfl⟩
  | true =>
    have turned := selectable.turned on slot
    generalize table.select.process slot = process at live turned ⊢
    cases turned with
    | kept => exact ⟨live, rfl⟩
    | cleared _ _ => exact absurd rfl live
    | chosen ready _ => exact ⟨by rw [ready]; decide, rfl⟩
    | paused _ runs _ => exact ⟨by rw [runs]; decide, rfl⟩

theorem ticksRun_put (same : process.ticksRun = (table.process slot).ticksRun) (other : Slot) :
    ((table.put slot process).process other).ticksRun = (table.process other).ticksRun := by
  by_cases here : other = slot
  · rw [here, process_put_same, same]
  · rw [process_put_other here]

/-- A slot cleared counts for nobody. -/
theorem ticksRun_clear (live : ((table.put slot ProcessEntry.vacant).process other).state ≠ .free) :
    ((table.put slot ProcessEntry.vacant).process other).ticksRun =
      (table.process other).ticksRun := by
  by_cases here : other = slot
  · rw [here, process_put_same] at live
    exact absurd rfl live
  · rw [process_put_other here]

end ProcessTable

namespace Core

open ProcessTable

variable {core after : Core} {request : Request} {result : Answer ProcessRefusal Reply}
  {effects : List Effect} {slot : Slot}

/-- **A request other than a tick counts nothing.** A process that lives on has the count it had,
and a new one that of the free slot it took, which is 0. -/
theorem Course.ticksRun (course : core.Course request result after effects)
    (consistent : core.processes.Consistent) (other : request ≠ .tick)
    (live : (after.processes.process slot).state ≠ .free) :
    (after.processes.process slot).ticksRun = (core.processes.process slot).ticksRun := by
  cases course with
  | refused _ cause => rfl
  | unmoved _ reply => rfl
  | started => rfl
  | short served => rfl
  | @spawned _ _ _ _ taken _ _ _ context found served =>
    have vacant := consistent.vacant taken (free_of_freeSlot? found).2
    have none_counted : 0 = ((numbered core.processes).process taken).ticksRun := by
      show 0 = (core.processes.process taken).ticksRun
      rw [vacant]
      rfl
    exact ticksRun_put none_counted slot
  | @exited code _ _ user returned =>
    have selectable : (Core.exited core.processes code).Selectable :=
      consistent.ending user rfl rfl
    exact (selectable.ticksRun_select live).2.trans (ticksRun_put (by rfl) slot)
  | @killed _ taken _ _ positive found returned =>
    have user := consistent.user positive found
    dsimp only at live ⊢
    unfold cleared at live ⊢
    by_cases current : taken = core.processes.current
    · subst current
      rw [if_pos rfl] at live ⊢
      obtain ⟨still, same⟩ := (consistent.clearing user).ticksRun_select live
      exact same.trans (ticksRun_clear still)
    · rw [if_neg current] at live ⊢
      exact ticksRun_clear live
  | blocked user runs _ =>
    exact ((consistent.blocking user runs).ticksRun_select live).2.trans
      (ticksRun_put (by rfl) slot)
  | unblocked waits _ => exact ticksRun_put (by rfl) slot
  | yielded => exact (consistent.selectable.ticksRun_select live).2
  | ticked => exact absurd rfl other

end Core

/-! ### What a history charges -/

namespace ProcessTable

variable {table : ProcessTable} {history : List Exchange} {exchange : Exchange} {heap : Heap}
  {request : Core.Request} {slot : Slot} {pid : Nat}

/-- **Whom a request charges a tick**: the current process, if it is a tick and accounting is on. -/
def Exchange.charged? (exchange : Exchange) : Option Nat :=
  match exchange.request with
  | .tick => if exchange.before.enabled then some exchange.before.running.pid else none
  | _ => none

theorem Exchange.charged?_eq_some_iff : exchange.charged? = some pid ↔
    exchange.request = .tick ∧ exchange.before.enabled = true ∧
      exchange.before.running.pid = pid := by
  unfold charged?
  cases exchange.request with
  | tick => simp
  | start | spawn _ _ _ _ | exit _ | kill _ | block _ | unblock _ | yield => simp

/-- What was asked since the process of this number was created, the latest first; all of it for the
kernel's own process. -/
def sinceCreation (pid : Nat) (history : List Exchange) : List Exchange :=
  history.takeWhile fun exchange => exchange.given? != some pid

/-- The ticks charged to the process of this number since it was created. -/
def ticksCharged (pid : Nat) (history : List Exchange) : Nat :=
  (sinceCreation pid history).countP fun exchange => exchange.charged? == some pid

/-- A process just created was charged nothing. -/
theorem ticksCharged_given (given : exchange.given? = some pid) :
    ticksCharged pid (exchange :: history) = 0 := by
  rw [ticksCharged, sinceCreation, List.takeWhile_cons_of_neg (by simp [given]), List.countP_nil]

theorem ticksCharged_le (pid : Nat) (history : List Exchange) :
    ticksCharged pid history ≤ history.length :=
  List.countP_le_length.trans (List.takeWhile_sublist _).length_le

theorem ticksCharged_later (ungiven : exchange.given? ≠ some pid) :
    ticksCharged pid (exchange :: history) =
      ticksCharged pid history + if exchange.charged? = some pid then 1 else 0 := by
  simp [ticksCharged, sinceCreation, ungiven, List.countP_cons]

/-! ### One request -/

/-- The request charges a process one tick and touches no other. -/
structure Exchange.Charges (exchange : Exchange) (pid : Nat) : Prop where
  counts : ∃ process, exchange.before.find? pid = some process ∧
    exchange.after.find? pid = some { process with ticksRun := process.ticksRun + 1 }
  others : ∀ other, other ≠ pid → exchange.after.find? other = exchange.before.find? other

/-- The request leaves the ticks of every process that lives on as they were. -/
def Exchange.Spares (exchange : Exchange) : Prop := ∀ pid process later,
  exchange.before.find? pid = some process → exchange.after.find? pid = some later →
    later.ticksRun = process.ticksRun

theorem Settled.find?_iff (settled : table.Settled) {process : ProcessEntry} :
    table.find? pid = some process ↔
      ∃ slot, table.Seated pid slot ∧ table.process slot = process := by
  simp [find?, settled.slotWith?_iff]

/-- A tick that comes to its end counts for the current process while accounting is on. -/
theorem exchanged_tick (returns : (Core.Request.tick.perform ⟨heap, table⟩).result.Returns) :
    (table.exchanged heap .tick).after =
      if table.enabled then
        table.put table.current { table.running with ticksRun := table.running.ticksRun + 1 }
      else table := by
  rw [Core.Request.perform, Action.map_apply] at returns
  show (Core.Request.tick.perform ⟨heap, table⟩).state.processes = _
  rw [Core.Request.perform, Action.map_apply]
  rcases Core.tick_cases (Answer.returns_of_map returns) with ⟨off, run⟩ | ⟨on, run⟩
  · rw [run, if_neg (by simp [show table.enabled = false from off])]
  · rw [run, if_pos (show table.enabled = true from on)]

/-- Nobody who is seated is given a number. -/
theorem ungiven_of_seated (consistent : table.Consistent)
    (returns : (request.perform ⟨heap, table⟩).result.Returns) (seated : table.Seated pid slot) :
    (table.exchanged heap request).given? ≠ some pid := by
  intro given
  have next := (nextNumber_le returns).2 given
  by_cases own : slot = ownSlot
  · have positive := consistent.positive
    have zero : pid = 0 := by
      rw [← seated.2, own]
      exact consistent.own
    omega
  · have below := (consistent.numbered slot own seated.1).2
    rw [seated.2] at below
    omega

/-- **What one request does to the count of a process that was there before**: it goes up by one if
the process was charged, and stays otherwise. -/
theorem exchanged_ticksRun (consistent : table.Consistent)
    (returns : (request.perform ⟨heap, table⟩).result.Returns) (seated : table.Seated pid slot)
    (still : (table.exchanged heap request).after.Seated pid slot) :
    ((table.exchanged heap request).after.process slot).ticksRun =
      (table.process slot).ticksRun +
        if (table.exchanged heap request).charged? = some pid then 1 else 0 := by
  by_cases ticks : request = .tick
  · subst ticks
    rw [exchanged_tick returns]
    have charged : (table.exchanged heap .tick).charged? =
        if table.enabled then some table.running.pid else none := rfl
    rw [charged]
    cases table.enabled with
    | false => rfl
    | true =>
      rw [if_pos rfl, if_pos rfl]
      by_cases current : slot = table.current
      · subst current
        have named : table.running.pid = pid := seated.2
        rw [process_put_same, if_pos (congrArg some named)]
        rfl
      · have apart : table.running.pid ≠ pid := by
          intro same
          exact current (consistent.distinct slot table.current seated.1
            consistent.seated_current.1 (seated.2.trans same.symm))
        rw [process_put_other current, if_neg fun same => apart (Option.some.inj same)]
        rfl
  · rw [if_neg fun charged => ticks (Exchange.charged?_eq_some_iff.mp charged).1]
    exact (Core.perform_course request returns).ticksRun consistent ticks still.1

/-! ### Runs -/

/-- **Every process counts the ticks it was charged since it was created.** -/
theorem Ran.ticksRun (ran : table.Ran history) (seated : table.Seated pid slot) :
    (table.process slot).ticksRun = ticksCharged pid history := by
  induction ran with
  | fresh stackBytes now =>
    rw [process_create]
    split <;> rfl
  | @step table history ran heap request returns ih =>
    have consistent := ran.reached.consistent
    rcases (exchanged_seats consistent returns pid slot).mp seated with ⟨given, free, live⟩ | stayed
    · rw [ticksCharged_given given]
      have vacant := consistent.vacant slot free
      have other : request ≠ .tick := by
        rintro rfl
        cases given
      have same := (Core.perform_course request returns).ticksRun consistent other live
      rw [show table.process slot = _ from vacant] at same
      exact same
    · rw [ticksCharged_later (ungiven_of_seated consistent returns stayed.2), ← ih stayed.2]
      exact exchanged_ticksRun consistent returns stayed.2 seated

/-- A tick with accounting on charges the current process. -/
theorem exchanged_charges (consistent : table.Consistent) (on : table.enabled = true)
    (returns : (Core.Request.tick.perform ⟨heap, table⟩).result.Returns) :
    (table.exchanged heap .tick).Charges table.running.pid := by
  have after := exchanged_tick returns
  rw [if_pos on] at after
  have here := consistent.seated_current
  have seats : ∀ pid slot, (table.exchanged heap .tick).after.Seated pid slot ↔
      table.Seated pid slot := by
    intro pid slot
    rw [after]
    exact seated_put_live here.1 here.1 rfl
  have settled : (table.exchanged heap .tick).after.Settled := by
    rw [after]
    exact (consistent.charge _).toSettled
  refine ⟨⟨table.running, consistent.find?_iff.mpr ⟨_, here, rfl⟩, ?_⟩, fun other apart => ?_⟩
  · refine settled.find?_iff.mpr ⟨table.current, (seats _ _).mpr here, ?_⟩
    rw [after, process_put_same]
  · refine Option.ext fun process => ?_
    rw [settled.find?_iff]
    refine Iff.trans (exists_congr fun slot => ?_) consistent.find?_iff.symm
    rw [seats]
    refine and_congr_right fun seated => ?_
    have elsewhere : slot ≠ table.current := by
      rintro rfl
      exact apart seated.2.symm
    rw [after, process_put_other elsewhere]

/-- A tick comes to its end: the count it raises is no larger than the run is long. -/
theorem Ran.tick_ends (ran : table.Ran history) (heap : Heap)
    (short : history.length + 1 < longLimit) :
    (Core.Request.tick.perform ⟨heap, table⟩).result = .ok .done := by
  have count : table.running.ticksRun ≤ history.length := by
    rw [show table.running.ticksRun = _ from ran.ticksRun ran.reached.consistent.seated_current]
    exact ticksCharged_le _ _
  rw [Core.Request.perform, Action.map_apply]
  cases on : table.enabled with
  | false =>
    rw [Core.tick_off on]
    rfl
  | true =>
    rw [Core.tick_on on (lt_of_le_of_lt (Nat.succ_le_succ count) short)]
    rfl

/-- Any other request, and a tick with accounting off, charges nobody. -/
theorem exchanged_spares (consistent : table.Consistent)
    (returns : (request.perform ⟨heap, table⟩).result.Returns)
    (idle : ¬ (request = .tick ∧ table.enabled = true)) :
    (table.exchanged heap request).Spares := by
  intro pid process later found found_later
  obtain ⟨slot, seated, rfl⟩ := consistent.find?_iff.mp found
  have after := (Core.perform_course request returns).consistent consistent
  obtain ⟨other, still, rfl⟩ := after.find?_iff.mp found_later
  -- nobody is given a number in use, so the process lives on in its slot
  have same : other = slot := by
    rcases (exchanged_seats consistent returns pid other).mp still with ⟨given, _⟩ | ⟨_, stayed⟩
    · exact absurd given (ungiven_of_seated consistent returns seated)
    · exact consistent.distinct other slot stayed.1 seated.1 (stayed.2.trans seated.2.symm)
  subst same
  have count := exchanged_ticksRun consistent returns seated still
  rw [if_neg fun charged => ?_] at count
  · exact count
  · obtain ⟨ticks, on, _⟩ := Exchange.charged?_eq_some_iff.mp charged
    exact idle ⟨ticks, on⟩

/-- **Processor time is accounted for.** In every run, every live process counts the ticks that were
asked for since it was created while accounting was on and it was the current process. A tick comes
to its end, and while accounting is on it adds one to the count of the current process and touches
no other process. Any other request leaves the count of every process that lives on as it was. -/
theorem ticks_accounted (ran : table.Ran history) :
    (∀ pid process, table.find? pid = some process →
      process.ticksRun = ticksCharged pid history) ∧
    (∀ heap, history.length + 1 < longLimit →
      (Core.Request.tick.perform ⟨heap, table⟩).result = .ok .done) ∧
    ∀ (heap : Heap) (request : Core.Request), (request.perform ⟨heap, table⟩).result.Returns →
      (request = .tick → table.enabled = true →
        (table.exchanged heap request).Charges table.running.pid) ∧
      (¬ (request = .tick ∧ table.enabled = true) → (table.exchanged heap request).Spares) := by
  have consistent := ran.reached.consistent
  refine ⟨fun pid process found => ?_, ran.tick_ends, fun heap request returns =>
    ⟨?_, exchanged_spares consistent returns⟩⟩
  · obtain ⟨slot, seated, rfl⟩ := consistent.find?_iff.mp found
    exact ran.ticksRun seated
  · rintro rfl on
    exact exchanged_charges consistent on returns

/-- A created process that was chosen and charged a tick. -/
def timed : ProcessTable :=
  (Core.Request.tick.perform ⟨Heap.smallHeap, smallCore.processes.select⟩).state.processes

/-- It counts this tick, which is all it was charged since its creation, and the next one too. -/
theorem ticks_accounted_timed : ∃ history, timed.Ran history ∧ ticksCharged 1 history = 1 ∧
    (timed.find? 1).map ProcessEntry.ticksRun = some 1 ∧
    (timed.exchanged Heap.smallHeap .tick).Charges 1 := by
  have created : ((Core.Request.spawn "init" 64 .normal 0).perform
      ⟨Heap.smallHeap, (create 16 0).started⟩).result = .ok (.number 1) := by
    decide +kernel
  have ticked : (Core.Request.tick.perform ⟨Heap.smallHeap, smallCore.processes.select⟩).result =
      .ok .done := by
    decide +kernel
  have count : (timed.find? 1).map ProcessEntry.ticksRun = some 1 := by
    decide +kernel
  have on : timed.enabled = true := by
    decide +kernel
  have runs : timed.running.pid = 1 := by
    decide +kernel
  have started : (create 16 0).started.Ran [(create 16 0).exchanged Heap.smallHeap .start] :=
    .step (.fresh 16 0) Heap.smallHeap .start (Answer.returns_ok Core.Reply.done)
  have small : smallCore.processes.Ran _ :=
    started.step Heap.smallHeap (.spawn "init" 64 .normal 0) (created.symm ▸ Answer.returns_ok _)
  obtain ⟨history, chosen⟩ : ∃ history, smallCore.processes.select.Ran history := by
    have step := small.step Heap.smallHeap .yield (Answer.returns_ok Core.Reply.done)
    rw [Core.Request.perform, Action.map_apply, Core.yield_apply] at step
    exact ⟨_, step⟩
  have ran : timed.Ran _ :=
    chosen.step Heap.smallHeap .tick (ticked.symm ▸ Answer.returns_ok _)
  obtain ⟨counts, _, requests⟩ := ticks_accounted ran
  obtain ⟨process, found, counted⟩ := Option.map_eq_some_iff.mp count
  refine ⟨_, ran, (counts 1 process found).symm.trans counted, count, ?_⟩
  rw [← runs]
  refine (requests Heap.smallHeap .tick ?_).1 rfl on
  have again : (Core.Request.tick.perform ⟨Heap.smallHeap, timed⟩).result = .ok .done := by
    decide +kernel
  exact again.symm ▸ Answer.returns_ok _

end ProcessTable

end MiniKernel
