/-
**A number names one process for ever.**

Slots are used again, numbers are not. What a number means is told here by the requests alone: the
creation that gave it, and the kill or the selection pass that took its process away.

* `ProcessTable.Seated` — the process of a number lives in a slot.
* `ProcessTable.Exchange.Gives`, `ProcessTable.Exchange.Takes` — a request that gives a number to the
  process in a slot, and one that takes the process of a number away.
* `Core.Course.seats` — **one request**: a process is seated afterwards if it was given its number
  just now, or was seated before and has not been taken away.
* `ProcessTable.numbers_name_one` — **the whole run**: the numbers given are 1, 2, 3 and so on; what
  stands for each is the slot its creation filled, and nothing once it was taken.
-/

import MiniKernel.Proofs.History
import MiniKernel.Proofs.Process.Passes
import MiniKernel.Proofs.Process.Runs
import MiniKernel.Proofs.SystemCall.Safety

namespace MiniKernel

-- A selection pass is known by its lemmas only.
seal ProcessTable.select ProcessTable.selectNotices

/-! ### Who lives where -/

namespace ProcessTable

variable {table : ProcessTable} {slot other : Slot} {process : ProcessEntry} {pid number : Nat}

/-- The process of this number lives in the slot. -/
def Seated (table : ProcessTable) (pid : Nat) (slot : Slot) : Prop :=
  (table.process slot).state ≠ .free ∧ (table.process slot).pid = pid

theorem slotWith?_eq_none_iff : table.slotWith? pid = none ↔ ∀ slot, ¬ table.Seated pid slot := by
  simp [slotWith?, slotOrder, List.find?_eq_none, Seated, ProcessEntry.isFree]

/-- The current process is in its slot. -/
theorem Consistent.seated_current (consistent : table.Consistent) :
    table.Seated table.running.pid table.current := by
  refine ⟨?_, rfl⟩
  rw [consistent.running]
  decide

/-- **A number is looked up where its process lives.** -/
theorem Settled.slotWith?_iff (settled : table.Settled) :
    table.slotWith? pid = some slot ↔ table.Seated pid slot := by
  refine ⟨live_of_slotWith?, fun seated => ?_⟩
  cases found : table.slotWith? pid with
  | none => exact absurd seated (slotWith?_eq_none_iff.mp found slot)
  | some first =>
    obtain ⟨live, same⟩ := live_of_slotWith? found
    rw [settled.distinct first slot live seated.1 (same.trans seated.2.symm)]

theorem seated_put : (table.put slot process).Seated pid other ↔
    if other = slot then process.state ≠ .free ∧ process.pid = pid else table.Seated pid other := by
  unfold Seated
  by_cases here : other = slot
  · rw [if_pos here, here, process_put_same]
  · rw [if_neg here, process_put_other here]

/-- A process that changes and lives on keeps its seat. -/
theorem seated_put_live (live : (table.process slot).state ≠ .free) (still : process.state ≠ .free)
    (same : process.pid = (table.process slot).pid) :
    (table.put slot process).Seated pid other ↔ table.Seated pid other := by
  rw [seated_put]
  split
  · rename_i here
    rw [here, same]
    exact ⟨fun seated => ⟨live, seated.2⟩, fun seated => ⟨still, seated.2⟩⟩
  · rfl

/-- A slot cleared takes its process's seat and no other. -/
theorem Settled.seated_clear (settled : table.Settled) (seated : table.Seated number slot) :
    (table.put slot ProcessEntry.vacant).Seated pid other ↔
      pid ≠ number ∧ table.Seated pid other := by
  rw [seated_put]
  split
  · rename_i here
    subst here
    refine ⟨fun cleared => absurd rfl cleared.1, fun both => ?_⟩
    exact absurd (both.2.2.symm.trans seated.2) both.1
  · rename_i apart
    refine ⟨fun stays => ⟨?_, stays⟩, And.right⟩
    rintro rfl
    exact apart (settled.distinct other slot stays.1 seated.1 (stays.2.trans seated.2.symm))

/-- **A pass takes the seats of the processes it reports**, and no other. -/
theorem Selectable.seated_select (selectable : table.Selectable) :
    table.select.Seated pid slot ↔
      .processReaped pid ∉ table.selectNotices ∧ table.Seated pid slot := by
  cases on : table.enabled with
  | false => simp [select_off on, selectNotices_off on]
  | true =>
    rw [mem_selectNotices, on]
    by_cases gone : slot ≠ table.current ∧ (table.process slot).state = .zombie
    · refine ⟨fun seated => ?_, fun both => ?_⟩
      · refine absurd ?_ seated.1
        rw [selectable.process_select on, if_pos gone]
        rfl
      · exact absurd ⟨rfl, slot, gone.1, gone.2, both.2.2⟩ both.1
    · have unreported : table.Seated pid slot → ¬ (true = true ∧ ∃ slot, slot ≠ table.current ∧
          (table.process slot).state = .zombie ∧ (table.process slot).pid = pid) := by
        rintro ⟨live, here⟩ ⟨_, ended, apart, zombie, there⟩
        have same := selectable.distinct ended slot (by simp [zombie]) live (there.trans here.symm)
        exact gone ⟨same ▸ apart, same ▸ zombie⟩
      have kept : table.select.Seated pid slot ↔ table.Seated pid slot := by
        unfold Seated
        rw [selectable.process_select on, if_neg gone]
        rcases selectable.chosen on with ⟨_, ready⟩ | ⟨stays, runs⟩
        · by_cases here : slot = table.select.current
          · rw [if_pos here, here]
            simp [ready]
          · rw [if_neg here]
            split
            · rename_i paused
              simp [paused.2]
            · rfl
        · rw [stays]
          by_cases here : slot = table.current
          · rw [if_pos here, here]
            simp [runs]
          · rw [if_neg here, if_neg fun both => here both.1]
      rw [kept]
      exact ⟨fun seated => ⟨unreported seated, seated⟩, And.right⟩

/-! ### What a request gives and takes -/

/-- A request, the table before and after it, its answer and what it left. -/
structure Exchange where
  before : ProcessTable
  request : Core.Request
  answer : Answer ProcessRefusal Core.Reply
  effects : List Effect
  after : ProcessTable

namespace Exchange

/-- The number a creation answered. -/
def given? (exchange : Exchange) : Option Nat :=
  match exchange.request, exchange.answer with
  | .spawn .., .ok (.number pid) => some pid
  | _, _ => none

/-- The request is a creation that answered this number and filled this slot. -/
def Gives (pid : Nat) (slot : Slot) (exchange : Exchange) : Prop :=
  exchange.given? = some pid ∧ (exchange.before.process slot).state = .free ∧
    (exchange.after.process slot).state ≠ .free

/-- The process of this number was killed, or a pass reported it as cleared away. -/
def Takes (pid : Nat) (exchange : Exchange) : Prop :=
  exchange.request = .kill pid ∧ exchange.answer = .ok .done ∨
    .report (.processReaped pid) ∈ exchange.effects

/-- **The request moved nobody but those it gave a number or took away.** -/
def Seats (exchange : Exchange) : Prop := ∀ pid slot, exchange.after.Seated pid slot ↔
  exchange.Gives pid slot ∨ ¬ exchange.Takes pid ∧ exchange.before.Seated pid slot

variable {exchange : Exchange}

theorem not_gives_of_same (same : exchange.after = exchange.before) :
    ¬ exchange.Gives pid slot := by
  rintro ⟨_, free, live⟩
  rw [same] at live
  exact live free

/-- A request that did nothing. -/
theorem seats_of_same (same : exchange.after = exchange.before)
    (untaken : ∀ pid, ¬ exchange.Takes pid) : exchange.Seats := by
  intro pid slot
  rw [same]
  refine ⟨fun seated => Or.inr ⟨untaken pid, seated⟩, fun either => ?_⟩
  exact (either.resolve_left (not_gives_of_same same)).2

/-- A request that neither gave a number nor killed takes whom it reports as cleared away. -/
theorem seats_of_calm (ungiven : exchange.given? = none)
    (calm : ∀ pid, exchange.request ≠ .kill pid)
    (left : ∀ pid slot, exchange.after.Seated pid slot ↔
      .report (.processReaped pid) ∉ exchange.effects ∧ exchange.before.Seated pid slot) :
    exchange.Seats := by
  intro pid slot
  have taken : exchange.Takes pid ↔ .report (.processReaped pid) ∈ exchange.effects :=
    or_iff_right fun kills => calm pid kills.1
  have given : ¬ exchange.Gives pid slot := by
    rintro ⟨some_given, _⟩
    rw [ungiven] at some_given
    cases some_given
  rw [left, taken]
  exact ⟨Or.inr, fun either => either.resolve_left given⟩

/-- A request that ends with a pass over a table with the same seats. -/
theorem seats_of_pass (handed : ProcessTable) (ungiven : exchange.given? = none)
    (calm : ∀ pid, exchange.request ≠ .kill pid) (selectable : handed.Selectable)
    (passed : exchange.after = handed.select)
    (reports : ∀ pid, .report (.processReaped pid) ∈ exchange.effects ↔
      .processReaped pid ∈ handed.selectNotices)
    (kept : ∀ pid slot, handed.Seated pid slot ↔ exchange.before.Seated pid slot) :
    exchange.Seats := by
  refine seats_of_calm ungiven calm fun pid slot => ?_
  rw [passed, selectable.seated_select, reports, kept]

/-- A kill takes the process it names, and whom it reports as cleared away. -/
theorem seats_of_kill (kills : exchange.request = .kill number)
    (answers : exchange.answer = .ok .done)
    (left : ∀ pid slot, exchange.after.Seated pid slot ↔
      .report (.processReaped pid) ∉ exchange.effects ∧ pid ≠ number ∧
        exchange.before.Seated pid slot) : exchange.Seats := by
  intro pid slot
  have ungiven : ¬ exchange.Gives pid slot := by
    rintro ⟨given, _⟩
    rw [given?, kills] at given
    cases given
  have taken : exchange.Takes pid ↔
      pid = number ∨ .report (.processReaped pid) ∈ exchange.effects := by
    rw [Takes, kills, answers]
    simp [eq_comm]
  rw [left, taken, not_or, and_assoc, and_left_comm]
  exact ⟨Or.inr, fun either => either.resolve_left ungiven⟩

end Exchange

end ProcessTable

/-- No process was reported as cleared away. -/
def Unreaped (effects : List Effect) : Prop := ∀ pid, .report (.processReaped pid) ∉ effects

instance : Sequential Unreaped where
  nil _ := List.not_mem_nil
  append one two pid member := (List.mem_append.mp member).elim (one pid) (two pid)

namespace Core

open ProcessTable (Exchange)

variable {core after : Core} {request : Request} {result : Answer ProcessRefusal Reply}
  {effects : List Effect} {pid : Nat} {slot : Slot}

theorem unreaped_allocate {size : Nat} {heap later : Heap} {result : Answer HeapRefusal Handle}
    (served : Heap.allocate size heap = ⟨result, later, effects⟩) : Unreaped effects := by
  have leaves : Action.Leaves Unreaped (Heap.allocate size) :=
    Heap.allocate_leaves (fun _ _ _ => by simp) size
  have quiet := leaves heap
  rw [served] at quiet
  exact quiet

theorem StackReturned.unreaped {before later : Heap} {stack : Option Stack}
    (returned : StackReturned before pid stack later effects) : Unreaped effects :=
  returned.leaves fun _ _ _ => by simp

/-- A pass after quiet effects reports what the pass reports. -/
theorem mem_reaped_iff {notices : List Notice} (effect : Effect) (quiet : Unreaped effects)
    (other : ∀ pid, effect ≠ .report (.processReaped pid)) :
    .report (.processReaped pid) ∈ effects ++ effect :: notices.map .report ↔
      .processReaped pid ∈ notices := by
  simp [quiet pid, Ne.symm (other pid)]

/-- A creation seats the new process and moves nobody. -/
theorem seats_spawned {table : ProcessTable} {name : String} {entry now number : Nat}
    {priority : Priority} {process : ProcessEntry} (found : table.freeSlot? = some slot)
    (live : process.state ≠ .free) (numbers : process.pid = number) (quiet : Unreaped effects) :
    (Exchange.mk table (.spawn name entry priority now) (.ok (.number number)) effects
      ((numbered table).put slot process)).Seats := by
  intro pid other
  have untaken : ¬ Exchange.Takes pid (.mk table (.spawn name entry priority now)
      (.ok (.number number)) effects ((numbered table).put slot process)) := by
    rintro (⟨kills, _⟩ | reaped)
    · cases kills
    · exact quiet pid reaped
  have free := (ProcessTable.free_of_freeSlot? found).2
  have here : ∀ {shown},
      ((numbered table).put slot process).Seated shown slot ↔ number = shown := by
    intro shown
    rw [ProcessTable.seated_put, if_pos rfl, numbers]
    exact and_iff_right live
  by_cases same : other = slot
  · subst same
    refine here.trans ⟨fun named => Or.inl ⟨congrArg some named, free, (here.mpr rfl).1⟩, ?_⟩
    rintro (⟨given, _⟩ | ⟨_, seated⟩)
    · exact Option.some.inj given
    · exact absurd free seated.1
  · have kept : ((numbered table).put slot process).Seated pid other ↔ table.Seated pid other := by
      rw [ProcessTable.seated_put, if_neg same]
      rfl
    refine kept.trans ⟨fun seated => Or.inr ⟨untaken, seated⟩, ?_⟩
    rintro (⟨_, vacant, filled⟩ | ⟨_, seated⟩)
    · exact absurd vacant (by rwa [ProcessTable.process_put_other same] at filled)
    · exact seated

theorem seats_killed {table : ProcessTable} {heap later : Heap} {stack : Option Stack}
    {number : Nat} (consistent : table.Consistent) (positive : pid ≠ 0)
    (found : table.slotWith? pid = some slot)
    (returned : StackReturned heap number stack later effects) :
    (Exchange.mk table (.kill pid) (.ok .done)
      (effects ++ .report (.processKilled pid) ::
        if slot = table.current then (table.put slot ProcessEntry.vacant).selectNotices.map .report
        else [])
      (cleared table slot)).Seats := by
  have seated := ProcessTable.live_of_slotWith? found
  refine Exchange.seats_of_kill rfl rfl fun number other => ?_
  unfold cleared
  by_cases current : slot = table.current
  · have selectable : (table.put slot ProcessEntry.vacant).Selectable := by
      rw [current]
      exact consistent.clearing (current ▸ consistent.user positive found)
    simp only [if_pos current]
    rw [selectable.seated_select, consistent.seated_clear seated,
      mem_reaped_iff (.report (.processKilled pid)) returned.unreaped nofun]
  · simp only [if_neg current]
    rw [consistent.seated_clear seated]
    simp [returned.unreaped number]

/-- **What one request does to the seats**: a process is seated afterwards if it was given its
number just now, or was seated before and has not been taken away. -/
theorem Course.seats (course : core.Course request result after effects)
    (consistent : core.processes.Consistent) :
    (Exchange.mk core.processes request result effects after.processes).Seats := by
  have running := consistent.seated_current.1
  cases course with
  | refused _ cause =>
    refine Exchange.seats_of_same rfl fun pid => ?_
    rintro (⟨_, answer⟩ | reaped)
    · cases answer
    · cases reaped
  | unmoved _ reply idle =>
    refine Exchange.seats_of_same rfl fun pid => ?_
    rintro (⟨kills, _⟩ | reaped)
    · cases kills
      exact idle
    · cases reaped
  | started => exact Exchange.seats_of_calm rfl nofun fun pid slot => by simp; rfl
  | short served =>
    have quiet := unreaped_allocate served
    exact Exchange.seats_of_calm rfl nofun fun pid slot => by simp [quiet pid]
  | spawned context found served =>
    exact seats_spawned found nofun rfl
      (Sequential.append (unreaped_allocate served) fun _ => by simp)
  | @exited code _ _ user returned =>
    exact Exchange.seats_of_pass (Core.exited core.processes code) rfl nofun
      (consistent.ending user rfl rfl) rfl (fun _ => mem_reaped_iff _ returned.unreaped nofun)
      fun _ _ => ProcessTable.seated_put_live running nofun rfl
  | killed positive found returned => exact seats_killed consistent positive found returned
  | @blocked _ slot user runs =>
    have live : (core.processes.process slot).state ≠ .free := by
      rw [runs]
      decide
    exact Exchange.seats_of_pass _ rfl nofun (consistent.blocking user runs) rfl
      (fun _ => by simp) fun _ _ => ProcessTable.seated_put_live live nofun rfl
  | @unblocked _ slot waits =>
    have live : (core.processes.process slot).state ≠ .free := by
      rw [waits]
      decide
    have kept : ∀ pid other, (core.processes.setState slot .ready).Seated pid other ↔
        core.processes.Seated pid other :=
      fun _ _ => ProcessTable.seated_put_live live nofun rfl
    exact Exchange.seats_of_calm rfl nofun fun pid other => by simp [kept]
  | yielded =>
    exact Exchange.seats_of_pass _ rfl nofun consistent.selectable rfl (fun _ => by simp)
      fun _ _ => Iff.rfl
  | ticked =>
    have kept : ∀ ticksRun pid other, (core.processes.put core.processes.current
        { core.processes.running with ticksRun }).Seated pid other ↔
          core.processes.Seated pid other :=
      fun _ _ _ => ProcessTable.seated_put_live running running rfl
    exact Exchange.seats_of_calm rfl nofun fun pid slot => by simp [kept]

/-- **Only the next number is given**, and only then does it move on. -/
theorem Course.numbers (course : core.Course request result after effects) :
    match (Exchange.mk core.processes request result effects after.processes).given? with
    | some pid => pid = core.processes.nextNumber ∧
        after.processes.nextNumber = core.processes.nextNumber + 1
    | none => after.processes.nextNumber = core.processes.nextNumber := by
  cases course with
  | refused request cause => cases request <;> rfl
  | unmoved request reply idle => cases request <;> first | rfl | exact idle.elim
  | killed positive found returned =>
    show (cleared _ _).nextNumber = _
    unfold cleared
    split
    · exact ProcessTable.nextNumber_select _
    · rfl
  | spawned context found served => exact ⟨rfl, rfl⟩
  | exited user returned => exact ProcessTable.nextNumber_select _
  | blocked user runs => exact ProcessTable.nextNumber_select _
  | yielded => exact ProcessTable.nextNumber_select _
  | started | short _ | unblocked _ | ticked => rfl

/-- Whom a pass reports was seated, also before the current process changed. -/
theorem seated_of_reaped {table : ProcessTable} (process : ProcessEntry)
    (reaped : .processReaped pid ∈ (table.put table.current process).selectNotices) :
    ∃ slot, table.Seated pid slot := by
  obtain ⟨_, slot, apart, zombie, named⟩ := ProcessTable.mem_selectNotices.mp reaped
  rw [ProcessTable.current_put] at apart
  rw [ProcessTable.process_put_other apart] at zombie named
  exact ⟨slot, by simp [zombie], named⟩

/-- **Only who was seated is taken away.** -/
theorem Course.seated_of_takes (course : core.Course request result after effects)
    (consistent : core.processes.Consistent)
    (takes : (Exchange.mk core.processes request result effects after.processes).Takes pid) :
    ∃ slot, core.processes.Seated pid slot := by
  cases course with
  | refused _ cause =>
    rcases takes with ⟨_, answer⟩ | reaped
    · cases answer
    · cases reaped
  | unmoved _ reply idle =>
    rcases takes with ⟨kills, _⟩ | reaped
    · cases kills
      exact idle.elim
    · cases reaped
  | short served =>
    rcases takes with ⟨kills, _⟩ | reaped
    · cases kills
    · exact absurd reaped (unreaped_allocate served pid)
  | spawned context found served =>
    rcases takes with ⟨kills, _⟩ | reaped
    · cases kills
    · have quiet := unreaped_allocate served
      exact absurd reaped (by simp [quiet pid])
  | @exited code _ _ user returned =>
    rcases takes with ⟨kills, _⟩ | reaped
    · cases kills
    · have listed := (mem_reaped_iff (.report (.processExited core.processes.running.pid code))
        returned.unreaped nofun).mp reaped
      exact seated_of_reaped _ listed
  | @killed number slot _ _ positive found returned =>
    rcases takes with ⟨kills, _⟩ | reaped
    · cases kills
      exact ⟨slot, ProcessTable.live_of_slotWith? found⟩
    · by_cases current : slot = core.processes.current
      · subst current
        simp only [if_true] at reaped
        rw [mem_reaped_iff (.report (.processKilled number)) returned.unreaped nofun] at reaped
        exact seated_of_reaped _ reaped
      · simp [if_neg current, returned.unreaped pid] at reaped
  | @blocked _ slot user runs =>
    have current := (consistent.runs slot).mp runs
    subst current
    rcases takes with ⟨kills, _⟩ | reaped
    · cases kills
    · have listed : .processReaped pid ∈
          (core.processes.setState core.processes.current .blocked).selectNotices := by
        simpa using reaped
      exact seated_of_reaped _ listed
  | yielded =>
    rcases takes with ⟨kills, _⟩ | reaped
    · cases kills
    · refine seated_of_reaped (core.processes.process core.processes.current) ?_
      rw [ProcessTable.put_self]
      simpa using reaped
  | started | unblocked _ | ticked =>
    rcases takes with ⟨kills, _⟩ | reaped
    · cases kills
    · cases reaped

end Core

/-! ### Runs -/

namespace ProcessTable

variable {table : ProcessTable} {history : List Exchange} {slot : Slot} {pid : Nat}

/-- A request carried out on the table, with any heap behind it. -/
def exchanged (table : ProcessTable) (heap : Heap) (request : Core.Request) : Exchange where
  before := table
  request := request
  answer := (request.perform ⟨heap, table⟩).result
  effects := (request.perform ⟨heap, table⟩).effects
  after := (request.perform ⟨heap, table⟩).state.processes

/-- **The tables met in a run from a fresh one**, with all that was asked, the latest first. -/
inductive Ran : ProcessTable → List Exchange → Prop
  | fresh (stackBytes now : Nat) : Ran (create stackBytes now) []
  | step {table : ProcessTable} {history : List Exchange} (ran : Ran table history) (heap : Heap)
    (request : Core.Request) (returns : (request.perform ⟨heap, table⟩).result.Returns) :
    Ran (request.perform ⟨heap, table⟩).state.processes
      (table.exchanged heap request :: history)

theorem Ran.reached (ran : table.Ran history) : table.Reached := by
  induction ran with
  | fresh stackBytes now => exact .fresh stackBytes now
  | step _ heap request returns ih => exact .step ih heap request returns

section Steps

variable {heap : Heap} {request : Core.Request}

theorem exchanged_seats (consistent : table.Consistent)
    (returns : (request.perform ⟨heap, table⟩).result.Returns) :
    (table.exchanged heap request).Seats := (Core.perform_course request returns).seats consistent

theorem exchanged_numbers (returns : (request.perform ⟨heap, table⟩).result.Returns) :
    match (table.exchanged heap request).given? with
    | some pid => pid = table.nextNumber ∧
        (table.exchanged heap request).after.nextNumber = table.nextNumber + 1
    | none => (table.exchanged heap request).after.nextNumber = table.nextNumber :=
  (Core.perform_course request returns).numbers

/-- Numbers only go up, and none below the next one is given. -/
theorem nextNumber_le (returns : (request.perform ⟨heap, table⟩).result.Returns) :
    table.nextNumber ≤ (table.exchanged heap request).after.nextNumber ∧
      ∀ {pid}, (table.exchanged heap request).given? = some pid → pid = table.nextNumber := by
  have numbers := exchanged_numbers returns
  cases given : (table.exchanged heap request).given? with
  | none =>
    rw [given] at numbers
    exact ⟨numbers.ge, nofun⟩
  | some number =>
    rw [given] at numbers
    refine ⟨by omega, fun same => ?_⟩
    cases same
    exact numbers.1

end Steps

/-- **Who is seated is whose number was given and not taken since**, the kernel's own apart. -/
theorem Ran.standing_iff (ran : table.Ran history) (user : pid ≠ 0) :
    Standing history (Exchange.Gives pid slot) (Exchange.Takes pid) ↔ table.Seated pid slot := by
  induction ran with
  | fresh stackBytes now =>
    refine iff_of_false standing_nil ?_
    rintro ⟨live, same⟩
    rw [process_create] at live same
    split at live
    · rename_i own
      rw [if_pos own] at same
      exact user same.symm
    · exact live rfl
  | step ran heap request returns ih =>
    rw [standing_cons, ih]
    exact (exchanged_seats ran.reached.consistent returns pid slot).symm

/-- **The numbers given so far are the first ones, in order.** -/
theorem Ran.given (ran : table.Ran history) :
    history.reverse.filterMap Exchange.given? = List.range' 1 (table.nextNumber - 1) := by
  induction ran with
  | fresh stackBytes now => rfl
  | @step table history ran heap request returns ih =>
    have numbers := exchanged_numbers returns
    obtain ⟨count, next⟩ := Nat.exists_eq_add_of_le' ran.reached.consistent.positive
    rw [List.reverse_cons, List.filterMap_append, ih]
    show _ = List.range' 1 ((table.exchanged heap request).after.nextNumber - 1)
    cases given : (table.exchanged heap request).given? with
    | none =>
      rw [given] at numbers
      simp [given, numbers]
    | some pid =>
      rw [given] at numbers
      obtain ⟨rfl, moved⟩ := numbers
      simp [given, moved, next, List.range'_concat, Nat.add_comm]

/-- **A number taken away names nobody from then on**, since only later ones are given. -/
theorem Ran.unseated (ran : table.Ran history) (user : pid ≠ 0)
    (taken : ∃ exchange ∈ history, exchange.Takes pid) :
    pid < table.nextNumber ∧ ∀ slot, ¬ table.Seated pid slot := by
  induction ran with
  | fresh stackBytes now =>
    obtain ⟨_, member, _⟩ := taken
    cases member
  | @step table history ran heap request returns ih =>
    have consistent := ran.reached.consistent
    obtain ⟨higher, next⟩ := nextNumber_le returns
    -- whoever was taken had an earlier number, and had lost its seat or loses it now
    have lost : pid < table.nextNumber ∧ ∀ slot,
        ¬ (¬ (table.exchanged heap request).Takes pid ∧ table.Seated pid slot) := by
      obtain ⟨exchange, member, takes⟩ := taken
      rcases List.mem_cons.mp member with rfl | earlier
      · obtain ⟨slot, live, named⟩ :=
          (Core.perform_course request returns).seated_of_takes consistent takes
        have apart : slot ≠ ownSlot := by
          rintro rfl
          exact user (named.symm.trans consistent.own)
        have bound := (consistent.numbered slot apart live).2
        exact ⟨named ▸ bound, fun _ both => both.1 takes⟩
      · obtain ⟨bound, vacated⟩ := ih ⟨exchange, earlier, takes⟩
        exact ⟨bound, fun slot both => vacated slot both.2⟩
    obtain ⟨bound, vacated⟩ := lost
    refine ⟨lt_of_lt_of_le bound higher, fun slot seated => ?_⟩
    rcases (exchanged_seats consistent returns pid slot).mp seated with ⟨given, _⟩ | kept
    · exact absurd (next given) (Nat.ne_of_lt bound)
    · exact vacated slot kept

/-! ### What a number stands for -/

/-- **The number stands for the process in the slot**: it is the one found, and whoever names it
changes that slot. -/
structure Names (table : ProcessTable) (pid : Nat) (slot : Slot) : Prop where
  found : table.find? pid = some (table.process slot)
  kill : ∀ heap, ((Core.Request.kill pid).perform ⟨heap, table⟩).result.Returns →
    ((Core.Request.kill pid).perform ⟨heap, table⟩).result = .ok .done ∧
      ((Core.Request.kill pid).perform ⟨heap, table⟩).state.processes = Core.cleared table slot
  returns : ∀ heap : Heap, heap.verify = .ok () → heap.Countable →
    ((Core.Request.kill pid).perform ⟨heap, table⟩).result.Returns
  block : ∀ heap, (Core.Request.block pid).perform ⟨heap, table⟩ =
    if (table.process slot).state = .running then
      ⟨.ok (.moved true), ⟨heap, (table.setState slot .blocked).select⟩,
        (table.setState slot .blocked).selectNotices.map .report⟩
    else ⟨.ok (.moved false), ⟨heap, table⟩, []⟩
  unblock : ∀ heap, (Core.Request.unblock pid).perform ⟨heap, table⟩ =
    if (table.process slot).state = .blocked then
      ⟨.ok (.moved true), ⟨heap, table.setState slot .ready⟩, []⟩
    else ⟨.ok (.moved false), ⟨heap, table⟩, []⟩

/-- **The number stands for nobody**: nobody is found, and whoever names it is turned down with
nothing changed. -/
structure Unknown (table : ProcessTable) (pid : Nat) : Prop where
  found : table.find? pid = none
  turnedDown : ∀ heap, ∀ request ∈ [Core.Request.kill pid, .block pid, .unblock pid],
    request.perform ⟨heap, table⟩ = ⟨.error (.refused .invalidTarget), ⟨heap, table⟩, []⟩

theorem Consistent.names (consistent : table.Consistent) (user : pid ≠ 0)
    (seated : table.Seated pid slot) : table.Names pid slot := by
  have found := consistent.slotWith?_iff.mpr seated
  have apart : slot ≠ ownSlot := consistent.user user found
  refine ⟨by rw [find?, found, Option.map_some], fun heap returns => ?_,
    fun heap sound countable => ?_, fun heap => ?_, fun heap => ?_⟩
  · rw [Core.Request.perform, Action.map_apply] at returns ⊢
    rcases Core.kill_cases pid (Answer.returns_of_map returns) with
      ⟨zero | missing, _⟩ | ⟨_, other, _, _, here, _, run⟩
    · exact absurd zero user
    · rw [show table.slotWith? pid = none from missing] at found
      cases found
    · rw [show table.slotWith? pid = some other from here] at found
      cases found
      rw [run]
      exact ⟨rfl, rfl⟩
  · obtain ⟨blocks, sound⟩ := Heap.verify_eq_ok_iff.mp sound
    rw [Core.Request.perform, Action.map_apply, Answer.returns_map]
    exact Core.kill_returns sound countable pid
  · rw [Core.Request.perform, Action.map_apply, Core.onProcesses_apply, ProcessTable.block,
      Action.bind_quiet (Core.requireSlot_of_found found), Action.bind_quiet (Action.get_apply _)]
    by_cases runs : (table.process slot).state = .running
    · rw [if_neg (not_or.mpr ⟨apart, not_not.mpr runs⟩), if_pos runs,
        Action.bind_quiet (Action.modify_apply _ _), Action.bind_apply_ok (Core.reschedule_apply _),
        Action.pure_apply, List.append_nil]
      rfl
    · rw [if_pos (Or.inr runs), if_neg runs]
      rfl
  · rw [Core.Request.perform, Action.map_apply, Core.onProcesses_apply, ProcessTable.unblock,
      Action.bind_quiet (Core.requireSlot_of_found found), Action.bind_quiet (Action.get_apply _)]
    by_cases waits : (table.process slot).state = .blocked
    · rw [if_neg (not_not.mpr waits), if_pos waits]
      rfl
    · rw [if_pos waits, if_neg waits]
      rfl

theorem unknown_of_unseated (unseated : ∀ slot, ¬ table.Seated pid slot) : table.Unknown pid := by
  have missing := slotWith?_eq_none_iff.mpr unseated
  refine ⟨by rw [find?, missing, Option.map_none], fun heap request named => ?_⟩
  have refused : ∀ {α : Type} (next : Slot → Action ProcessTable ProcessRefusal α),
      Core.onProcesses (requireSlot pid >>= next) ⟨heap, table⟩ =
        ⟨.error (.refused .invalidTarget), ⟨heap, table⟩, []⟩ := by
    intro α next
    rw [Core.onProcesses_apply, Action.bind_apply_error (Core.requireSlot_of_none missing)]
  simp only [List.mem_cons, List.not_mem_nil, or_false] at named
  rcases named with rfl | rfl | rfl
  · rw [Core.Request.perform, Action.map_apply, Core.kill]
    split
    · rfl
    · have stops : Core.onProcesses (requireSlot pid) ⟨heap, table⟩ =
          ⟨.error (.refused .invalidTarget), ⟨heap, table⟩, []⟩ := by
        rw [Core.onProcesses_apply, Core.requireSlot_of_none missing]
      rw [Action.bind_apply_error stops]
      rfl
  · rw [Core.Request.perform, Action.map_apply, ProcessTable.block, refused]
    rfl
  · rw [Core.Request.perform, Action.map_apply, ProcessTable.unblock, refused]
    rfl

/-- **A number names one process for ever.** In every run the numbers that creations answered are
1, 2, 3 and so on in order, whatever creations failed between them. A number given and not taken
since stands for the process in the slot that its creation filled. Once its process was killed or
cleared away by a pass, it stands for nobody, whoever has the slot now. -/
theorem numbers_name_one (ran : table.Ran history) :
    history.reverse.filterMap Exchange.given? = List.range' 1 (table.nextNumber - 1) ∧
    ∀ pid, pid ≠ 0 →
      (∀ slot, Standing history (Exchange.Gives pid slot) (Exchange.Takes pid) ↔
        table.slotWith? pid = some slot) ∧
      (∀ slot, Standing history (Exchange.Gives pid slot) (Exchange.Takes pid) →
        table.Names pid slot) ∧
      ((∃ exchange ∈ history, exchange.Takes pid) → table.Unknown pid) := by
  have consistent := ran.reached.consistent
  refine ⟨ran.given, fun pid user => ⟨fun slot => ?_, fun slot stands => ?_, fun taken => ?_⟩⟩
  · rw [consistent.slotWith?_iff]
    exact ran.standing_iff user
  · exact consistent.names user ((ran.standing_iff user).mp stands)
  · exact unknown_of_unseated (ran.unseated user taken).2

/-- The table after the only process was killed. -/
def emptied : ProcessTable :=
  ((Core.Request.kill 1).perform ⟨Heap.smallHeap, smallCore.processes⟩).state.processes

/-- The table after another one took its slot. -/
def recycled : ProcessTable :=
  ((Core.Request.spawn "next" 128 .low 0).perform ⟨Heap.smallHeap, emptied⟩).state.processes

/-- The number of the killed process stands for nobody, the next one for the same slot. -/
theorem numbers_name_one_recycled :
    (smallCore.processes.process 1).pid = 1 ∧ recycled.Unknown 1 ∧ recycled.Names 2 1 := by
  have first : ((Core.Request.spawn "init" 64 .normal 0).perform
      ⟨Heap.smallHeap, (create 16 0).started⟩).result = .ok (.number 1) := by
    decide +kernel
  have killed : ((Core.Request.kill 1).perform ⟨Heap.smallHeap, smallCore.processes⟩).result =
      .ok .done := by
    decide +kernel
  have second : ((Core.Request.spawn "next" 128 .low 0).perform
      ⟨Heap.smallHeap, emptied⟩).result = .ok (.number 2) := by
    decide +kernel
  have free : (emptied.process 1).state = .free := by
    decide +kernel
  have live : (recycled.process 1).state ≠ .free := by
    decide +kernel
  have started : (create 16 0).started.Ran [(create 16 0).exchanged Heap.smallHeap .start] :=
    .step (.fresh 16 0) Heap.smallHeap .start (Answer.returns_ok Core.Reply.done)
  have small : smallCore.processes.Ran _ :=
    started.step Heap.smallHeap (.spawn "init" 64 .normal 0) (first.symm ▸ Answer.returns_ok _)
  have cleared : emptied.Ran _ :=
    small.step Heap.smallHeap (.kill 1) (killed.symm ▸ Answer.returns_ok _)
  have ran : recycled.Ran _ :=
    cleared.step Heap.smallHeap (.spawn "next" 128 .low 0) (second.symm ▸ Answer.returns_ok _)
  have given : (emptied.exchanged Heap.smallHeap (.spawn "next" 128 .low 0)).given? = some 2 := by
    simp only [Exchange.given?, exchanged, second]
  obtain ⟨_, names⟩ := numbers_name_one ran
  refine ⟨by decide +kernel, ?_, ?_⟩
  · exact (names 1 (by decide)).2.2 ⟨smallCore.processes.exchanged Heap.smallHeap (.kill 1),
      List.mem_cons_of_mem _ List.mem_cons_self, Or.inl ⟨rfl, killed⟩⟩
  · exact (names 2 (by decide)).2.1 1 (standing_cons.mpr (Or.inl ⟨given, free, live⟩))

end ProcessTable

end MiniKernel
