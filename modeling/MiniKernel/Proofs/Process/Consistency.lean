/-
**What every process table is like between two requests.**

* `ProcessTable.Settled` — who is in which slot: the kernel's process in its own, nothing in the free
  slots, and numbers given once. A change that keeps or clears slots keeps it (`Settled.follow`).
* `ProcessTable.Consistent` — settled, one running process, which is the current one, the kernel's
  process ready whenever it does not run, and at most one ended process.
* `ProcessTable.Selectable` — what is left of that when the current process has just stopped to run.
  A selection pass makes it whole again (`Selectable.select`).
-/

import Mathlib.Tactic.ByContra
import MiniKernel.Process.Table

namespace MiniKernel

namespace ProcessTable

variable {table after : ProcessTable} {slot other : Slot} {process : ProcessEntry}

/-! ### One slot replaced -/

@[simp] theorem process_put_same (table : ProcessTable) (slot : Slot) (process : ProcessEntry) :
    (table.put slot process).process slot = process := by
  rw [process_put, if_pos rfl]

theorem process_put_other (apart : other ≠ slot) :
    (table.put slot process).process other = table.process other := by
  rw [process_put, if_neg (Ne.symm apart)]

@[simp] theorem put_put (table : ProcessTable) (slot : Slot) (first second : ProcessEntry) :
    (table.put slot first).put slot second = table.put slot second := by
  simp [put]

theorem put_self (table : ProcessTable) (slot : Slot) :
    table.put slot (table.process slot) = table := by
  simp [put, ProcessTable.process]

@[simp] theorem current_put (table : ProcessTable) (slot : Slot) (process : ProcessEntry) :
    (table.put slot process).current = table.current := rfl

@[simp] theorem current_reap (table : ProcessTable) : table.reap.current = table.current := by
  simp only [reap]

@[simp] theorem enabled_reap (table : ProcessTable) : table.reap.enabled = table.enabled := by
  simp only [reap]

@[simp] theorem nextNumber_reap (table : ProcessTable) :
    table.reap.nextNumber = table.nextNumber := by
  simp only [reap]

/-! ### Who is in which slot -/

/-- **Who is in which slot.** -/
structure Settled (table : ProcessTable) : Prop where
  own : (table.process ownSlot).pid = 0
  staffed : (table.process ownSlot).state ≠ .free
  vacant : ∀ slot, (table.process slot).state = .free → table.process slot = ProcessEntry.vacant
  distinct : ∀ slot other, (table.process slot).state ≠ .free →
    (table.process other).state ≠ .free → (table.process slot).pid = (table.process other).pid →
    slot = other
  numbered : ∀ slot, slot ≠ ownSlot → (table.process slot).state ≠ .free →
    1 ≤ (table.process slot).pid ∧ (table.process slot).pid < table.nextNumber
  positive : 1 ≤ table.nextNumber

/-- The slot keeps its process, or holds none now. -/
def Follows (before after : ProcessEntry) : Prop :=
  (after.state = .free → after = ProcessEntry.vacant) ∧
    (after.state ≠ .free → before.state ≠ .free ∧ after.pid = before.pid)

theorem Follows.vacant (before : ProcessEntry) : Follows before ProcessEntry.vacant :=
  ⟨fun _ => rfl, fun live => absurd rfl live⟩

theorem Follows.of_live {before after : ProcessEntry} (live : before.state ≠ .free)
    (still : after.state ≠ .free) (same : after.pid = before.pid) : Follows before after :=
  ⟨fun free => absurd free still, fun _ => ⟨live, same⟩⟩

namespace Settled

theorem follows (settled : table.Settled) (slot : Slot) :
    Follows (table.process slot) (table.process slot) :=
  ⟨settled.vacant slot, fun live => ⟨live, rfl⟩⟩

/-- **A table stays settled when every slot but the kernel's keeps its process or loses it.** -/
theorem follow (settled : table.Settled)
    (each : ∀ slot, Follows (table.process slot) (after.process slot))
    (staffed : (after.process ownSlot).state ≠ .free)
    (number : after.nextNumber = table.nextNumber) : after.Settled := by
  refine ⟨?_, staffed, fun slot => (each slot).1, fun slot other live other_live same => ?_,
    fun slot apart live => ?_, ?_⟩
  · rw [((each ownSlot).2 staffed).2]
    exact settled.own
  · obtain ⟨was_live, pid⟩ := (each slot).2 live
    obtain ⟨other_was_live, other_pid⟩ := (each other).2 other_live
    refine settled.distinct slot other was_live other_was_live ?_
    rw [← pid, ← other_pid]
    exact same
  · obtain ⟨was_live, pid⟩ := (each slot).2 live
    rw [pid, number]
    exact settled.numbered slot apart was_live
  · rw [number]
    exact settled.positive

theorem put (settled : table.Settled) (follows : Follows (table.process slot) process)
    (staffed : slot = ownSlot → process.state ≠ .free) : (table.put slot process).Settled := by
  refine settled.follow (fun other => ?_) ?_ rfl
  · by_cases same : other = slot
    · rw [same, process_put_same]
      exact follows
    · rw [process_put_other same]
      exact settled.follows other
  · by_cases same : ownSlot = slot
    · subst same
      rw [process_put_same]
      exact staffed rfl
    · rw [process_put_other same]
      exact settled.staffed

/-- A process with the next number may move into any slot but the kernel's. -/
theorem enlist (settled : table.Settled) (apart : slot ≠ ownSlot)
    (pid : process.pid = table.nextNumber) (live : process.state ≠ .free) :
    ({ table with nextNumber := table.nextNumber + 1 }.put slot process).Settled := by
  have others : ∀ {other}, other ≠ slot →
      ({ table with nextNumber := table.nextNumber + 1 }.put slot process).process other =
        table.process other := fun off => process_put_other off
  have fresh : ∀ other, (table.process other).state ≠ .free →
      (table.process other).pid < table.nextNumber := by
    intro other other_live
    by_cases same : other = ownSlot
    · rw [same, settled.own]
      exact settled.positive
    · exact (settled.numbered other same other_live).2
  refine ⟨?_, ?_, fun other => ?_, fun first second => ?_, fun other off => ?_,
    Nat.le_add_left _ _⟩
  · rw [others (Ne.symm apart)]
    exact settled.own
  · rw [others (Ne.symm apart)]
    exact settled.staffed
  · by_cases same : other = slot
    · rw [same, process_put_same]
      exact fun free => absurd free live
    · rw [others same]
      exact settled.vacant other
  · by_cases same : first = slot <;> by_cases same' : second = slot
    · exact fun _ _ _ => same.trans same'.symm
    · rw [same, process_put_same, others same', pid]
      intro _ second_live equal
      exact absurd equal.symm (Nat.ne_of_lt (fresh second second_live))
    · rw [same', process_put_same, others same, pid]
      intro first_live _ equal
      exact absurd equal (Nat.ne_of_lt (fresh first first_live))
    · rw [others same, others same']
      exact settled.distinct first second
  · by_cases same : other = slot
    · rw [same, process_put_same, pid]
      exact fun _ => ⟨settled.positive, Nat.lt_succ_self _⟩
    · rw [others same]
      intro other_live
      obtain ⟨positive, below⟩ := settled.numbered other off other_live
      exact ⟨positive, Nat.lt_succ_of_lt below⟩

end Settled

/-! ### Who runs -/

/-- **Settled, with one running process, the current one**, the kernel's ready whenever it does not
run, and at most one ended process. -/
structure Consistent (table : ProcessTable) : Prop extends table.Settled where
  runs : ∀ slot, (table.process slot).state = .running ↔ slot = table.current
  waits : table.current ≠ ownSlot → (table.process ownSlot).state = .ready
  ended : ∀ slot other, (table.process slot).state = .zombie →
    (table.process other).state = .zombie → slot = other
  idle : table.enabled = false → table.current = ownSlot

/-- **What a selection pass needs**: the current process may have stopped to run. -/
structure Selectable (table : ProcessTable) : Prop extends table.Settled where
  runs : ∀ slot, (table.process slot).state = .running → slot = table.current
  waits : table.current ≠ ownSlot → (table.process ownSlot).state = .ready
  upright : table.current = ownSlot → (table.process ownSlot).state = .running
  unready : (table.process table.current).state ≠ .ready

theorem Consistent.selectable (consistent : table.Consistent) : table.Selectable := by
  have current := (consistent.runs table.current).mpr rfl
  refine ⟨consistent.toSettled, fun slot => (consistent.runs slot).mp, consistent.waits,
    fun own => ?_, ?_⟩
  · rw [← own]
    exact current
  · rw [current]
    decide

/-- The current process of a consistent table may end, block or leave, the kernel's apart. -/
theorem Consistent.pause (consistent : table.Consistent) (user : table.current ≠ ownSlot)
    (follows : Follows (table.process table.current) process) (unready : process.state ≠ .ready) :
    (table.put table.current process).Selectable := by
  refine ⟨consistent.toSettled.put follows fun own => absurd own user, fun slot => ?_, fun _ => ?_,
    fun own => absurd own user, ?_⟩
  · by_cases same : slot = table.current
    · exact fun _ => same
    · rw [process_put_other same]
      exact (consistent.runs slot).mp
  · rw [process_put_other (Ne.symm user)]
    exact consistent.waits user
  · rw [current_put, process_put_same]
    exact unready

namespace Selectable

/-- Clearing the slots of ended processes leaves an ended one in the current slot at most. -/
theorem reap (selectable : table.Selectable) :
    table.reap.Selectable ∧ ∀ slot, (table.reap.process slot).state = .zombie →
      slot = table.reap.current := by
  have own : table.reap.process ownSlot = table.process ownSlot := by
    rw [process_reap, if_neg]
    rintro ⟨apart, ended⟩
    rw [selectable.waits (Ne.symm apart)] at ended
    cases ended
  have current : table.reap.process table.current = table.process table.current := by
    rw [process_reap, if_neg fun both => both.1 rfl]
  have settled : table.reap.Settled := by
    refine selectable.toSettled.follow (fun slot => ?_) ?_ table.nextNumber_reap
    · rw [process_reap]
      split
      · exact Follows.vacant _
      · exact selectable.follows slot
    · rw [own]
      exact selectable.staffed
  refine ⟨⟨settled, fun slot => ?_, ?_, ?_, ?_⟩, fun slot => ?_⟩
  · rw [process_reap, current_reap]
    split
    · exact nofun
    · exact selectable.runs slot
  · rw [own, current_reap]
    exact selectable.waits
  · rw [own, current_reap]
    exact selectable.upright
  · rw [current_reap, current]
    exact selectable.unready
  · rw [process_reap, current_reap]
    split
    · exact nofun
    · rename_i kept
      intro ended
      by_contra apart
      exact kept ⟨apart, ended⟩

/-- A chosen slot is ready. -/
theorem ready_of_choice (selectable : table.Selectable) (chosen : table.choice? = some slot) :
    (table.process slot).state = .ready := by
  unfold choice? at chosen
  cases found : table.successor? with
  | some next =>
    rw [found] at chosen
    cases chosen
    have ready := List.find?_some found
    exact beq_iff_eq.mp ready
  | none =>
    rw [found] at chosen
    by_cases runs : table.running.state = .running
    · simp [runs] at chosen
    · simp only [if_neg runs] at chosen
      cases chosen
      refine selectable.waits fun own => runs ?_
      show (table.process table.current).state = .running
      rw [own]
      exact selectable.upright own

theorem running_of_choice (none_chosen : table.choice? = none) :
    (table.process table.current).state = .running := by
  unfold choice? at none_chosen
  cases found : table.successor? with
  | some next =>
    rw [found] at none_chosen
    cases none_chosen
  | none =>
    rw [found] at none_chosen
    by_contra stopped
    have off : table.running.state ≠ .running := stopped
    simp [off] at none_chosen

/-- What a switch leaves in each slot. -/
theorem process_switchTo (apart : slot ≠ table.current) (other : Slot) :
    (table.switchTo slot).process other =
      if other = slot then { table.process slot with state := .running }
      else if other = table.current ∧ (table.process table.current).state = .running then
        { table.process table.current with state := .ready }
      else table.process other := by
  unfold ProcessTable.switchTo running setState
  show ((if (table.process table.current).state = .running then _ else table).put slot _).process
    other = _
  by_cases runs : (table.process table.current).state = .running
  · rw [if_pos runs, process_put_other apart]
    by_cases here : other = slot
    · rw [here, process_put_same, if_pos rfl]
    · rw [process_put_other here, if_neg here]
      by_cases paused : other = table.current
      · rw [paused, process_put_same, if_pos ⟨rfl, runs⟩]
      · rw [process_put_other paused, if_neg fun both => paused both.1]
  · rw [if_neg runs]
    by_cases here : other = slot
    · rw [here, process_put_same, if_pos rfl]
    · rw [process_put_other here, if_neg here, if_neg fun both => runs both.2]

theorem enabled_switchTo (table : ProcessTable) (slot : Slot) :
    (table.switchTo slot).enabled = table.enabled := by
  unfold ProcessTable.switchTo
  split <;> rfl

/-- A ready process is not the current one. -/
theorem apart_of_ready (selectable : table.Selectable)
    (ready : (table.process slot).state = .ready) : slot ≠ table.current := by
  rintro rfl
  exact selectable.unready ready

/-- A switch moves nobody. -/
theorem settled_switchTo (selectable : table.Selectable)
    (ready : (table.process slot).state = .ready) : (table.switchTo slot).Settled := by
  have process := process_switchTo (selectable.apart_of_ready ready)
  have live : (table.process slot).state ≠ .free := by
    rw [ready]
    decide
  refine selectable.toSettled.follow ?_ ?_ ?_
  · intro other
    rw [process]
    split
    · rename_i here
      rw [here]
      exact Follows.of_live live nofun rfl
    · split
      · rename_i paused
        obtain ⟨rfl, runs⟩ := paused
        exact Follows.of_live (by rw [runs]; decide) nofun rfl
      · exact selectable.follows other
  · rw [process]
    split
    · exact nofun
    · split
      · exact nofun
      · exact selectable.staffed
  · unfold ProcessTable.switchTo
    split <;> rfl

/-- **A switch to a ready process makes the table consistent.** -/
theorem switchTo (selectable : table.Selectable) (ready : (table.process slot).state = .ready)
    (ended : ∀ slot, (table.process slot).state = .zombie → slot = table.current)
    (enabled : table.enabled = true) : (table.switchTo slot).Consistent := by
  have process := process_switchTo (selectable.apart_of_ready ready)
  refine ⟨selectable.settled_switchTo ready, ?_, ?_, ?_, ?_⟩
  · intro other
    show ((table.switchTo slot).process other).state = .running ↔ other = slot
    rw [process]
    by_cases here : other = slot
    · rw [if_pos here]
      exact ⟨fun _ => here, fun _ => rfl⟩
    · rw [if_neg here]
      split
      · exact ⟨nofun, fun same => absurd same here⟩
      · rename_i not_paused
        refine ⟨fun running => ?_, fun same => absurd same here⟩
        have current := selectable.runs other running
        subst current
        exact absurd ⟨rfl, running⟩ not_paused
  · intro user
    have other_slot : ownSlot ≠ slot := Ne.symm user
    rw [process, if_neg other_slot]
    split
    · rfl
    · rename_i not_paused
      refine selectable.waits fun own => not_paused ⟨own.symm, ?_⟩
      rw [own]
      exact selectable.upright own
  · have only : ∀ other, ((table.switchTo slot).process other).state = .zombie →
        other = table.current := by
      intro other
      rw [process]
      split
      · exact nofun
      · split
        · exact nofun
        · exact ended other
    exact fun first second one two => (only first one).trans (only second two).symm
  · intro off
    rw [enabled_switchTo, enabled] at off
    cases off

/-- **A selection pass makes the table consistent.** -/
theorem select (selectable : table.Selectable) (enabled : table.enabled = true) :
    table.select.Consistent := by
  obtain ⟨reaped, ended⟩ := selectable.reap
  unfold ProcessTable.select
  rw [if_pos enabled]
  cases chosen : table.reap.choice? with
  | some slot =>
    exact reaped.switchTo (reaped.ready_of_choice chosen) ended (table.enabled_reap.trans enabled)
  | none =>
    have runs := running_of_choice chosen
    refine ⟨reaped.toSettled, fun slot => ⟨reaped.runs slot, ?_⟩, reaped.waits,
      fun slot other zombie other_zombie => ?_, fun off => ?_⟩
    · rintro rfl
      exact runs
    · exact (ended slot zombie).trans (ended other other_zombie).symm
    · rw [enabled_reap, enabled] at off
      cases off

end Selectable

theorem Consistent.select (consistent : table.Consistent) : table.select.Consistent := by
  cases enabled : table.enabled with
  | true => exact consistent.selectable.select enabled
  | false =>
    unfold ProcessTable.select
    rw [enabled]
    exact consistent

/-! ### One change at a time -/

theorem process_create (stackBytes now : Nat) (slot : Slot) :
    (create stackBytes now).process slot =
      if slot = ownSlot then kernelProcess now else ProcessEntry.vacant := by
  have value : ownSlot.val = 0 := rfl
  simp only [ProcessTable.process, create, Fin.getElem_fin, Vector.getElem_set,
    Vector.getElem_replicate, Fin.ext_iff, value, eq_comm]

/-- A table with only the kernel's process is consistent. -/
theorem consistent_create (stackBytes now : Nat) : (create stackBytes now).Consistent := by
  have only : ∀ slot, ((create stackBytes now).process slot).state ≠ .free → slot = ownSlot := by
    intro slot
    rw [process_create]
    split
    · exact fun _ => by assumption
    · exact fun live => absurd rfl live
  have own : (create stackBytes now).process ownSlot = kernelProcess now := by
    rw [process_create, if_pos rfl]
  refine ⟨⟨?_, ?_, fun slot => ?_, fun slot other live other_live _ => ?_,
    fun slot apart live => absurd (only slot live) apart, Nat.le_refl 1⟩, fun slot => ⟨fun runs => ?_,
    fun same => ?_⟩, fun user => absurd rfl user, fun slot other zombie _ => ?_, fun _ => rfl⟩
  · rw [own]
    rfl
  · rw [own]
    exact nofun
  · rw [process_create]
    split
    · exact nofun
    · exact fun _ => rfl
  · exact (only slot live).trans (only other other_live).symm
  · refine only slot ?_
    rw [runs]
    decide
  · rw [show slot = ownSlot from same, own]
    rfl
  · have here := only slot (by rw [zombie]; decide)
    rw [here, own] at zombie
    cases zombie

/-- The slot a new process takes is free and not the kernel's. -/
theorem free_of_freeSlot? (found : table.freeSlot? = some slot) :
    slot ≠ ownSlot ∧ (table.process slot).state = .free := by
  have both := List.find?_some found
  obtain ⟨apart, free⟩ := Bool.and_eq_true_iff.mp both
  exact ⟨bne_iff_ne.mp apart, beq_iff_eq.mp free⟩

/-- The slot found for a number holds a live process of that number. -/
theorem live_of_slotWith? {pid : Nat} (found : table.slotWith? pid = some slot) :
    (table.process slot).state ≠ .free ∧ (table.process slot).pid = pid := by
  have both := List.find?_some found
  obtain ⟨live, same⟩ := Bool.and_eq_true_iff.mp both
  refine ⟨fun free => ?_, beq_iff_eq.mp same⟩
  unfold ProcessEntry.isFree at live
  rw [free] at live
  cases live

namespace Consistent

theorem running (consistent : table.Consistent) :
    (table.process table.current).state = .running := (consistent.runs table.current).mpr rfl

/-- Selection is on once another process than the kernel's runs. -/
theorem enabled (consistent : table.Consistent) (user : table.current ≠ ownSlot) :
    table.enabled = true := by
  cases on : table.enabled with
  | true => rfl
  | false => exact absurd (consistent.idle on) user

theorem started (consistent : table.Consistent) : table.started.Consistent :=
  ⟨⟨consistent.own, consistent.staffed, consistent.vacant, consistent.distinct,
    consistent.numbered, consistent.positive⟩, consistent.runs, consistent.waits,
    consistent.ended, fun off => by cases off⟩

/-- A process that is not the current one may change, keep its slot or leave it. -/
theorem put (consistent : table.Consistent) (settled : (table.put slot process).Settled)
    (waiting : slot ≠ table.current) (user : slot ≠ ownSlot)
    (calm : process.state = .ready ∨ process.state = .free) :
    (table.put slot process).Consistent := by
  have stops : process.state ≠ .running := by
    rcases calm with ready | free
    · rw [ready]
      decide
    · rw [free]
      decide
  have living : process.state ≠ .zombie := by
    rcases calm with ready | free
    · rw [ready]
      decide
    · rw [free]
      decide
  refine ⟨settled, fun other => ?_, fun current => ?_, fun first second => ?_, consistent.idle⟩
  · by_cases same : other = slot
    · rw [same, process_put_same]
      exact ⟨fun runs => absurd runs stops, fun current => absurd current waiting⟩
    · rw [process_put_other same]
      exact consistent.runs other
  · rw [process_put_other (Ne.symm user)]
    exact consistent.waits current
  · have still : ∀ other, ((table.put slot process).process other).state = .zombie →
        (table.process other).state = .zombie := by
      intro other
      by_cases same : other = slot
      · rw [same, process_put_same]
        exact fun zombie => absurd zombie living
      · rw [process_put_other same]
        exact id
    exact fun one two => consistent.ended first second (still first one) (still second two)

/-- A new process is ready in its slot. -/
theorem enlist (consistent : table.Consistent) (found : table.freeSlot? = some slot)
    (pid : process.pid = table.nextNumber) (ready : process.state = .ready) :
    ({ table with nextNumber := table.nextNumber + 1 }.put slot process).Consistent := by
  obtain ⟨user, free⟩ := free_of_freeSlot? found
  have live : process.state ≠ .free := by
    rw [ready]
    decide
  have waiting : slot ≠ table.current := by
    rintro rfl
    rw [consistent.running] at free
    cases free
  have renumbered : { table with nextNumber := table.nextNumber + 1 }.Consistent := by
    refine ⟨⟨consistent.own, consistent.staffed, consistent.vacant, consistent.distinct,
      fun other off other_live => ?_, Nat.le_add_left _ _⟩, consistent.runs, consistent.waits,
      consistent.ended, consistent.idle⟩
    obtain ⟨low, high⟩ := consistent.numbered other off other_live
    exact ⟨low, Nat.lt_succ_of_lt high⟩
  exact renumbered.put (consistent.toSettled.enlist user pid live) waiting user (Or.inl ready)

/-- Once the current process has ended, a pass can follow. -/
theorem ending (consistent : table.Consistent) (user : table.current ≠ ownSlot)
    (zombie : process.state = .zombie) (same : process.pid = table.running.pid) :
    (table.put table.current process).Selectable := by
  have running := consistent.running
  refine consistent.pause user (Follows.of_live ?_ ?_ same) ?_
  · rw [running]
    decide
  · rw [zombie]
    decide
  · rw [zombie]
    decide

theorem exit (consistent : table.Consistent) (user : table.current ≠ ownSlot)
    (zombie : process.state = .zombie) (same : process.pid = table.running.pid) :
    (table.put table.current process).select.Consistent :=
  (consistent.ending user zombie same).select (consistent.enabled user)

/-- Once the current process is cleared away, a pass can follow. -/
theorem clearing (consistent : table.Consistent) (user : table.current ≠ ownSlot) :
    (table.put table.current ProcessEntry.vacant).Selectable :=
  consistent.pause user (Follows.vacant _) nofun

/-- A process is cleared away; a pass follows if it was the current one. -/
theorem clear (consistent : table.Consistent) (user : slot ≠ ownSlot) :
    (if slot = table.current then (table.put slot ProcessEntry.vacant).select
      else table.put slot ProcessEntry.vacant).Consistent := by
  split
  · rename_i current
    subst current
    exact (consistent.clearing user).select (consistent.enabled user)
  · rename_i waiting
    refine consistent.put ?_ waiting user (Or.inr rfl)
    exact consistent.toSettled.put (Follows.vacant _) fun own => absurd own user

/-- Only the kernel's own process is found by the number 0. -/
theorem user (consistent : table.Consistent) {pid : Nat} (positive : pid ≠ 0)
    (found : table.slotWith? pid = some slot) : slot ≠ ownSlot := by
  rintro rfl
  refine positive ?_
  rw [← (live_of_slotWith? found).2]
  exact consistent.own

/-- Once the running process is blocked, a pass can follow. -/
theorem blocking (consistent : table.Consistent) (user : slot ≠ ownSlot)
    (runs : (table.process slot).state = .running) :
    (table.setState slot .blocked).Selectable := by
  have current := (consistent.runs slot).mp runs
  subst current
  refine consistent.pause user (Follows.of_live ?_ nofun rfl) nofun
  rw [runs]
  decide

theorem block (consistent : table.Consistent) (user : slot ≠ ownSlot)
    (runs : (table.process slot).state = .running) :
    (table.setState slot .blocked).select.Consistent := by
  have current := (consistent.runs slot).mp runs
  refine (consistent.blocking user runs).select (consistent.enabled ?_)
  rw [← current]
  exact user

/-- A blocked process becomes ready. -/
theorem unblock (consistent : table.Consistent) (blocked : (table.process slot).state = .blocked) :
    (table.setState slot .ready).Consistent := by
  have waiting : slot ≠ table.current := by
    rintro rfl
    rw [consistent.running] at blocked
    cases blocked
  have user : slot ≠ ownSlot := by
    rintro rfl
    by_cases current : table.current = ownSlot
    · exact waiting current.symm
    · rw [consistent.waits current] at blocked
      cases blocked
  unfold setState
  refine consistent.put ?_ waiting user (Or.inl rfl)
  refine consistent.toSettled.put (Follows.of_live ?_ nofun rfl) fun own => absurd own user
  rw [blocked]
  decide

/-- The current process is charged. -/
theorem charge (consistent : table.Consistent) (ticksRun : Nat) :
    (table.put table.current { table.running with ticksRun }).Consistent := by
  have running := consistent.running
  have state : ∀ slot,
      ((table.put table.current { table.running with ticksRun }).process slot).state =
        (table.process slot).state := by
    intro slot
    by_cases same : slot = table.current
    · rw [same, process_put_same]
      rfl
    · rw [process_put_other same]
  have settled : (table.put table.current { table.running with ticksRun }).Settled := by
    have live : (table.process table.current).state ≠ .free := by
      rw [running]
      decide
    exact consistent.toSettled.put (Follows.of_live live live rfl) fun _ => live
  refine ⟨settled, fun slot => ?_, fun user => ?_, fun slot other => ?_, consistent.idle⟩
  · rw [state]
    exact consistent.runs slot
  · rw [state]
    exact consistent.waits user
  · rw [state, state]
    exact consistent.ended slot other

end Consistent

end ProcessTable

end MiniKernel
