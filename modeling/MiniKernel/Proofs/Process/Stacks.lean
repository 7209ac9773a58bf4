/-
**Who has a stack.**

* `ProcessTable.Housed` — every process has a stack from its creation to its end, the kernel's own
  none.
* `ProcessTable.Selectable.keeps` — a selection pass moves no stack and ends no process, so a table
  that was housed is housed after it (`ProcessTable.Housed.select`).
* `ProcessTable.stackOf_put` — what a change of one slot does to the stacks.
-/

import Mathlib.Logic.Function.Basic
import MiniKernel.Proofs.Process.Lifecycle

namespace MiniKernel

/-- The process has ended, or there is none. -/
def ProcessEntry.isGone (process : ProcessEntry) : Prop :=
  process.state = .free ∨ process.state = .zombie

theorem ProcessEntry.not_isGone {process : ProcessEntry} (state : RunState)
    (has : process.state = state) (live : state ≠ .free) (goes_on : state ≠ .zombie) :
    ¬ process.isGone := by
  unfold isGone
  rw [has]
  exact not_or.mpr ⟨live, goes_on⟩

namespace ProcessTable

variable {table after : ProcessTable} {slot : Slot} {process : ProcessEntry}

/-- The stack of each slot's process. -/
def stackOf (table : ProcessTable) (slot : Slot) : Option Stack := (table.process slot).stack

/-- **Every process has a stack until it ends, the kernel's own none.** -/
def Housed (table : ProcessTable) : Prop :=
  ∀ slot, table.stackOf slot = none ↔ slot = ownSlot ∨ (table.process slot).isGone

/-- The slot has the same stack, and its process has ended if it had. -/
def Keeps (before after : ProcessEntry) : Prop :=
  after.stack = before.stack ∧ (after.isGone ↔ before.isGone)

theorem Keeps.trans {before middle after : ProcessEntry} (first : Keeps before middle)
    (second : Keeps middle after) : Keeps before after :=
  ⟨second.1.trans first.1, second.2.trans first.2⟩

theorem Housed.keep (housed : table.Housed)
    (each : ∀ slot, Keeps (table.process slot) (after.process slot)) : after.Housed := by
  intro slot
  show (after.process slot).stack = none ↔ _
  rw [(each slot).1, (each slot).2]
  exact housed slot

theorem stackOf_keep (each : ∀ slot, Keeps (table.process slot) (after.process slot)) :
    after.stackOf = table.stackOf := by
  funext slot
  exact (each slot).1

theorem Keeps.of_live {before after : ProcessEntry} (same : after.stack = before.stack)
    (live : ¬ before.isGone) (still : ¬ after.isGone) : Keeps before after :=
  ⟨same, fun gone => absurd gone still, fun gone => absurd gone live⟩

theorem keeps_put (keeps : Keeps (table.process slot) process) (other : Slot) :
    Keeps (table.process other) ((table.put slot process).process other) := by
  by_cases same : other = slot
  · rw [same, process_put_same]
    exact keeps
  · rw [process_put_other same]
    exact ⟨rfl, Iff.rfl⟩

/-! ### A selection pass -/

theorem keeps_reap (housed : table.Housed) (slot : Slot) :
    Keeps (table.process slot) (table.reap.process slot) := by
  rw [process_reap]
  split
  · rename_i ended
    have bare : (table.process slot).stack = none :=
      (housed slot).mpr (Or.inr (Or.inr ended.2))
    exact ⟨bare.symm, fun _ => Or.inr ended.2, fun _ => Or.inl rfl⟩
  · exact ⟨rfl, Iff.rfl⟩

theorem keeps_switchTo (apart : slot ≠ table.current) (ready : (table.process slot).state = .ready)
    (other : Slot) : Keeps (table.process other) ((table.switchTo slot).process other) := by
  rw [Selectable.process_switchTo apart]
  have calm := ProcessEntry.not_isGone .ready ready (by decide) (by decide)
  split
  · rename_i here
    rw [here]
    have running := ProcessEntry.not_isGone .running
      (rfl : ({ table.process slot with state := .running } : ProcessEntry).state = _)
      (by decide) (by decide)
    exact Keeps.of_live rfl calm running
  · split
    · rename_i paused
      obtain ⟨rfl, runs⟩ := paused
      have running := ProcessEntry.not_isGone .running runs (by decide) (by decide)
      have waiting := ProcessEntry.not_isGone .ready
        (rfl : ({ table.process table.current with state := .ready } : ProcessEntry).state = _)
        (by decide) (by decide)
      exact Keeps.of_live rfl running waiting
    · exact ⟨rfl, Iff.rfl⟩

/-- **A selection pass moves no stack.** -/
theorem Selectable.keeps (selectable : table.Selectable) (housed : table.Housed) (slot : Slot) :
    Keeps (table.process slot) (table.select.process slot) := by
  obtain ⟨reaped, _⟩ := selectable.reap
  unfold ProcessTable.select
  split
  · cases chosen : table.reap.choice? with
    | none => exact keeps_reap housed slot
    | some next =>
      have ready := reaped.ready_of_choice chosen
      have apart := reaped.apart_of_ready ready
      exact (keeps_reap housed slot).trans (keeps_switchTo apart ready slot)
  · exact ⟨rfl, Iff.rfl⟩

theorem Housed.select (housed : table.Housed) (selectable : table.Selectable) :
    table.select.Housed := housed.keep (selectable.keeps housed)

theorem Selectable.stackOf_select (selectable : table.Selectable) (housed : table.Housed) :
    table.select.stackOf = table.stackOf := stackOf_keep (selectable.keeps housed)

theorem stackBytes_switchTo (table : ProcessTable) (slot : Slot) :
    (table.switchTo slot).stackBytes = table.stackBytes := by
  unfold ProcessTable.switchTo
  split <;> rfl

@[simp] theorem stackBytes_select (table : ProcessTable) :
    table.select.stackBytes = table.stackBytes := by
  have reaped : table.reap.stackBytes = table.stackBytes := by
    simp only [reap]
  unfold ProcessTable.select
  cases table.reap.choice? with
  | none =>
    split
    · exact reaped
    · rfl
  | some slot =>
    split
    · exact (stackBytes_switchTo table.reap slot).trans reaped
    · rfl

/-! ### One slot -/

theorem stackOf_put (table : ProcessTable) (slot : Slot) (process : ProcessEntry) :
    (table.put slot process).stackOf = Function.update table.stackOf slot process.stack := by
  funext other
  by_cases same : other = slot
  · subst same
    rw [Function.update_self, stackOf, process_put_same]
  · rw [Function.update_of_ne same, stackOf, process_put_other same]
    rfl

theorem Housed.put (housed : table.Housed) (user : slot ≠ ownSlot)
    (fits : process.stack = none ↔ process.isGone) : (table.put slot process).Housed := by
  intro other
  by_cases same : other = slot
  · subst same
    rw [stackOf, process_put_same, fits]
    exact ⟨Or.inr, fun either => either.resolve_left user⟩
  · rw [stackOf, process_put_other same]
    exact housed other

/-- A table with only the kernel's process has no stacks. -/
theorem housed_create (stackBytes now : Nat) :
    (create stackBytes now).Housed ∧ (create stackBytes now).stackOf = fun _ => none := by
  have bare : ∀ slot, (create stackBytes now).stackOf slot = none := by
    intro slot
    rw [stackOf, process_create]
    split <;> rfl
  refine ⟨fun slot => ⟨fun _ => ?_, fun _ => bare slot⟩, funext bare⟩
  rw [process_create]
  split
  · rename_i own
    exact Or.inl own
  · exact Or.inr (Or.inl rfl)

end ProcessTable

end MiniKernel
