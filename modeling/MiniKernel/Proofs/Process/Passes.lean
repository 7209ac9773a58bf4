/-
**What a selection pass leaves in each slot.**

* `ProcessTable.Selectable.process_select` — every slot after a pass: an ended process is cleared
  away, the chosen one runs, one that ran until then is ready, and all others are as they were.
* `ProcessTable.Selectable.chosen` — who is chosen was ready, or ran already.
* `ProcessTable.mem_selectNotices` — which processes a pass reports as cleared away.
-/

import MiniKernel.Proofs.Process.Consistency

namespace MiniKernel

namespace ProcessTable

variable {table : ProcessTable} {slot : Slot} {pid : Nat}

/-! ### A pass that is off -/

theorem select_off (off : table.enabled = false) : table.select = table := by
  unfold select
  rw [if_neg (by simp [off])]

theorem selectNotices_off (off : table.enabled = false) : table.selectNotices = [] := by
  unfold selectNotices
  rw [if_neg (by simp [off])]

/-! ### A pass that is on -/

theorem nextNumber_switchTo (table : ProcessTable) (slot : Slot) :
    (table.switchTo slot).nextNumber = table.nextNumber := by
  unfold ProcessTable.switchTo
  split <;> rfl

@[simp] theorem nextNumber_select (table : ProcessTable) :
    table.select.nextNumber = table.nextNumber := by
  unfold select
  split
  · split
    · rw [nextNumber_switchTo, nextNumber_reap]
    · exact table.nextNumber_reap
  · rfl

/-- **A pass keeps whoever runs, or switches to the slot it chose.** -/
theorem select_cases (on : table.enabled = true) :
    (table.reap.choice? = none ∧ table.select = table.reap) ∨
      ∃ slot, table.reap.choice? = some slot ∧ table.select = table.reap.switchTo slot := by
  unfold select
  rw [if_pos on]
  cases table.reap.choice? with
  | none => exact Or.inl ⟨rfl, rfl⟩
  | some slot => exact Or.inr ⟨slot, rfl, rfl⟩

namespace Selectable

/-- **Who is chosen was ready, or ran already.** -/
theorem chosen (selectable : table.Selectable) (on : table.enabled = true) :
    table.select.current ≠ table.current ∧ (table.process table.select.current).state = .ready ∨
      table.select.current = table.current ∧
        (table.process table.current).state = .running := by
  obtain ⟨reaped, _⟩ := selectable.reap
  have current : table.reap.process table.current = table.process table.current := by
    rw [process_reap, if_neg fun both => both.1 rfl]
  rcases select_cases on with ⟨stays, same⟩ | ⟨slot, choice, switched⟩
  · have runs := running_of_choice stays
    rw [current_reap, current] at runs
    rw [same, current_reap]
    exact Or.inr ⟨rfl, runs⟩
  · have ready := reaped.ready_of_choice choice
    have apart := reaped.apart_of_ready ready
    rw [current_reap] at apart
    have here : table.select.current = slot := by
      rw [switched]
      rfl
    rw [process_reap] at ready
    split at ready
    · cases ready
    · rw [here]
      exact Or.inl ⟨apart, ready⟩

/-- **Every slot after a pass.** -/
theorem process_select (selectable : table.Selectable) (on : table.enabled = true) (slot : Slot) :
    table.select.process slot =
      if slot ≠ table.current ∧ (table.process slot).state = .zombie then ProcessEntry.vacant
      else if slot = table.select.current then { table.process slot with state := .running }
      else if slot = table.current ∧ (table.process slot).state = .running then
        { table.process slot with state := .ready }
      else table.process slot := by
  obtain ⟨reaped, _⟩ := selectable.reap
  have current : table.reap.process table.current = table.process table.current := by
    rw [process_reap, if_neg fun both => both.1 rfl]
  rcases select_cases on with ⟨stays, same⟩ | ⟨next, choice, switched⟩
  · have runs := running_of_choice stays
    rw [current_reap, current] at runs
    rw [same, process_reap, current_reap]
    by_cases here : slot = table.current
    · subst here
      rw [if_neg fun both => both.1 rfl, if_neg fun both => both.1 rfl, if_pos rfl, ← runs]
    · simp [here]
  · have ready := reaped.ready_of_choice choice
    have apart := reaped.apart_of_ready ready
    have moved : table.select.current = next := by
      rw [switched]
      rfl
    rw [moved, switched, process_switchTo apart, current_reap, current]
    rw [current_reap] at apart
    rw [process_reap] at ready ⊢
    by_cases here : slot = next
    · subst here
      split at ready
      · cases ready
      · rename_i kept
        rw [if_pos rfl, if_neg kept, if_pos rfl, if_neg kept]
    · rw [if_neg here, if_neg here]
      by_cases paused : slot = table.current
      · subst paused
        simp [process_reap]
      · simp [paused, process_reap]

end Selectable

/-- **Which processes a pass reports as cleared away.** -/
theorem mem_selectNotices : .processReaped pid ∈ table.selectNotices ↔
    table.enabled = true ∧ ∃ slot, slot ≠ table.current ∧
      (table.process slot).state = .zombie ∧ (table.process slot).pid = pid := by
  cases on : table.enabled with
  | false => simp [selectNotices_off on]
  | true =>
    have listed : .processReaped pid ∈
          table.ended.map (fun slot => Notice.processReaped (table.process slot).pid) ↔
        ∃ slot, slot ≠ table.current ∧ (table.process slot).state = .zombie ∧
          (table.process slot).pid = pid := by
      simp [ended, slotOrder, and_assoc]
    unfold selectNotices
    rw [if_pos on, List.mem_append, listed]
    simp only [true_and]
    refine or_iff_left fun switched => ?_
    cases chosen : table.reap.choice? with
    | none =>
      rw [chosen] at switched
      cases switched
    | some slot =>
      rw [chosen] at switched
      cases List.mem_singleton.mp switched

end ProcessTable

end MiniKernel
