/-
**What stands in a history.**

A history lists what happened, the latest first.

* `Standing` — something was done, and nothing since has undone it.
* `standing_cons` — what one more event makes of it.
-/

import Mathlib.Logic.Basic

namespace MiniKernel

variable {ε : Type} {does undoes : ε → Prop}

/-- **Something was done, and nothing since has undone it.** -/
def Standing (history : List ε) (does undoes : ε → Prop) : Prop :=
  ∃ since event before, history = since ++ event :: before ∧ does event ∧
    ∀ later ∈ since, ¬ undoes later

@[simp] theorem standing_nil : ¬ Standing [] does undoes := by
  rintro ⟨since, event, before, split, _⟩
  cases since <;> cases split

/-- **What stands after one more event**: what the event did, and what stood and was not undone. -/
theorem standing_cons {event : ε} {history : List ε} :
    Standing (event :: history) does undoes ↔
      does event ∨ ¬ undoes event ∧ Standing history does undoes := by
  constructor
  · rintro ⟨since, done, before, split, did, kept⟩
    cases since with
    | nil =>
      obtain ⟨rfl, _⟩ := List.cons.inj split
      exact Or.inl did
    | cons latest since =>
      obtain ⟨rfl, earlier⟩ := List.cons.inj split
      exact Or.inr ⟨kept event List.mem_cons_self, since, done, before, earlier, did,
        fun later member => kept later (List.mem_cons_of_mem _ member)⟩
  · rintro (did | ⟨still, since, done, before, rfl, did, kept⟩)
    · exact ⟨[], event, history, rfl, did, fun _ member => absurd member List.not_mem_nil⟩
    · exact ⟨event :: since, done, before, rfl, did, List.forall_mem_cons.mpr ⟨still, kept⟩⟩

end MiniKernel
