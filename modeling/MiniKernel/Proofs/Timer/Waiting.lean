/-
**A wait ends.**

* `Wait.Halting` — what a wait asks of its halts: each one ends, with the counter higher than
  before.
* `Wait.reachWithin_ends` — a wait for a count ends no earlier than it is reached, after finitely
  many halts; `Wait.sleep_ends` — so does a wait for milliseconds.
-/

import Mathlib.Logic.Relation
import MiniKernel.Timer.Wait

namespace MiniKernel

variable {σ ε : Type} {timer : σ → Timer} {halt : Action σ ε Unit} {moves : σ → σ → Prop}
  {state : σ}

/-- A counter with room for one more tick counts it. -/
theorem Timer.advance_apply {timer : Timer} (room : timer.ticks + 1 < longLimit) :
    (advance : Action Timer ε Nat) timer =
      ⟨.ok (timer.ticks + 1), { timer with ticks := timer.ticks + 1 }, []⟩ := by
  have counted : (timer.ticks + 1) % longLimit = timer.ticks + 1 := Nat.mod_eq_of_lt room
  refine Action.bind_steps (Action.get_apply _) (Action.bind_steps (Action.modify_apply _ _) ?_)
  rw [counted, Checked.add_eq_ok room]
  rfl

/-- So does one halt of a clock. -/
theorem Clock.halt_apply {clock : Clock} (room : clock.timer.ticks + 1 < longLimit) :
    (Clock.halt : Action Clock ε Unit) clock =
      ⟨.ok (), ⟨{ clock.timer with ticks := clock.timer.ticks + 1 },
        { clock.cpu with halts := clock.cpu.halts + 1 }⟩, []⟩ := by
  unfold Clock.halt Clock.onTimer
  simp only [Action.within_apply, Action.bind_apply, Action.modify_apply,
    Timer.advance_apply room, Action.pure_apply]
  rfl

namespace Wait

/-- **Every halt ends and raises the counter**, as long as the counter has room, and moves the state
no further than `moves` allows. -/
structure Halting (timer : σ → Timer) (halt : Action σ ε Unit) (moves : σ → σ → Prop) : Prop where
  ends : ∀ state, (timer state).ticks + 1 < longLimit →
    ∃ after effects, halt state = ⟨.ok (), after, effects⟩ ∧
      (timer state).ticks < (timer after).ticks ∧ moves state after

/-- What halts leave, one after the other. -/
inductive Left (halt : Action σ ε Unit) : List Effect → Prop
  | nothing : Left halt []
  | halted (state : σ) {effects : List Effect} (rest : Left halt effects) :
    Left halt ((halt state).effects ++ effects)

/-- **A wait for a count ends, and not before the count is reached.** -/
theorem Halting.reachWithin_ends (halting : Halting timer halt moves) {target limit : Nat}
    (room : target < longLimit) (enough : target ≤ (timer state).ticks + limit) :
    ∃ after effects, reachWithin timer halt target limit state = ⟨.ok (), after, effects⟩ ∧
      target ≤ (timer after).ticks ∧ Relation.ReflTransGen moves state after ∧
      Left halt effects := by
  induction limit generalizing state with
  | zero =>
    have reached : ¬ (timer state).ticks < target := Nat.not_lt.mpr enough
    refine ⟨state, [], ?_, enough, .refl, .nothing⟩
    rw [reachWithin, Action.bind_quiet (Action.get_apply state), if_neg reached, Action.pure_apply]
  | succ limit ih =>
    rw [reachWithin, Action.bind_quiet (Action.get_apply state)]
    by_cases short : (timer state).ticks < target
    · obtain ⟨middle, first, halts, higher, moved⟩ :=
        halting.ends state (Nat.lt_of_le_of_lt short room)
      have closer : target ≤ (timer middle).ticks + limit := by omega
      obtain ⟨after, rest, goes_on, reached, further, only⟩ := ih closer
      refine ⟨after, first ++ rest, ?_, reached, .head moved further, ?_⟩
      · rw [if_pos short]
        exact Action.bind_steps halts goes_on
      · have left : Left halt ((halt state).effects ++ rest) := .halted state only
        rw [halts] at left
        exact left
    · refine ⟨state, [], ?_, Nat.le_of_not_lt short, .refl, .nothing⟩
      rw [if_neg short, Action.pure_apply]

/-- A wait for milliseconds is one for the count that is so many whole ticks on, when the ticks fit
the counter. -/
theorem sleep_apply (halt : Action σ ε Unit) (state : σ) {milliseconds : Nat}
    (product : milliseconds * (timer state).frequency < longLimit)
    (room : (timer state).ticks + milliseconds * (timer state).frequency / 1000 < longLimit) :
    sleep timer halt milliseconds state =
      reachWithin timer halt
        ((timer state).ticks + milliseconds * (timer state).frequency / 1000)
        (milliseconds * (timer state).frequency / 1000) state := by
  have counted : ((timer state).ticksFor milliseconds : Answer ε Nat) =
      .ok (milliseconds * (timer state).frequency / 1000) := by
    rw [Timer.ticksFor, Checked.mul_eq_ok product]
    rfl
  unfold sleep ticks reach
  rw [Action.bind_quiet (Action.get_apply state), counted, Action.bind_quiet (Action.ask_apply _ _),
    Action.bind_quiet (Action.get_apply state), Checked.add_eq_ok room,
    Action.bind_quiet (Action.ask_apply _ _), Action.bind_quiet (Action.get_apply state),
    Nat.add_sub_cancel_left]

/-- **A wait for milliseconds ends** when the ticks in them fit the counter. -/
theorem Halting.sleep_ends (halting : Halting timer halt moves) (state : σ) {milliseconds : Nat}
    (product : milliseconds * (timer state).frequency < longLimit)
    (room : (timer state).ticks + milliseconds * (timer state).frequency / 1000 < longLimit) :
    ∃ after effects, sleep timer halt milliseconds state = ⟨.ok (), after, effects⟩ ∧
      (timer state).ticks + milliseconds * (timer state).frequency / 1000 ≤ (timer after).ticks ∧
      Relation.ReflTransGen moves state after ∧ Left halt effects := by
  rw [sleep_apply halt state product room]
  exact halting.reachWithin_ends room (Nat.le_refl _)

end Wait

end MiniKernel
