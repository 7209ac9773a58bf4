/-
**The processes that can run take turns.**

A selection pass changes who runs, and never who can run. So the slots that run or are ready form
one fixed cycle, in table order, and every pass moves on by one place in it, whatever lies between.

* `ProcessTable.rotation` — the cycle. A pass goes on with the next slot in it
  (`Consistent.next_turn`) and keeps it (`rotation_of_turned`).
* `ProcessTable.turned` — what becomes of each slot. The first pass brings it about
  (`Consistent.process_select_eq`), and the next ones do no more (`turned_of_turned`).
* `ProcessTable.Turning` — what holds after every number of passes, by induction on it
  (`turning_iterate`).
* `ProcessTable.round_robin` — **any number of yields in a row**, and one turn for each slot of the
  cycle in as many yields as it has slots.
-/

import Mathlib.Data.List.Rotate
import MiniKernel.Proofs.Process.Passes
import MiniKernel.Proofs.Process.Turns

namespace MiniKernel

-- A selection pass is known by its lemmas only.
seal ProcessTable.select ProcessTable.selectNotices

namespace ProcessTable

variable {start table : ProcessTable} {slot next : Slot} {place : Nat}

/-! ### The cycle of those that can run -/

/-- Whether the process in a slot takes turns: it runs or is ready. -/
def takesTurns (table : ProcessTable) (slot : Slot) : Bool :=
  (table.process slot).state == .ready || (table.process slot).state == .running

/-- **The slots whose processes take turns**, in table order. -/
def rotation (table : ProcessTable) : List Slot := slotOrder.filter table.takesTurns

/-- The slots after one in cyclic order, that one excluded. -/
def behind (slot : Slot) : List Slot :=
  (List.range processLimit).map fun steps => stepFrom slot (steps + 1)

theorem mem_rotation : slot ∈ table.rotation ↔
    (table.process slot).state = .ready ∨ (table.process slot).state = .running := by
  simp [rotation, slotOrder, takesTurns]

theorem nodup_rotation (table : ProcessTable) : table.rotation.Nodup :=
  (List.nodup_finRange slotCount).filter _

theorem not_mem_behind : ∀ slot : Slot, slot ∉ behind slot := by
  decide

/-- The slots after one are those of the table behind it, and then those before it. -/
theorem slotOrder_around : ∀ slot : Slot,
    slotOrder = slotOrder.take slot ++ slot :: slotOrder.drop (slot + 1) ∧
      behind slot = slotOrder.drop (slot + 1) ++ slotOrder.take slot := by
  decide +kernel

/-- The cycle around one of its slots. -/
theorem rotation_around (member : slot ∈ table.rotation) :
    ∃ front back, table.rotation = front ++ slot :: back ∧
      (behind slot).filter table.takesTurns = back ++ front := by
  obtain ⟨order, after⟩ := slotOrder_around slot
  have turns : table.takesTurns slot = true := (List.mem_filter.mp member).2
  refine ⟨(slotOrder.take slot).filter table.takesTurns,
    (slotOrder.drop (slot + 1)).filter table.takesTurns, ?_, ?_⟩
  · rw [← List.filter_cons_of_pos turns, ← List.filter_append, ← order]
    rfl
  · rw [after, List.filter_append]

/-- The place after a slot in the cycle is that of the first slot behind it that takes turns, and
its own if there is no other. -/
theorem rotation_next (here : table.rotation[place]? = some slot) :
    table.rotation[(place + 1) % table.rotation.length]? =
      ((behind slot).filter table.takesTurns ++ [slot]).head? := by
  obtain ⟨front, back, shape, after⟩ := rotation_around (List.mem_of_getElem? here)
  obtain ⟨inside, _⟩ := List.getElem?_eq_some_iff.mp here
  have there : table.rotation[front.length]? = some slot := by
    rw [shape, List.getElem?_append_right (Nat.le_refl _), Nat.sub_self]
    rfl
  obtain rfl : place = front.length :=
    (List.getElem?_inj inside table.nodup_rotation).mp (here.trans there.symm)
  have turned : table.rotation.rotate (front.length + 1) = back ++ (front ++ [slot]) := by
    have whole := List.rotate_append_length_eq (front ++ [slot]) back
    rwa [List.length_append, List.length_singleton, List.append_assoc, List.singleton_append,
      ← shape] at whole
  rw [after, List.append_assoc, ← turned, List.head?_eq_getElem?,
    List.getElem?_rotate (Nat.zero_lt_of_lt inside), Nat.zero_add]

/-! ### One pass -/

/-- The state of a slot when the processor has gone to `current`: of those that take turns one runs
and the others are ready. -/
def turnedState (start : ProcessTable) (current slot : Slot) : RunState :=
  if slot = current then .running
  else if slot ∈ start.rotation then .ready
  else (start.process slot).state

/-- What becomes of a slot when the processor goes to `current`: an ended process is cleared away,
and any other one is in that state. -/
def turned (start : ProcessTable) (current slot : Slot) : ProcessEntry :=
  if (start.process slot).state = .zombie then ProcessEntry.vacant
  else { start.process slot with state := start.turnedState current slot }

namespace Consistent

theorem current_mem_rotation (consistent : table.Consistent) : table.current ∈ table.rotation :=
  mem_rotation.mpr (Or.inr consistent.running)

/-- **Every slot after a pass.** -/
theorem process_select_eq (consistent : table.Consistent) (on : table.enabled = true)
    (slot : Slot) : table.select.process slot = table.turned table.select.current slot := by
  rw [consistent.selectable.process_select on, turned]
  by_cases ended : (table.process slot).state = .zombie
  · have apart : slot ≠ table.current := by
      rintro rfl
      rw [consistent.running] at ended
      cases ended
    rw [if_pos ⟨apart, ended⟩, if_pos ended]
  rw [if_neg fun both => ended both.2, if_neg ended, turnedState]
  by_cases chosen : slot = table.select.current
  · rw [if_pos chosen, if_pos chosen]
  rw [if_neg chosen, if_neg chosen]
  by_cases runs : slot = table.current
  · subst runs
    rw [if_pos ⟨rfl, consistent.running⟩, if_pos consistent.current_mem_rotation]
  rw [if_neg fun both => runs both.1]
  split
  · rename_i member
    have ready := (mem_rotation.mp member).resolve_right fun running =>
      runs ((consistent.runs slot).mp running)
    rw [← ready]
  · rfl

/-- Once the ended processes are cleared away, those that are ready are those that take turns, the
current one apart. -/
theorem ready_reap_iff (consistent : table.Consistent) (apart : slot ≠ table.current) :
    ((table.reap.process slot).state == .ready) = table.takesTurns slot := by
  have still : (table.process slot).state ≠ .running := fun running =>
    apart ((consistent.runs slot).mp running)
  rw [process_reap, takesTurns, beq_false_of_ne still, Bool.or_false]
  split
  · rename_i ended
    rw [ended.2]
    rfl
  · rfl

/-- The running process goes on only where no other takes turns. -/
theorem choice_reap (consistent : table.Consistent) :
    table.reap.choice? = ((behind table.current).filter table.takesTurns).head? := by
  have running : table.reap.running.state = .running := by
    show (table.reap.process table.reap.current).state = .running
    rw [current_reap, process_reap, if_neg fun both => both.1 rfl, consistent.running]
  have first : table.reap.successor? =
      ((behind table.current).filter table.takesTurns).head? := by
    show (behind table.reap.current).find? _ = _
    rw [← List.head?_filter, current_reap]
    refine congrArg List.head? (List.filter_congr fun slot member => ?_)
    refine consistent.ready_reap_iff ?_
    rintro rfl
    exact not_mem_behind _ member
  rw [← first, choice?, if_pos running]
  cases table.reap.successor? <;> rfl

/-- **A pass goes on with the first slot behind the current one that takes turns**, and with the
current one if there is none. -/
theorem head_behind (consistent : table.Consistent) (on : table.enabled = true) :
    ((behind table.current).filter table.takesTurns ++ [table.current]).head? =
      some table.select.current := by
  rw [List.head?_append, ← consistent.choice_reap]
  rcases select_cases on with ⟨stays, same⟩ | ⟨slot, choice, switched⟩
  · rw [stays, same, current_reap]
    rfl
  · rw [choice, switched]
    rfl

/-- **A pass moves on by one place in the cycle.** -/
theorem next_turn (consistent : table.Consistent) (on : table.enabled = true)
    (here : table.rotation[place]? = some table.current) :
    table.rotation[(place + 1) % table.rotation.length]? = some table.select.current :=
  (rotation_next here).trans (consistent.head_behind on)

end Consistent

/-! ### Passes in a row -/

theorem state_of_mem_rotation (member : slot ∈ table.rotation) :
    (table.process slot).state ≠ .zombie := by
  intro ended
  rw [mem_rotation, ended] at member
  rcases member with ready | running
  · cases ready
  · cases running

/-- Who does not take turns is in the same state as before. -/
theorem turnedState_of_not_mem (among : next ∈ start.rotation) (out : slot ∉ start.rotation) :
    start.turnedState next slot = (start.process slot).state := by
  have apart : slot ≠ next := fun chosen => out (chosen ▸ among)
  rw [turnedState, if_neg apart, if_neg out]

/-- Who takes turns runs or is ready. -/
theorem turnedState_of_mem (next : Slot) (member : slot ∈ start.rotation) :
    start.turnedState next slot = if slot = next then .running else .ready := by
  rw [turnedState, if_pos member]

theorem turned_of_live (next : Slot) (live : (start.process slot).state ≠ .zombie) :
    start.turned next slot = { start.process slot with state := start.turnedState next slot } :=
  if_neg live

/-- **Turning keeps the cycle.** -/
theorem rotation_of_turned (among : next ∈ start.rotation)
    (turned : ∀ slot, table.process slot = start.turned next slot) :
    table.rotation = start.rotation := by
  refine List.filter_congr fun slot _ => ?_
  by_cases member : slot ∈ start.rotation
  · have counts : start.takesTurns slot = true := (List.mem_filter.mp member).2
    rw [counts, takesTurns, turned, turned_of_live next (state_of_mem_rotation member),
      turnedState_of_mem next member]
    split <;> rfl
  by_cases ended : (start.process slot).state = .zombie
  · rw [takesTurns, takesTurns, turned, ProcessTable.turned, if_pos ended, ended]
    rfl
  · rw [takesTurns, takesTurns, turned, turned_of_live next ended,
      turnedState_of_not_mem among member]

/-- **To turn twice is to turn once**, to where the processor goes last. -/
theorem turned_of_turned {current : Slot} (at_first : current ∈ start.rotation)
    (at_last : next ∈ start.rotation)
    (turned : ∀ slot, table.process slot = start.turned current slot) (slot : Slot) :
    table.turned next slot = start.turned next slot := by
  have same := rotation_of_turned at_first turned
  have among : next ∈ table.rotation := same.symm ▸ at_last
  by_cases ended : (start.process slot).state = .zombie
  · have cleared : table.process slot = ProcessEntry.vacant := (turned slot).trans (if_pos ended)
    have out : slot ∉ table.rotation := same.symm ▸ fun member => state_of_mem_rotation member ended
    rw [ProcessTable.turned, ProcessTable.turned, if_pos ended, turnedState_of_not_mem among out,
      cleared]
    rfl
  have kept := (turned slot).trans (turned_of_live current ended)
  have agree : (table.process slot).state ≠ .zombie ∧
      table.turnedState next slot = start.turnedState next slot := by
    by_cases member : slot ∈ start.rotation
    · have still : slot ∈ table.rotation := same.symm ▸ member
      rw [turnedState_of_mem next member, turnedState_of_mem next still]
      exact ⟨state_of_mem_rotation still, rfl⟩
    · have out : slot ∉ table.rotation := same.symm ▸ member
      rw [turnedState_of_not_mem among out, turnedState_of_not_mem at_last member, kept,
        turnedState_of_not_mem at_first member]
      exact ⟨ended, rfl⟩
  rw [turned_of_live next agree.1, turned_of_live next ended, agree.2, kept]

/-- **What holds after some passes in a row.** -/
structure Turning (start : ProcessTable) (place passes : Nat) (table : ProcessTable) : Prop where
  consistent : table.Consistent
  enabled : table.enabled = true
  current : start.rotation[(place + passes) % start.rotation.length]? = some table.current
  turned : ∀ slot, table.process slot = start.turned table.current slot

/-- The first pass. -/
theorem Turning.first (consistent : start.Consistent) (on : start.enabled = true)
    (here : start.rotation[place]? = some start.current) : start.Turning place 1 start.select where
  consistent := consistent.select
  enabled := (enabled_select start).trans on
  current := consistent.next_turn on here
  turned := consistent.process_select_eq on

/-- One pass more. -/
theorem Turning.further {passes : Nat} (turning : start.Turning place passes table) :
    start.Turning place (passes + 1) table.select := by
  have at_first := List.mem_of_getElem? turning.current
  have same := rotation_of_turned at_first turning.turned
  have here := turning.current
  rw [← same] at here
  have there := turning.consistent.next_turn turning.enabled here
  have at_last := List.mem_of_getElem? there
  rw [same] at there at_last
  refine ⟨turning.consistent.select, (enabled_select table).trans turning.enabled, ?_,
    fun slot => ?_⟩
  · rw [← there, Nat.mod_add_mod, Nat.add_assoc]
  · rw [turning.consistent.process_select_eq turning.enabled]
    exact turned_of_turned at_first at_last turning.turned slot

theorem turning_iterate (consistent : start.Consistent) (on : start.enabled = true)
    (here : start.rotation[place]? = some start.current) (passes : Nat) :
    start.Turning place (passes + 1) (select^[passes + 1] start) := by
  induction passes with
  | zero => exact .first consistent on here
  | succ passes ih =>
    rw [Function.iterate_succ_apply']
    exact ih.further

/-! ### One turn for each -/

/-- Where each step goes to the next place of a cycle, each of its slots is met once in as many steps
as it has slots. -/
theorem existsUnique_turn {cycle : List Slot} {current : Nat → Slot} (distinct : cycle.Nodup)
    (goes : ∀ passes, 0 < passes →
      cycle[(place + passes) % cycle.length]? = some (current passes))
    (member : slot ∈ cycle) (done : Nat) :
    ∃! passes, done < passes ∧ passes ≤ done + cycle.length ∧ current passes = slot := by
  -- The cycle as the steps behind `done` meet it.
  have met : ∀ step, step < cycle.length →
      (cycle.rotate (place + (done + 1)))[step]? = some (current (done + 1 + step)) := by
    intro step inside
    rw [List.getElem?_rotate inside, ← goes (done + 1 + step) (by omega)]
    congr 2
    omega
  obtain ⟨step, inside, there⟩ := List.mem_iff_getElem.mp
    (List.mem_rotate.mpr member : slot ∈ cycle.rotate (place + (done + 1)))
  have found := List.getElem?_eq_some_iff.mpr ⟨inside, there⟩
  have short : step < cycle.length := by rwa [List.length_rotate] at inside
  refine ⟨done + 1 + step, ⟨by omega, by omega, ?_⟩, ?_⟩
  · exact Option.some.inj ((met step short).symm.trans found)
  · rintro passes ⟨after, before, chosen⟩
    obtain ⟨other, rfl⟩ := Nat.exists_eq_add_of_le (Nat.succ_le_of_lt after)
    have again := met other (by omega)
    rw [chosen] at again
    have same := (List.getElem?_inj inside (List.nodup_rotate.mpr distinct)).mp
      (found.trans again.symm)
    omega

end ProcessTable

/-! ### Yields in a row -/

namespace Core

variable {ε : Type}

/-- Yield some number of times in a row. -/
def yields : Nat → Action Core ε Unit
  | 0 => return ()
  | count + 1 => do
    yields count
    yield

/-- Yields in a row make as many passes, and nothing else. -/
theorem yields_apply (heap : Heap) (table : ProcessTable) (count : Nat) : ∃ effects,
    (yields count : Action Core ε Unit) ⟨heap, table⟩ =
      ⟨.ok (), ⟨heap, ProcessTable.select^[count] table⟩, effects⟩ := by
  induction count with
  | zero => exact ⟨[], rfl⟩
  | succ count ih =>
    obtain ⟨effects, run⟩ := ih
    rw [Function.iterate_succ_apply']
    exact ⟨_, Action.bind_steps run (yield_apply _)⟩

end Core

namespace ProcessTable

variable {ε : Type} {start table : ProcessTable} {place passes : Nat}

/-- **What any number of passes in a row leaves**: the current slot is that many places further in
the cycle and runs alone, the others in the cycle are ready, ended processes are cleared away, and
apart from those no process changed in more than its state, nor in that one if it does not take
turns. -/
structure Rotated (start : ProcessTable) (place passes : Nat) (after : ProcessTable) : Prop where
  current : start.rotation[(place + passes) % start.rotation.length]? = some after.current
  runs : ∀ slot, (after.process slot).state = .running ↔ slot = after.current
  ready : ∀ slot ∈ start.rotation, slot ≠ after.current → (after.process slot).state = .ready
  cleared : ∀ slot, (start.process slot).state = .zombie →
    after.process slot = ProcessEntry.vacant
  kept : ∀ slot, (start.process slot).state ≠ .zombie →
    after.process slot = { start.process slot with state := (after.process slot).state }
  untouched : ∀ slot, slot ∉ start.rotation → (start.process slot).state ≠ .zombie →
    after.process slot = start.process slot

theorem Turning.rotated (turning : start.Turning place passes table) :
    start.Rotated place passes table := by
  have among := List.mem_of_getElem? turning.current
  refine ⟨turning.current, turning.consistent.runs, fun slot member apart => ?_,
    fun slot ended => ?_, fun slot live => ?_, fun slot out live => ?_⟩
  · rw [turning.turned, turned_of_live _ (state_of_mem_rotation member),
      turnedState_of_mem _ member, if_neg apart]
  · exact (turning.turned slot).trans (if_pos ended)
  · rw [turning.turned, turned_of_live _ live]
  · rw [turning.turned, turned_of_live _ live, turnedState_of_not_mem among out]

/-- **Round robin.** In every table that is reached with selection on, the slots that run or are
ready form a cycle in table order, the current one at some place in it. After any number of yields
in a row, at least one, the current slot is that many places further in the cycle: it alone runs, the
others in the cycle are ready, and nothing else has changed but that ended processes are cleared
away. So each slot of the cycle gets exactly one turn in as many yields in a row as the cycle has
slots, wherever one starts to count. -/
theorem round_robin (reached : table.Reached) (on : table.enabled = true) (heap : Heap) :
    ∃ place, table.rotation[place]? = some table.current ∧
      (∀ passes, 0 < passes → ∃ after effects,
        (Core.yields passes : Action Core ε Unit) ⟨heap, table⟩ =
          ⟨.ok (), ⟨heap, after⟩, effects⟩ ∧ table.Rotated place passes after) ∧
      ∀ slot ∈ table.rotation, ∀ done, ∃! passes, done < passes ∧
        passes ≤ done + table.rotation.length ∧
        ((Core.yields passes : Action Core ε Unit) ⟨heap, table⟩).state.processes.current =
          slot := by
  have consistent := reached.consistent
  obtain ⟨place, _, there⟩ := List.mem_iff_getElem.mp consistent.current_mem_rotation
  have here := List.getElem?_eq_some_iff.mpr ⟨_, there⟩
  have after_passes : ∀ passes, 0 < passes → ∃ after effects,
      (Core.yields passes : Action Core ε Unit) ⟨heap, table⟩ =
        ⟨.ok (), ⟨heap, after⟩, effects⟩ ∧ table.Rotated place passes after := by
    intro passes positive
    obtain ⟨less, rfl⟩ := Nat.exists_eq_succ_of_ne_zero (Nat.ne_of_gt positive)
    obtain ⟨effects, run⟩ := Core.yields_apply (ε := ε) heap table (less + 1)
    exact ⟨_, effects, run, (turning_iterate consistent on here less).rotated⟩
  refine ⟨place, here, after_passes, fun slot member done => ?_⟩
  have goes : ∀ passes, 0 < passes → table.rotation[(place + passes) % table.rotation.length]? =
      some ((Core.yields passes : Action Core ε Unit) ⟨heap, table⟩).state.processes.current := by
    intro passes positive
    obtain ⟨after, effects, run, rotated⟩ := after_passes passes positive
    rw [run]
    exact rotated.current
  exact existsUnique_turn table.nodup_rotation goes member done

/-- Of two processes the first runs until it blocks, and then the second does. -/
def gappedCore : Core :=
  [Core.Request.spawn "second" 128 .low 0, .yield, .block 1].foldl
    (fun core request => (request.perform core).state) smallCore

theorem reached_gappedCore : gappedCore.processes.Reached := by
  have served : ∀ {core : Core} (request : Core.Request) (reply : Core.Reply),
      (request.perform core).result = .ok reply → core.processes.Reached →
        (request.perform core).state.processes.Reached := by
    intro core request reply answers reached
    exact reached.step core.heap request (answers.symm ▸ Answer.returns_ok _)
  have one := served (.spawn "second" 128 .low 0) (.number 2) (by decide +kernel) reached_smallCore
  have two := served .yield .done (by decide +kernel) one
  exact served (.block 1) (.moved true) (by decide +kernel) two

/-- The kernel's process and the second take turns, whatever is in the slot between. -/
theorem round_robin_gappedCore :
    gappedCore.processes.Reached ∧ gappedCore.processes.enabled = true ∧
      (∃ after effects, (Core.yields 3 : Action Core ProcessRefusal Unit) gappedCore =
        ⟨.ok (), ⟨gappedCore.heap, after⟩, effects⟩ ∧ after.current = 0 ∧
        after.process 1 = gappedCore.processes.process 1) ∧
      ∃! passes, 5 < passes ∧ passes ≤ 5 + 2 ∧
        ((Core.yields passes : Action Core ProcessRefusal Unit)
          gappedCore).state.processes.current = 2 := by
  have on : gappedCore.processes.enabled = true := by decide +kernel
  have cycle : gappedCore.processes.rotation = [0, 2] := by decide +kernel
  have current : gappedCore.processes.current = 2 := by decide +kernel
  have blocked : (gappedCore.processes.process 1).state ≠ .zombie := by decide +kernel
  obtain ⟨place, here, runs, turns⟩ :=
    round_robin (ε := ProcessRefusal) reached_gappedCore on gappedCore.heap
  rw [cycle, current] at here
  obtain rfl : place = 1 :=
    ((List.getElem?_inj (by decide) (by decide : [(0 : Slot), 2].Nodup)).mp here.symm).symm
  refine ⟨reached_gappedCore, on, ?_, ?_⟩
  · obtain ⟨after, effects, run, rotated⟩ := runs 3 (by decide)
    have chosen := rotated.current
    rw [cycle] at chosen
    refine ⟨after, effects, run, (Option.some.inj chosen).symm, rotated.untouched 1 ?_ blocked⟩
    rw [cycle]
    decide
  · have once := turns 2 (by rw [cycle]; decide) 5
    rwa [cycle] at once

end ProcessTable

end MiniKernel
