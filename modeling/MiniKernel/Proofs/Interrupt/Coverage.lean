/-
**No vector in use is without a gate, unless somebody took it away.**

The table is loaded only when every exception and every line has a present gate. Afterwards gates may
still be written, and the lines moved; a request that does so *lapses* when it leaves a vector in use
without a present gate.

* `Dispatcher.Covered` — every vector in use has a present gate.
* `Dispatcher.Course.covered` — one request keeps that unless it lapses, and loading the table
  establishes it.
* `Dispatcher.Reached` — the dispatchers met in a run, with the lapses since the table was loaded.
* `Dispatcher.live_covered` — **with interrupts on and no lapse every vector in use has a present
  gate**; `Dispatcher.live_uncovered` — one lapse is enough to lose it.
-/

import Mathlib.Data.List.Chain
import MiniKernel.Proofs.Interrupt.Requests

namespace MiniKernel

namespace Dispatcher

variable {C : Type} {self before after : Dispatcher C} {request : Dispatcher.Request}
  {result : Answer DispatchRefusal Dispatcher.Reply} {effects : List Effect}

/-! ### Coverage -/

/-- **Every vector in use has a present gate.** -/
def Covered (self : Dispatcher C) : Prop :=
  ∀ vector ∈ self.required, (self.table.gate vector).usable = true

theorem covered_iff_firstUnbound : self.Covered ↔ self.table.firstUnbound self.required = none := by
  unfold Covered GateTable.firstUnbound
  rw [List.find?_eq_none]
  refine forall₂_congr fun vector _ => ?_
  rw [Bool.not_eq_true, Bool.not_eq_false']

/-- A gate may be written if it is present or its vector is not in use. -/
theorem Covered.withGate (covered : self.Covered) {vector : UInt8} {gate : Gate}
    (spares : gate.usable = true ∨ vector ∉ self.required) : (self.withGate vector gate).Covered := by
  intro other member
  show ((self.table.set vector gate).gate other).usable = true
  rw [GateTable.gate_set]
  split
  · rename_i same
    subst same
    exact spares.resolve_right fun unused => unused member
  · exact covered other member

theorem Covered.withGates (covered : self.Covered) {gates : List (UInt8 × Gate)}
    (usable : ∀ bound ∈ gates, bound.2.usable = true) : (self.withGates gates).Covered := by
  induction gates generalizing self with
  | nil => exact covered
  | cons bound gates ih =>
    refine ih (covered.withGate (Or.inl (usable bound List.mem_cons_self))) fun other member => ?_
    exact usable other (List.mem_cons_of_mem _ member)

/-- The gates of the stubs are present. -/
theorem usable_of_mem_gates {stubs : Stubs} {windows : Windows} {bound : UInt8 × Gate}
    (member : bound ∈ stubs.gates windows) : bound.2.usable = true := by
  unfold Stubs.gates Stubs.exceptionGates Stubs.lineGates Stubs.callGates at member
  simp only [List.mem_append, List.mem_map] at member
  rcases member with ⟨_, _, rfl⟩ | ⟨_, _, rfl⟩ | ⟨_, _, rfl⟩
  · show (kernelGate &&& 0x80 != 0) = true
    decide
  · show (kernelGate &&& 0x80 != 0) = true
    decide
  · show (userGate &&& 0x80 != 0) = true
    decide

/-! ### One request -/

/-- **A request that leaves every vector in use with its gate**: an accepted gate is present or for a
vector that is not in use, and lines move to bound vectors only. -/
def Request.Keeps (self : Dispatcher C) : Request → Prop
  | .bindGate vector gate =>
    self.stage = .live ∨ gate.usable = true ∨ vector ∉ self.required
  | .rebindGate vector gate => gate.usable = true ∨ vector ∉ self.required
  | .remap master slave => Windows.acceptable ⟨master, slave⟩ = true →
    ∀ vector ∈ Windows.places ⟨master, slave⟩, (self.table.gate vector).usable = true
  | _ => True

/-- **A request that keeps the gates keeps a loaded table covered**, and loading covers it. -/
theorem Course.covered [Controller C] (course : before.Course request result after effects)
    (keeps : request.Keeps before) (covered : before.stage ≠ .down → before.Covered) :
    after.stage ≠ .down → after.Covered := by
  cases course with
  | refused | stuck | registered | lineRegistered | unregistered | lineEnabled | lineDisabled =>
    exact covered
  | bound idle =>
    exact fun up => (covered up).withGate (keeps.resolve_left idle)
  | rebound =>
    unfold regated
    split <;> exact fun up => (covered up).withGate keeps
  | stubbed idle =>
    intro up
    rw [withGates_frame] at up
    exact (covered up).withGates fun bound => usable_of_mem_gates
  | moved fits driven =>
    intro up vector member
    rcases List.mem_append.mp member with exception | line
    · exact covered up vector (List.mem_append_left _ exception)
    · exact keeps fits vector line
  | loaded idle whole => exact fun _ => covered_iff_firstUnbound.mpr whole
  | armed loaded | enabled loaded =>
    refine fun _ => covered ?_
    rw [loaded]
    decide

/-- A table that was just loaded is covered. -/
theorem Course.covered_of_loaded [Controller C]
    (course : before.Course .loadGates (.ok .done) after effects) : after.Covered := by
  cases course with
  | loaded idle whole => exact covered_iff_firstUnbound.mpr whole

/-! ### Runs -/

/-- **The dispatchers met in a run from a fresh one, with the lapses since the table was loaded**: the
requests that did not keep the gates. -/
inductive Reached [Controller C] : Dispatcher C → List Request → Prop
  | fresh (controller : C) : Reached { controller } []
  | loaded {self : Dispatcher C} {lapses : List Request} (reached : Reached self lapses)
    (answers : (Request.loadGates.perform self).result = .ok .done) :
    Reached (Request.loadGates.perform self).state []
  | kept {self : Dispatcher C} {lapses : List Request} (reached : Reached self lapses)
    (request : Request) (keeps : request.Keeps self) :
    Reached (request.perform self).state lapses
  | lapsed {self : Dispatcher C} {lapses : List Request} (reached : Reached self lapses)
    (request : Request) (breaks : ¬request.Keeps self) :
    Reached (request.perform self).state (lapses ++ [request])

variable [Controller C] {lapses : List Dispatcher.Request}

theorem Reached.acceptable (reached : Reached self lapses) : self.windows.acceptable = true := by
  induction reached with
  | fresh controller => exact Windows.acceptable_standard
  | loaded _ _ ih => exact (perform_course ih .loadGates).acceptable ih
  | kept _ request _ ih | lapsed _ request _ ih => exact (perform_course ih request).acceptable ih

/-- Once loaded, a table without a lapse is covered. -/
theorem Reached.covered (reached : Reached self lapses) (whole : lapses = [])
    (up : self.stage ≠ .down) : self.Covered := by
  induction reached with
  | fresh controller => exact absurd rfl up
  | loaded reached answers _ =>
    have course := perform_course reached.acceptable .loadGates
    rw [answers] at course
    exact course.covered_of_loaded
  | kept reached request keeps ih =>
    exact (perform_course reached.acceptable request).covered keeps (ih whole) up
  | lapsed =>
    exact absurd whole (List.append_ne_nil_of_right_ne_nil _ (List.cons_ne_nil _ _))

/-- **With interrupts on, and no lapse since the table was loaded, every exception and every line has
a present gate.** -/
theorem live_covered (reached : Reached self []) (live : self.stage = .live) :
    (∀ vector : UInt8, vector.toNat < exceptionCount → (self.table.gate vector).usable = true) ∧
    ∀ irq : UInt8, irq.toNat < lineCount → ∃ vector,
      (self.windows.vector irq : Answer DispatchRefusal UInt8) = .ok vector ∧
      (self.table.gate vector).usable = true := by
  have up : self.stage ≠ .down := by
    rw [live]
    decide
  have covered := reached.covered rfl up
  refine ⟨fun vector exception => ?_, fun irq known => ?_⟩
  · exact covered vector (List.mem_append_left _ (mem_exceptionRange.mpr exception))
  · refine ⟨_, Windows.vector_eq_ok reached.acceptable known, ?_⟩
    refine covered _ (List.mem_append_right _ (List.mem_map.mpr ⟨irq.toNat, ?_, ?_⟩))
    · exact List.mem_range.mpr known
    · rw [UInt8.ofNat_toNat]

/-- A dispatcher over a stored mask with its stubs bound. -/
def boundSample : Dispatcher StoredMask :=
  ((Request.bindStubs ⟨.replicate 32 0x1000, .replicate 16 0x2000, none⟩).perform
    { controller := {} }).state

/-- The same with interrupts on. -/
def liveSample : Dispatcher StoredMask :=
  (Request.enable.perform (Request.loadGates.perform boundSample).state).state

theorem reached_liveSample : Reached liveSample [] := by
  have bound : Reached boundSample [] := by
    unfold boundSample
    exact (Reached.fresh (⟨0⟩ : StoredMask)).kept (.bindStubs _) True.intro
  have answers : (Request.loadGates.perform boundSample).result = .ok .done := by
    decide +kernel
  exact (bound.loaded answers).kept .enable True.intro

theorem stage_liveSample : liveSample.stage = .live := by
  decide +kernel

/-- The last line has a present gate once interrupts are on. -/
theorem live_covered_liveSample : (Reached liveSample [] ∧ liveSample.stage = .live) ∧
    (liveSample.table.gate 0x2F).usable = true := by
  refine ⟨⟨reached_liveSample, stage_liveSample⟩, ?_⟩
  obtain ⟨vector, placed, usable⟩ :=
    (live_covered reached_liveSample stage_liveSample).2 15 (by decide)
  have here : liveSample.windows = .standard := by
    decide +kernel
  rw [here] at placed
  cases placed
  exact usable

/-- **A gate taken away with the flag clear leaves line 1 without one while interrupts are on.** -/
theorem live_uncovered :
    ¬∀ (self : Dispatcher StoredMask) (lapses : List Request), Reached self lapses →
      self.stage = .live →
      (∀ vector : UInt8, vector.toNat < exceptionCount → (self.table.gate vector).usable = true) ∧
      ∀ irq : UInt8, irq.toNat < lineCount → ∃ vector,
        (self.windows.vector irq : Answer DispatchRefusal UInt8) = .ok vector ∧
        (self.table.gate vector).usable = true := by
  intro always
  have breaks : ¬(Request.rebindGate 0x21 Gate.missing).Keeps liveSample := by
    refine not_or.mpr ⟨by decide, not_not_intro ?_⟩
    decide +kernel
  have after := reached_liveSample.lapsed _ breaks
  have live : ((Request.rebindGate 0x21 Gate.missing).perform liveSample).state.stage = .live := by
    decide +kernel
  have here : ((Request.rebindGate 0x21 Gate.missing).perform liveSample).state.windows =
      .standard := by
    decide +kernel
  obtain ⟨vector, placed, usable⟩ := (always _ _ after live).2 1 (by decide)
  rw [here] at placed
  cases placed
  revert usable
  decide +kernel

end Dispatcher

end MiniKernel
