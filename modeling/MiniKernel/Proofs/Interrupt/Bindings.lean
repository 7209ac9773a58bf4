/-
**Every stub has a vector of its own.**

* `Dispatcher.gate_withGates` — a gate that was written is there, unless its vector is written
  again.
* `Stubs.nodup_gates` — with acceptable offsets no two stubs are bound to one vector.
* `Dispatcher.Bound` — each vector has the gate of its stub; `Dispatcher.bound_withGates` — binding
  the stubs makes it so, and `Dispatcher.Bound.covered` — then no vector in use is without a gate.
-/

import Mathlib.Data.List.Nodup
import MiniKernel.Proofs.Interrupt.Coverage
import MiniKernel.Proofs.Interrupt.Routing

namespace MiniKernel

/-! ### Gates written in order -/

namespace Dispatcher

variable {C : Type} {self : Dispatcher C} {gates : List (UInt8 × Gate)} {vector : UInt8}

/-- A gate nobody writes stays. -/
theorem gate_withGates_of_notMem (spared : vector ∉ gates.map Prod.fst) :
    (self.withGates gates).table.gate vector = self.table.gate vector := by
  induction gates generalizing self with
  | nil => rfl
  | cons bound gates ih =>
    rw [List.map_cons, List.mem_cons, not_or] at spared
    show ((self.withGate bound.1 bound.2).withGates gates).table.gate vector = _
    rw [ih spared.2]
    exact (GateTable.gate_set ..).trans (if_neg (Ne.symm spared.1))

/-- **A gate that was written is there**, if no vector is written twice. -/
theorem gate_withGates (once : (gates.map Prod.fst).Nodup) {gate : Gate}
    (written : (vector, gate) ∈ gates) : (self.withGates gates).table.gate vector = gate := by
  induction gates generalizing self with
  | nil => cases written
  | cons bound gates ih =>
    rw [List.map_cons, List.nodup_cons] at once
    cases written with
    | head =>
      show ((self.withGate vector gate).withGates gates).table.gate vector = _
      rw [gate_withGates_of_notMem once.1]
      exact (GateTable.gate_set ..).trans (if_pos rfl)
    | tail _ later =>
      show ((self.withGate bound.1 bound.2).withGates gates).table.gate vector = _
      exact ih once.2 later

end Dispatcher

/-! ### The vectors of the stubs -/

section Stubs

variable {windows : Windows} {stubs : Stubs}

theorem toNat_ofFin {limit : Nat} (small : limit ≤ 256) (number : Fin limit) :
    (UInt8.ofNat number).toNat = number := by
  rw [UInt8.toNat_ofNat']
  exact Nat.mod_eq_of_lt (Nat.lt_of_lt_of_le number.isLt small)

theorem ofFin_inj {limit : Nat} (small : limit ≤ 256) :
    Function.Injective fun number : Fin limit => UInt8.ofNat number := by
  intro number other same
  have numbers := congrArg UInt8.toNat same
  rw [toNat_ofFin small, toNat_ofFin small] at numbers
  exact Fin.ext numbers

/-- Two lines arrive on two vectors. -/
theorem Windows.place_inj (fits : windows.acceptable = true) :
    Function.Injective fun irq : Fin 16 => windows.place (UInt8.ofNat irq) := by
  have found : ∀ irq : Fin 16,
      windows.lineAt (windows.place (UInt8.ofNat irq)) = some (UInt8.ofNat irq) := fun irq =>
    (Windows.lineAt_eq_some_iff fits).mpr ⟨Dispatcher.known_ofNat irq.isLt, rfl⟩
  intro irq other same
  have lines := congrArg windows.lineAt same
  dsimp only at lines
  rw [found, found] at lines
  exact ofFin_inj (by decide) (Option.some_inj.mp lines)

/-- The vectors the gates of the stubs are on, in order. -/
theorem Stubs.vectors_gates (stubs : Stubs) (windows : Windows) :
    (stubs.gates windows).map Prod.fst =
      (List.finRange 32).map (fun vector : Fin 32 => UInt8.ofNat vector) ++
        ((List.finRange 16).map (fun irq : Fin 16 => windows.place (UInt8.ofNat irq)) ++
          stubs.systemCall.toList.map fun _ => systemCallVector) := by
  unfold Stubs.gates Stubs.exceptionGates Stubs.lineGates Stubs.callGates
  rw [List.map_append, List.map_append, List.map_map, List.map_map, List.map_map]
  rfl

/-- **With acceptable offsets no two stubs are bound to one vector.** -/
theorem Stubs.nodup_gates (fits : windows.acceptable = true) (stubs : Stubs) :
    ((stubs.gates windows).map Prod.fst).Nodup := by
  have call : ∀ vector ∈ stubs.systemCall.toList.map fun _ => systemCallVector,
      vector = systemCallVector :=
    fun vector member => (List.mem_map.mp member).elim fun _ bound => bound.2.symm
  have once : (stubs.systemCall.toList.map fun _ => systemCallVector).Nodup := by
    cases stubs.systemCall with
    | none => exact List.nodup_nil
    | some address => exact List.nodup_singleton _
  rw [Stubs.vectors_gates, List.nodup_append, List.nodup_append]
  refine ⟨(List.nodup_finRange 32).map (ofFin_inj (by decide)),
    ⟨(List.nodup_finRange 16).map (Windows.place_inj fits), once, ?_⟩, ?_⟩
  · rintro _ member _ also rfl
    obtain ⟨irq, _, placed⟩ := List.mem_map.mp member
    exact (Windows.place_apart fits (Dispatcher.known_ofNat irq.isLt)).2 (placed.trans (call _ also))
  · rintro _ member _ also rfl
    obtain ⟨vector, _, rfl⟩ := List.mem_map.mp member
    have low : (UInt8.ofNat vector).toNat < exceptionCount := by
      rw [toNat_ofFin (by decide)]
      exact vector.isLt
    rcases List.mem_append.mp also with line | called
    · obtain ⟨irq, _, placed⟩ := List.mem_map.mp line
      have high := (Windows.place_apart fits (Dispatcher.known_ofNat irq.isLt)).1
      rw [placed] at high
      exact absurd low (Nat.not_lt.mpr high)
    · rw [call _ called] at low
      revert low
      decide

end Stubs

namespace Dispatcher

variable {C : Type} {self : Dispatcher C} {stubs : Stubs}

/-- **Each vector has the gate of its stub**: exceptions theirs, lines theirs where they arrive, and
system calls theirs, if there is one. -/
structure Bound (dispatcher : Dispatcher C) (stubs : Stubs) : Prop where
  exceptions (vector : Fin 32) : dispatcher.table.gate (UInt8.ofNat vector) =
    ⟨stubs.exceptions.get vector, kernelSelector, kernelGate⟩
  lines (irq : Fin 16) : dispatcher.table.gate (dispatcher.windows.place (UInt8.ofNat irq)) =
    ⟨stubs.lines.get irq, kernelSelector, kernelGate⟩
  systemCall (address : UInt32) (given : stubs.systemCall = some address) :
    dispatcher.table.gate systemCallVector = ⟨address, kernelSelector, userGate⟩

/-- **Binding the stubs gives each vector the gate of its stub.** -/
theorem bound_withGates (fits : self.windows.acceptable = true) (stubs : Stubs) :
    Bound (self.withGates (stubs.gates self.windows)) stubs := by
  have there : ∀ {vector : UInt8} {gate : Gate}, (vector, gate) ∈ stubs.gates self.windows →
      (self.withGates (stubs.gates self.windows)).table.gate vector = gate :=
    gate_withGates (Stubs.nodup_gates fits stubs)
  have same : (self.withGates (stubs.gates self.windows)).windows = self.windows := by
    rw [withGates_frame]
  refine ⟨fun vector => there ?_, fun irq => ?_, fun address given => there ?_⟩
  · refine List.mem_append_left _ ?_
    unfold Stubs.exceptionGates
    exact List.mem_map.mpr ⟨vector, List.mem_finRange vector, rfl⟩
  · rw [same]
    refine there (List.mem_append_right _ (List.mem_append_left _ ?_))
    unfold Stubs.lineGates
    exact List.mem_map.mpr ⟨irq, List.mem_finRange irq, rfl⟩
  · refine List.mem_append_right _ (List.mem_append_right _ ?_)
    unfold Stubs.callGates
    rw [given]
    exact List.mem_singleton.mpr rfl

/-- **No vector in use is without a gate once the stubs are bound.** -/
theorem Bound.covered (bound : self.Bound stubs) : self.Covered := by
  have present : ∀ address, Gate.usable ⟨address, kernelSelector, kernelGate⟩ = true := fun address =>
    show (kernelGate &&& 0x80 != 0) = true by decide
  intro vector member
  rcases List.mem_append.mp member with exception | line
  · have low := mem_exceptionRange.mp exception
    have named : vector = UInt8.ofNat (⟨vector.toNat, low⟩ : Fin 32) := UInt8.ofNat_toNat.symm
    rw [named, bound.exceptions]
    exact present _
  · obtain ⟨irq, known, rfl⟩ := List.mem_map.mp line
    have there := bound.lines ⟨irq, List.mem_range.mp known⟩
    rw [there]
    exact present _

end Dispatcher

end MiniKernel
