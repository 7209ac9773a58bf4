/-
**The entry stubs are installed, each on its vector.**

* `GateTable.Leads` — the table has a gate on a vector, and the processor reads that gate from its
  eight bytes.
* `Stubs.Names` — the vectors that stubs are for.
* `Dispatcher.Installed` — every stub has a present gate on its vector, and every other vector keeps
  the gate it had.
* `Dispatcher.bindStubs_installs` — **binding the stubs installs them**, whatever moves went before,
  and the table can be loaded then.
-/

import MiniKernel.Proofs.Interrupt.Bindings
import MiniKernel.Proofs.Interrupt.Placement

namespace MiniKernel

/-- **A vector leads to a gate**: the table has it there, and its eight bytes are read as it. -/
def GateTable.Leads (table : GateTable) (vector : UInt8) (gate : Gate) : Prop :=
  table.gate vector = gate ∧ Gate.decode (table.gate vector).encode = some gate

theorem GateTable.leads {table : GateTable} {vector : UInt8} {gate : Gate}
    (bound : table.gate vector = gate) : table.Leads vector gate := by
  refine ⟨bound, ?_⟩
  rw [bound]
  exact gate.decode_encode

/-! ### The vectors of the stubs -/

namespace Stubs

variable {windows : Windows} {stubs : Stubs} {vector : UInt8}

/-- **The vectors that stubs are for**: the exceptions, the vectors the lines arrive on, and the
vector of system calls if they have a stub. -/
inductive Names (stubs : Stubs) (windows : Windows) : UInt8 → Prop
  | exception {vector : UInt8} (low : vector.toNat < 32) : Names stubs windows vector
  | line {irq vector : UInt8} (known : irq.toNat < 16)
    (placed : (windows.vector irq : Answer DispatchRefusal UInt8) = .ok vector) :
    Names stubs windows vector
  | systemCall {address : UInt32} (given : stubs.systemCall = some address) :
    Names stubs windows 0x80

/-- **The gates of the stubs are on just these vectors.** -/
theorem mem_gates_iff (fits : windows.acceptable = true) :
    vector ∈ (stubs.gates windows).map Prod.fst ↔ stubs.Names windows vector := by
  rw [vectors_gates, List.mem_append, List.mem_append, List.mem_map, List.mem_map, List.mem_map]
  constructor
  · rintro (⟨number, -, rfl⟩ | ⟨irq, -, rfl⟩ | ⟨address, given, rfl⟩)
    · refine .exception ?_
      rw [toNat_ofFin (by decide)]
      exact number.isLt
    · have known := Dispatcher.known_ofNat irq.isLt
      exact .line known (Windows.vector_eq_ok fits known)
    · exact .systemCall (Option.mem_toList.mp given)
  · intro named
    cases named with
    | exception low =>
      exact Or.inl ⟨⟨vector.toNat, low⟩, List.mem_finRange _, UInt8.ofNat_toNat⟩
    | @line irq _ known placed =>
      rw [Windows.vector_eq_ok fits known, Except.ok.injEq] at placed
      refine Or.inr (Or.inl ⟨⟨irq.toNat, known⟩, List.mem_finRange _, ?_⟩)
      rw [UInt8.ofNat_toNat, placed]
    | @systemCall address given =>
      exact Or.inr (Or.inr ⟨address, Option.mem_toList.mpr given, rfl⟩)

end Stubs

/-! ### Installation -/

namespace Dispatcher

variable {C : Type} {self : Dispatcher C}

/-- **The stubs are installed**: each has a present gate on its vector, which the processor can read,
and nothing but these gates was changed. -/
structure Installed (before after : Dispatcher C) (stubs : Stubs) : Prop where
  exceptions (vector : Fin 32) : after.table.Leads (UInt8.ofNat vector)
    ⟨stubs.exceptions.get vector, 0x08, 0x8E⟩
  lines (irq : Fin 16) : ∃ vector,
    (before.windows.vector (UInt8.ofNat irq) : Answer DispatchRefusal UInt8) = .ok vector ∧
    after.table.Leads vector ⟨stubs.lines.get irq, 0x08, 0x8E⟩
  systemCall (address : UInt32) (given : stubs.systemCall = some address) :
    after.table.Leads 0x80 ⟨address, 0x08, 0xEF⟩
  spared (vector : UInt8) (other : ¬stubs.Names before.windows vector) :
    after.table.gate vector = before.table.gate vector
  frame : after = { before with table := after.table }

theorem installed_withGates (fits : self.windows.acceptable = true) (stubs : Stubs) :
    Installed self (self.withGates (stubs.gates self.windows)) stubs := by
  have bound := bound_withGates fits stubs
  have framed := withGates_frame (stubs.gates self.windows) self
  refine ⟨fun vector => GateTable.leads (bound.exceptions vector), fun irq => ?_,
    fun address given => GateTable.leads (bound.systemCall address given),
    fun vector other => gate_withGates_of_notMem ?_, framed⟩
  · have there := bound.lines irq
    rw [show (self.withGates (stubs.gates self.windows)).windows = self.windows by rw [framed]]
      at there
    exact ⟨_, Windows.vector_eq_ok fits (known_ofNat irq.isLt), GateTable.leads there⟩
  · exact fun member => other ((Stubs.mem_gates_iff fits).mp member)

variable [Controller C]

/-- **Binding the stubs installs them.** As long as interrupts are not let in, whatever moves of the
lines went before, one gate is written on each vector that a stub is for and none on any other. Each
stub is installed then, and the table can be loaded. -/
theorem bindStubs_installs (met : Met self) (idle : self.stage ≠ .live) (stubs : Stubs) :
    ∃ (after : Dispatcher C) (vectors : List UInt8),
      bindStubs stubs self = ⟨.ok (), after, vectors.map .gateWrite⟩ ∧
      vectors.Nodup ∧ (∀ vector, vector ∈ vectors ↔ stubs.Names self.windows vector) ∧
      Installed self after stubs ∧ (loadGates after).result = .ok () := by
  have fits := met.acceptable
  have installed := installed_withGates fits stubs
  have covered := (bound_withGates fits stubs).covered
  have placed : (self.withGates (stubs.gates self.windows)).windows = self.windows := by
    rw [installed.frame]
  have still : (self.withGates (stubs.gates self.windows)).stage ≠ .live := by
    rwa [installed.frame]
  refine ⟨_, (stubs.gates self.windows).map Prod.fst, ?_, Stubs.nodup_gates fits stubs,
    fun vector => Stubs.mem_gates_iff fits, installed, ?_⟩
  · rw [bindStubs_idle fits idle stubs, gateWrites, List.map_map]
    rfl
  · rw [loadGates_covered (by rwa [placed]) still (covered_iff_firstUnbound.mp covered)]

/-- Stubs at addresses with four different bytes, and none for system calls. -/
def plainStubs : Stubs := ⟨.replicate 32 0xC0102030, .replicate 16 0xC0405060, none⟩

/-- With the lines moved next to it the vector of system calls keeps its gate. -/
theorem bindStubs_installs_edgeSample :
    (Met edgeSample ∧ edgeSample.stage ≠ .live) ∧
    ∃ (after : Dispatcher ChipPair) (vectors : List UInt8),
      bindStubs plainStubs edgeSample = ⟨.ok (), after, vectors.map .gateWrite⟩ ∧
      after.table.Leads 0x7F ⟨0xC0405060, 0x08, 0x8E⟩ ∧
      after.table.gate 0x80 = edgeSample.table.gate 0x80 := by
  have met : Met edgeSample := (Met.fresh ({} : ChipPair) {}).asked (.remap 0xF0 0x78)
  have idle : edgeSample.stage ≠ .live := by
    decide +kernel
  have placed : edgeSample.windows = ⟨0xF0, 0x78⟩ := by
    decide +kernel
  obtain ⟨after, vectors, binds, -, -, installed, -⟩ := bindStubs_installs met idle plainStubs
  refine ⟨⟨met, idle⟩, after, vectors, binds, ?_, installed.spared _ fun named => ?_⟩
  · obtain ⟨vector, arrives, leads⟩ := installed.lines 15
    rw [placed] at arrives
    cases arrives
    exact leads
  · cases named with
    | exception low => exact absurd low (by decide)
    | line known arrives =>
      rw [Windows.vector_eq_ok met.acceptable known, Except.ok.injEq] at arrives
      exact (Windows.place_apart met.acceptable known).2 arrives
    | systemCall given => cases given

end Dispatcher

end MiniKernel
