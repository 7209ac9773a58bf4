/-
**Gates and the vector table.**

A gate tells the processor which code to enter on a vector: a 32-bit address, a code selector and an
attribute byte whose top bit says that the gate is present. The processor reads it as eight bytes,
with the address in two halves.

* `Gate.encode`, `Gate.decode` — a gate and its eight bytes.
* `Gate.decode_encode` — the bytes hold the gate.
* `GateTable` — a gate for each of the 256 vectors.
-/

import MiniKernel.Effect

namespace MiniKernel

/-- Exceptions take the first vectors. -/
def exceptionCount : Nat := 32

/-- Interrupt lines of the two chips together. -/
def lineCount : Nat := 16

/-- Bytes of a gate. -/
def gateBytes : Nat := 8

/-- The vector of system calls. -/
def systemCallVector : UInt8 := 0x80

/-- The code selector of the kernel. -/
def kernelSelector : UInt16 := 0x08

/-- Present 32-bit interrupt gate for the kernel. -/
def kernelGate : UInt8 := 0x8E

/-- Present 32-bit trap gate that user code may enter. -/
def userGate : UInt8 := 0xEF

/-- Where the processor goes on a vector. -/
structure Gate where
  address : UInt32 := 0
  selector : UInt16 := 0
  attributes : UInt8 := 0
  deriving DecidableEq, Repr

namespace Gate

/-- The gate of a vector nobody bound. -/
def missing : Gate := {}

/-- Whether the processor may use the gate. -/
def usable (gate : Gate) : Bool := gate.attributes &&& 0x80 != 0

/-- The eight bytes the processor reads. -/
def encode (gate : Gate) : List UInt8 :=
  [gate.address.toUInt8, (gate.address >>> 8).toUInt8, gate.selector.toUInt8,
    (gate.selector >>> 8).toUInt8, 0, gate.attributes, (gate.address >>> 16).toUInt8,
    (gate.address >>> 24).toUInt8]

/-- The gate that eight bytes hold; none for other lengths or a reserved byte that is not 0. -/
def decode : List UInt8 → Option Gate
  | [low0, low1, selector0, selector1, 0, attributes, high0, high1] =>
    some
      { address := low0.toUInt32 ||| low1.toUInt32 <<< 8 ||| high0.toUInt32 <<< 16 |||
          high1.toUInt32 <<< 24
        selector := selector0.toUInt16 ||| selector1.toUInt16 <<< 8
        attributes }
  | _ => none

theorem address_of_bytes (word : UInt32) :
    word.toUInt8.toUInt32 ||| (word >>> 8).toUInt8.toUInt32 <<< 8 |||
      (word >>> 16).toUInt8.toUInt32 <<< 16 ||| (word >>> 24).toUInt8.toUInt32 <<< 24 = word := by
  rw [← UInt32.toBitVec_inj]
  refine BitVec.eq_of_getLsbD_eq fun bit inside => ?_
  simp only [UInt32.toBitVec_or, UInt32.toBitVec_shiftLeft, UInt32.toBitVec_shiftRight,
    UInt8.toBitVec_toUInt32, UInt32.toBitVec_toUInt8, UInt32.toBitVec_ofNat,
    BitVec.shiftLeft_eq', BitVec.ushiftRight_eq', BitVec.reduceToNat, BitVec.reduceMod,
    BitVec.getLsbD_or, BitVec.getLsbD_shiftLeft, BitVec.getLsbD_ushiftRight,
    BitVec.getLsbD_setWidth]
  -- A bit is in the one byte whose eight bits reach over it.
  grind

theorem selector_of_bytes (word : UInt16) :
    word.toUInt8.toUInt16 ||| (word >>> 8).toUInt8.toUInt16 <<< 8 = word := by
  rw [← UInt16.toBitVec_inj]
  refine BitVec.eq_of_getLsbD_eq fun bit inside => ?_
  simp only [UInt16.toBitVec_or, UInt16.toBitVec_shiftLeft, UInt16.toBitVec_shiftRight,
    UInt8.toBitVec_toUInt16, UInt16.toBitVec_toUInt8, UInt16.toBitVec_ofNat,
    BitVec.shiftLeft_eq', BitVec.ushiftRight_eq', BitVec.reduceToNat, BitVec.reduceMod,
    BitVec.getLsbD_or, BitVec.getLsbD_shiftLeft, BitVec.getLsbD_ushiftRight,
    BitVec.getLsbD_setWidth]
  grind

/-- **The eight bytes of a gate hold the gate.** -/
theorem decode_encode (gate : Gate) : decode gate.encode = some gate := by
  obtain ⟨address, selector, attributes⟩ := gate
  unfold encode decode
  simp only [address_of_bytes, selector_of_bytes]

end Gate

/-- A gate for each vector. -/
structure GateTable where
  gates : Vector Gate 256 := Vector.replicate 256 Gate.missing

namespace GateTable

/-- The gate of a vector. -/
def gate (table : GateTable) (vector : UInt8) : Gate :=
  have inside : vector.toNat < 256 := vector.toNat_lt
  table.gates[vector.toNat]

/-- The table with one gate replaced. -/
def set (table : GateTable) (vector : UInt8) (gate : Gate) : GateTable where
  gates := table.gates.set vector.toNat gate vector.toNat_lt

/-- The first of some vectors whose gate is not present. -/
def firstUnbound (table : GateTable) (vectors : List UInt8) : Option UInt8 :=
  vectors.find? fun vector => !(table.gate vector).usable

/-- What the processor is told of a table: its last byte, and that it starts with vector 0. -/
def pointer : TableOperand where
  limit := UInt16.ofNat (256 * gateBytes - 1)
  first := 0

theorem gate_set (table : GateTable) (vector other : UInt8) (gate : Gate) :
    (table.set vector gate).gate other = if vector = other then gate else table.gate other := by
  simp only [GateTable.gate, set, Vector.getElem_set, UInt8.toNat_inj]

end GateTable

end MiniKernel
