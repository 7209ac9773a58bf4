/-
**Block headers and the chain they form.**

Every block opens with a header of four words inside the arena: the bytes of its payload, the offset
of the next block, flag bits of which the lowest says that the block is free, and the bytes its
owner asked for. Starting at offset 0, the `next` words link the blocks into a chain.

* `Arena.header`, `Arena.setHeader` — the header at an offset, read and written.
* `Arena.chain` — the blocks met along the chain, and what stopped the walk if it was not the
  end-of-chain mark.
* `Chain.find` — the walk that looks for a live block and goes no further than it must.
-/

import MiniKernel.Action
import MiniKernel.Refusal
import MiniKernel.Heap.Arena

namespace MiniKernel

/-- The `next` word of the last block. -/
def endOfChain : Nat := 4294967295

/-- The words a block opens with. -/
structure Header where
  /-- Bytes of the payload. -/
  size : Nat
  /-- Offset of the next block, or `endOfChain`. -/
  next : Nat
  /-- Bit 0 says that the block is free. -/
  flags : Nat
  /-- Bytes the owner asked for; 0 when free. -/
  requested : Nat
  deriving DecidableEq, Repr

namespace Header

/-- Whether bit 0 of the flags is set. -/
def isFree (header : Header) : Bool := header.flags % 2 == 1

/-- Header and payload together. -/
def span (header : Header) : Nat := headerBytes + header.size

/-- The header with bit 0 of the flags set and nothing asked for. -/
def freed (header : Header) : Header :=
  { header with flags := header.flags / 2 * 2 + 1, requested := 0 }

/-- The header with bit 0 of the flags cleared, for an owner that asked for `requested` bytes. -/
def taken (header : Header) (requested : Nat) : Header :=
  { header with flags := header.flags / 2 * 2, requested }

end Header

/-- A header and the offset it stands at. -/
structure Block extends Header where
  offset : Nat
  deriving DecidableEq, Repr

/-- The offset of a block's payload, by which its owner knows it. -/
def Block.payload (block : Block) : Nat := block.offset + headerBytes

/-- Where a block ends. -/
def Block.stop (block : Block) : Nat := block.offset + block.span

/-- The block of a header at `offset`. -/
def Header.at (header : Header) (offset : Nat) : Block := { toHeader := header, offset }

/-- The blocks met on a walk, and why the walk stopped short if it did. -/
structure Chain where
  blocks : List Block
  fault : Option Abort
  deriving DecidableEq, Repr

namespace Arena

/-- The header words at an offset, wherever they lie. -/
def header (arena : Arena) (offset : Nat) : Header where
  size := arena.word offset
  next := arena.word (offset + 4)
  flags := arena.word (offset + 8)
  requested := arena.word (offset + 12)

/-- Write the words of a header in order, up to the first that would cross the arena's end. -/
def setHeader (arena : Arena) (offset : Nat) (header : Header) : Arena :=
  (((arena.setWord offset header.size).setWord (offset + 4) header.next).setWord (offset + 8)
    header.flags).setWord (offset + 12) header.requested

/-- What stops an access to the header at an offset: its first word that crosses the arena's end. -/
def headerFault? (arena : Arena) (offset : Nat) : Option Abort :=
  if offset + headerBytes ≤ arena.size then none
  else
    let reach := if arena.size < offset + 4 then 4 else if arena.size < offset + 8 then 8
      else if arena.size < offset + 12 then 12 else 16
    some (.outOfRange (offset + reach) arena.size)

/-- What stops an access to `count` bytes from `offset` on. -/
def rangeFault? (arena : Arena) (offset count : Nat) : Option Abort :=
  if offset + count ≤ arena.size then none else some (.outOfRange (offset + count) arena.size)

/-- The chain from `offset` on, of at most `limit` blocks. -/
def chainFrom (arena : Arena) : Nat → Nat → Chain
  | 0, _ => ⟨[], some .endless⟩
  | limit + 1, offset =>
    match arena.headerFault? offset with
    | some fault => ⟨[], some fault⟩
    | none =>
      let header := arena.header offset
      if header.next = endOfChain then ⟨[header.at offset], none⟩
      else
        let rest := arena.chainFrom limit header.next
        ⟨header.at offset :: rest.blocks, rest.fault⟩

/-- The chain from offset 0. A walk with more blocks than the arena has bytes has come back to a
block it met before, and then never ends. -/
def chain (arena : Arena) : Chain := arena.chainFrom (arena.size + 1) 0

@[simp] theorem base_setHeader (arena : Arena) (offset : Nat) (header : Header) :
    (arena.setHeader offset header).base = arena.base := by
  simp [setHeader]

@[simp] theorem size_setHeader (arena : Arena) (offset : Nat) (header : Header) :
    (arena.setHeader offset header).size = arena.size := by
  simp [setHeader]

/-- A byte outside a written header stays. -/
theorem byte_setHeader_of_disjoint {arena : Arena} {offset other : Nat} {header : Header}
    (apart : other < offset ∨ offset + headerBytes ≤ other) :
    (arena.setHeader offset header).byte other = arena.byte other := by
  simp only [setHeader, headerBytes] at *
  rw [byte_setWord_of_disjoint (by omega), byte_setWord_of_disjoint (by omega),
    byte_setWord_of_disjoint (by omega), byte_setWord_of_disjoint (by omega)]

/-- A header inside the arena reads back as it was written. -/
theorem header_setHeader {arena : Arena} {offset : Nat} {header : Header}
    (inside : offset + headerBytes ≤ arena.size) (size_fits : header.size < wordLimit)
    (next_fits : header.next < wordLimit) (flags_fit : header.flags < wordLimit)
    (requested_fits : header.requested < wordLimit) :
    (arena.setHeader offset header).header offset = header := by
  simp only [headerBytes] at inside
  cases header
  simp only [setHeader, Arena.header, Header.mk.injEq] at *
  refine ⟨?_, ?_, ?_, ?_⟩
  · rw [word_setWord_of_disjoint (by omega), word_setWord_of_disjoint (by omega),
      word_setWord_of_disjoint (by omega), word_setWord (by omega) size_fits]
  · rw [word_setWord_of_disjoint (by omega), word_setWord_of_disjoint (by omega),
      word_setWord (by simp; omega) next_fits]
  · rw [word_setWord_of_disjoint (by omega), word_setWord (by simp; omega) flags_fit]
  · rw [word_setWord (by simp; omega) requested_fits]

end Arena

namespace Chain

variable {ε : Type}

/-- All blocks, when the walk came to the end of the chain. -/
def complete (chain : Chain) : Answer ε (List Block) :=
  match chain.fault with
  | none => .ok chain.blocks
  | some fault => .abort fault

/-- The live block at `target`, looked for along blocks that lie no further. -/
def findAmong (target : Nat) (fault : Option Abort) : List Block → Answer HeapRefusal Block
  | [] =>
    match fault with
    | none => .refuse .invalidAddress
    | some fault => .abort fault
  | block :: rest =>
    if target < block.offset then .refuse .invalidAddress
    else if block.offset = target ∧ block.isFree = false then .ok block
    else findAmong target fault rest

/-- The live block at `target`. -/
def find (chain : Chain) (target : Nat) : Answer HeapRefusal Block :=
  findAmong target chain.fault chain.blocks

end Chain

end MiniKernel
