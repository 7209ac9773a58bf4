/-
**The arena: one run of bytes with a machine address.**

A `Region` is any stretch of memory. An `Arena` is what the heap makes of one: it starts at an
address divisible by 8, its length is divisible by 8, it holds at least one smallest block, and
every offset in it fits a 32-bit word. Words are stored low byte first.

Native words are taken to have 64 bits. A header stores a size in 32 bits, so a header's length added
to a size, the span of a block, fits a native word whatever is stored; with native words of 32 bits
it could wrap around from 0xFFFFFFF0 on.

* `Arena.ofRegion?` — the arena inside a region, if there is room for one.
* `Arena.byte_store`, `Arena.size_store` — what one write does.
* `Arena.word_setWord`, `Arena.word_setWord_of_disjoint` — a word reads back as it was written, and
  no other word changes.
-/

import MiniKernel.Checked

namespace MiniKernel

/-- A stretch of memory that the machine can address, and the address right past it too. -/
structure Region where
  address : Nat
  bytes : Array UInt8
  addressable : address + bytes.size < longLimit

/-- The alignment of every block and payload. -/
def alignment : Nat := 8

/-- Bytes of a block header. -/
def headerBytes : Nat := 16

/-- The smallest payload worth a block of its own. -/
def smallestPayload : Nat := 16

/-- The longest arena whose offsets all fit a 32-bit word beside the end-of-chain mark. -/
def longestArena : Nat := 4294967288

/-- The least multiple of the alignment that is not below `size`. -/
def roundUp (size : Nat) : Nat := (size + 7) / 8 * 8

/-- The greatest multiple of the alignment that is not above `size`. -/
def roundDown (size : Nat) : Nat := size / 8 * 8

/-- The bytes the heap lives in. -/
structure Arena where
  /-- The machine address of the first byte. -/
  base : Nat
  bytes : Array UInt8
  base_aligned : base % 8 = 0
  size_aligned : bytes.size % 8 = 0
  size_ge : 32 ≤ bytes.size
  size_le : bytes.size ≤ longestArena
  addressable : base + bytes.size < longLimit

namespace Arena

/-- Number of bytes. -/
def size (arena : Arena) : Nat := arena.bytes.size

/-- The arena inside a region: leading bytes are skipped up to the alignment and the length is
rounded down to it. There is none if less than one smallest block is left. -/
def ofRegion? (region : Region) : Option Arena :=
  let lead := (8 - region.address % 8) % 8
  let length := min (roundDown (region.bytes.size - lead)) longestArena
  if room : 32 ≤ length then
    have fits : lead + length ≤ region.bytes.size := by
      simp only [length, roundDown] at room ⊢; omega
    have kept : (region.bytes.extract lead (lead + length)).size = length := by
      simp only [Array.size_extract]; omega
    some
      { base := region.address + lead
        bytes := region.bytes.extract lead (lead + length)
        base_aligned := by simp only [lead]; omega
        size_aligned := by rw [kept]; simp only [length, roundDown, longestArena]; omega
        size_ge := by rw [kept]; exact room
        size_le := by rw [kept]; simp only [length]; omega
        addressable := by have := region.addressable; rw [kept]; omega }
  else none

/-- The byte at an offset; 0 outside the arena. -/
def byte (arena : Arena) (offset : Nat) : UInt8 := arena.bytes[offset]?.getD 0

/-- Write one byte; nothing happens outside the arena. -/
def store (arena : Arena) (offset : Nat) (value : UInt8) : Arena where
  base := arena.base
  bytes := arena.bytes.setIfInBounds offset value
  base_aligned := arena.base_aligned
  size_aligned := by simpa using arena.size_aligned
  size_ge := by simpa using arena.size_ge
  size_le := by simpa using arena.size_le
  addressable := by simpa using arena.addressable

/-- Write a list of bytes from `offset` on. -/
def write (arena : Arena) (offset : Nat) : List UInt8 → Arena
  | [] => arena
  | value :: rest => (arena.store offset value).write (offset + 1) rest

/-- Write `count` copies of a byte from `offset` on. -/
def fill (arena : Arena) (offset : Nat) (value : UInt8) : Nat → Arena
  | 0 => arena
  | count + 1 => (arena.store offset value).fill (offset + 1) value count

/-- The `count` bytes from `offset` on. -/
def slice (arena : Arena) (offset count : Nat) : List UInt8 :=
  (List.range count).map fun step => arena.byte (offset + step)

/-- The 32-bit word at an offset, low byte first. -/
def word (arena : Arena) (offset : Nat) : Nat :=
  (arena.byte offset).toNat + 256 * (arena.byte (offset + 1)).toNat +
    65536 * (arena.byte (offset + 2)).toNat + 16777216 * (arena.byte (offset + 3)).toNat

/-- Write a 32-bit word, low byte first; nothing happens if it would cross the arena's end. -/
def setWord (arena : Arena) (offset value : Nat) : Arena :=
  if offset + 4 ≤ arena.size then
    (((arena.store offset (UInt8.ofNat value)).store (offset + 1)
      (UInt8.ofNat (value / 256))).store (offset + 2)
      (UInt8.ofNat (value / 65536))).store (offset + 3) (UInt8.ofNat (value / 16777216))
  else arena

/-! ### What a write does -/

@[simp] theorem base_store (arena : Arena) (offset : Nat) (value : UInt8) :
    (arena.store offset value).base = arena.base := rfl

@[simp] theorem size_store (arena : Arena) (offset : Nat) (value : UInt8) :
    (arena.store offset value).size = arena.size := by
  simp [size, store]

theorem byte_store (arena : Arena) (offset : Nat) (value : UInt8) (other : Nat) :
    (arena.store offset value).byte other =
      if offset = other ∧ other < arena.size then value else arena.byte other := by
  simp only [byte, store, size, Array.getElem?_setIfInBounds]
  by_cases same : offset = other
  · subst same
    by_cases inside : offset < arena.bytes.size <;> simp [inside]
  · simp [same]

@[simp] theorem base_setWord (arena : Arena) (offset value : Nat) :
    (arena.setWord offset value).base = arena.base := by
  unfold setWord; split <;> simp

@[simp] theorem size_setWord (arena : Arena) (offset value : Nat) :
    (arena.setWord offset value).size = arena.size := by
  unfold setWord; split <;> simp

theorem word_lt (arena : Arena) (offset : Nat) : arena.word offset < wordLimit := by
  have h0 := (arena.byte offset).toNat_lt
  have h1 := (arena.byte (offset + 1)).toNat_lt
  have h2 := (arena.byte (offset + 2)).toNat_lt
  have h3 := (arena.byte (offset + 3)).toNat_lt
  simp only [word, wordLimit]
  omega

/-- A byte outside a written word stays. -/
theorem byte_setWord_of_disjoint {arena : Arena} {offset value other : Nat}
    (apart : other < offset ∨ offset + 4 ≤ other) :
    (arena.setWord offset value).byte other = arena.byte other := by
  unfold setWord
  split
  · simp only [byte_store, size_store]
    repeat rw [if_neg (by omega)]
  · rfl

/-- The four bytes of a written word. -/
theorem byte_setWord {arena : Arena} {offset value step : Nat}
    (inside : offset + 4 ≤ arena.size) (among : step < 4) :
    (arena.setWord offset value).byte (offset + step) = UInt8.ofNat (value >>> (8 * step)) := by
  simp only [setWord, if_pos inside, byte_store, size_store]
  match step, among with
  | 0, _ => simp; omega
  | 1, _ => simp [Nat.shiftRight_eq_div_pow]; omega
  | 2, _ => simp [Nat.shiftRight_eq_div_pow]; omega
  | 3, _ => simp [Nat.shiftRight_eq_div_pow]; omega

/-- A word inside the arena reads back as it was written. -/
theorem word_setWord {arena : Arena} {offset value : Nat} (inside : offset + 4 ≤ arena.size)
    (fits : value < wordLimit) : (arena.setWord offset value).word offset = value := by
  have first : (arena.setWord offset value).byte (offset + 0) = UInt8.ofNat (value >>> (8 * 0)) :=
    byte_setWord inside (by decide)
  rw [Nat.add_zero] at first
  simp only [word]
  rw [first, byte_setWord inside (by decide), byte_setWord inside (by decide),
    byte_setWord inside (by decide)]
  simp only [UInt8.toNat_ofNat', Nat.shiftRight_eq_div_pow, wordLimit] at *
  omega

/-- A word apart from a written one stays. -/
theorem word_setWord_of_disjoint {arena : Arena} {offset value other : Nat}
    (apart : other + 4 ≤ offset ∨ offset + 4 ≤ other) :
    (arena.setWord offset value).word other = arena.word other := by
  simp only [word]
  rw [byte_setWord_of_disjoint (by omega), byte_setWord_of_disjoint (by omega),
    byte_setWord_of_disjoint (by omega), byte_setWord_of_disjoint (by omega)]

end Arena

end MiniKernel
