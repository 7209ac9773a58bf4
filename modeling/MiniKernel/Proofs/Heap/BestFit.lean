/-
**The best fit is exact.**

* `Heap.Fittest` — the smallest free block that holds a number of bytes, the first one among equals;
  `Heap.fittest_of_bestFitAmong` — this is the block that the search finds.
* `Heap.roomAmong` — the room of the largest free block; `Heap.roomAmong_lt_iff` — what it says
  about each of them, and `Heap.Regular.roomAmong_lt_iff` — in a heap of whole words a search fails
  exactly where the bytes asked for exceed it.
* `Heap.Divided` — what a block becomes when bytes of it are handed out.
* `Heap.best_fit` — **an allocation is refused exactly where it has to be, and otherwise divides the
  fittest block and leaves every other one as it was.**
-/

import MiniKernel.Proofs.Heap.Integrity

namespace MiniKernel

-- A written header is known by its lemmas only.
seal Arena.setHeader

namespace Heap

variable {heap : Heap} {block : Block} {blocks : List Block} {ledger : Ledger}
  {length start stop wanted size : Nat}

/-! ### The search -/

/-- **The free block that a request of `wanted` bytes is due**: none that holds them is smaller, and
none of its size stands before it. -/
structure Fittest (blocks : List Block) (wanted : Nat) (block : Block) : Prop where
  member : block ∈ blocks
  free : block.isFree = true
  fits : wanted ≤ block.size
  least : ∀ other ∈ blocks, other.isFree = true → wanted ≤ other.size →
    block.size < other.size ∨ block.size = other.size ∧ block.offset ≤ other.offset

theorem lt_of_bestFitAmong_eq_none (missing : bestFitAmong wanted blocks = none) :
    ∀ block ∈ blocks, block.isFree = true → block.size < wanted := by
  induction blocks with
  | nil => exact nofun
  | cons head rest ih =>
    unfold bestFitAmong at missing
    by_cases fitting : head.isFree = true ∧ wanted ≤ head.size
    · rw [if_pos fitting] at missing
      split at missing
      · split at missing <;> cases missing
      · cases missing
    · rw [if_neg fitting] at missing
      refine List.forall_mem_cons.mpr ⟨fun free => ?_, ih missing⟩
      exact Nat.lt_of_not_le fun fits => fitting ⟨free, fits⟩

/-- A block that is smaller than all that hold the bytes behind it, or as small as the first of
them, is due before them. -/
theorem Fittest.head {rest : List Block} (tiles : Tiles length start (block :: rest) stop)
    (free : block.isFree = true) (fits : wanted ≤ block.size)
    (small : ∀ other ∈ rest, other.isFree = true → wanted ≤ other.size →
      block.size ≤ other.size) : Fittest (block :: rest) wanted block := by
  refine ⟨List.mem_cons_self, free, fits, List.forall_mem_cons.mpr ⟨fun _ _ => ?_, ?_⟩⟩
  · exact Or.inr ⟨rfl, le_rfl⟩
  · intro other member other_free holds
    have behind := (tiles.2.2.bounds member).1
    rw [block.stop_eq] at behind
    rcases (small other member other_free holds).lt_or_eq with less | same
    · exact Or.inl less
    · exact Or.inr ⟨same, by omega⟩

/-- A block due among the later ones is due among all, unless the first one holds the bytes and is
no larger. -/
theorem Fittest.cons {head : Block} (fittest : Fittest blocks wanted block)
    (larger : head.isFree = true → wanted ≤ head.size → block.size < head.size) :
    Fittest (head :: blocks) wanted block :=
  ⟨List.mem_cons_of_mem _ fittest.member, fittest.free, fittest.fits,
    List.forall_mem_cons.mpr ⟨fun free holds => Or.inl (larger free holds), fittest.least⟩⟩

/-- **The search finds the block that is due.** -/
theorem fittest_of_bestFitAmong (tiles : Tiles length start blocks stop)
    (chosen : bestFitAmong wanted blocks = some block) : Fittest blocks wanted block := by
  induction blocks generalizing start block with
  | nil => cases chosen
  | cons head rest ih =>
    have later := tiles.2.2
    unfold bestFitAmong at chosen
    by_cases fitting : head.isFree = true ∧ wanted ≤ head.size
    · rw [if_pos fitting] at chosen
      cases found : bestFitAmong wanted rest with
      | none =>
        rw [found] at chosen
        cases chosen
        refine .head tiles fitting.1 fitting.2 fun other member free holds => ?_
        exact absurd holds (Nat.not_le.mpr (lt_of_bestFitAmong_eq_none found other member free))
      | some other =>
        rw [found] at chosen
        have fittest := ih later found
        by_cases smaller : other.size < head.size
        · simp only [if_pos smaller] at chosen
          cases chosen
          exact fittest.cons fun _ _ => smaller
        · simp only [if_neg smaller] at chosen
          cases chosen
          refine .head tiles fitting.1 fitting.2 fun third member free holds => ?_
          have least := fittest.least third member free holds
          omega
    · rw [if_neg fitting] at chosen
      exact (ih later chosen).cons fun free holds => absurd ⟨free, holds⟩ fitting

/-! ### The largest room -/

/-- The payload bytes of the largest free block; 0 when none is free. -/
def roomAmong (blocks : List Block) : Nat :=
  ((blocks.filter (·.isFree)).map (·.size)).foldr max 0

theorem blocks_eq {ε : Type} (tiled : heap.arena.Tiled blocks) :
    (heap.blocks : Answer ε (List Block)) = .ok blocks := by
  rw [Heap.blocks, tiled.chain_eq]
  rfl

theorem largestRoom_eq {ε : Type} (tiled : heap.arena.Tiled blocks) :
    (heap.largestRoom : Answer ε Nat) = .ok (roomAmong blocks) := by
  show heap.arena.chain.complete >>= _ = _
  rw [tiled.chain_eq]
  rfl

/-- **The largest room is too small exactly where every free block is.** -/
theorem roomAmong_lt_iff (positive : 0 < size) :
    roomAmong blocks < size ↔ ∀ block ∈ blocks, block.isFree = true → block.size < size := by
  unfold roomAmong
  induction blocks with
  | nil => simpa using positive
  | cons head rest ih =>
    rw [List.forall_mem_cons, ← ih]
    cases free : head.isFree with
    | true => simp [free]
    | false => simp [free]

/-- No free block is larger than the whole arena. -/
theorem Sound.roomAmong_le_total (sound : heap.Sound blocks) : roomAmong blocks ≤ heap.total := by
  refine Nat.le_of_lt_succ ((Heap.roomAmong_lt_iff (Nat.succ_pos _)).mpr fun block member _ => ?_)
  have within := sound.tiled.bounds member
  rw [block.stop_eq] at within
  unfold total
  omega

/-- **In a heap of whole words** the bytes asked for need no more room than they do rounded up, so a
search fails exactly where they exceed the largest room. -/
theorem Regular.roomAmong_lt_iff (regular : heap.Regular blocks) (positive : size ≠ 0) :
    roomAmong blocks < size ↔
      heap.total < size ∨ bestFitAmong (roundUp size) blocks = none := by
  constructor
  · rw [Heap.roomAmong_lt_iff (Nat.pos_of_ne_zero positive)]
    intro small
    cases chosen : bestFitAmong (roundUp size) blocks with
    | none => exact Or.inr rfl
    | some block =>
      obtain ⟨member, free, fits⟩ := bestFitAmong_mem chosen
      have rounded := le_roundUp size
      have short := small block member free
      omega
  · rintro (large | missing)
    · exact lt_of_le_of_lt regular.toSound.roomAmong_le_total large
    · refine (Heap.roomAmong_lt_iff (Nat.pos_of_ne_zero positive)).mpr fun block member free => ?_
      have short := lt_of_bestFitAmong_eq_none missing block member free
      have aligned := (regular.tidy block member).aligned
      unfold roundUp at short
      rw [alignment] at aligned
      omega

/-! ### What a block becomes -/

/-- **The block handed out of another, and what is left over of that.** Enough for a header and 16
bytes becomes a free block behind the `wanted` bytes; less than that goes along with them. -/
structure Divided (block : Block) (wanted size : Nat) (handed : Block) (rest : List Block) :
    Prop where
  offset : handed.offset = block.offset
  live : handed.isFree = false
  requested : handed.requested = size
  split : wanted + 32 ≤ block.size → handed.size = wanted ∧ ∃ tail, rest = [tail] ∧
    tail.offset = block.offset + 16 + wanted ∧ tail.size = block.size - wanted - 16 ∧
    tail.isFree = true ∧ tail.requested = 0
  whole : block.size < wanted + 32 → handed.size = block.size ∧ rest = []

theorem divided_carve (block : Block) (wanted size : Nat) :
    Divided block wanted size (block.handed wanted size) (block.leftover wanted) := by
  have threshold : wanted + headerBytes + smallestPayload = wanted + 32 := rfl
  refine ⟨block.offset_handed .., block.isFree_handed .., block.requested_handed ..,
    fun enough => ?_, fun little => ?_⟩
  · unfold Block.handed Block.leftover
    rw [threshold, if_pos enough, if_pos enough]
    exact ⟨rfl, block.tail wanted, rfl, rfl, rfl, rfl, rfl⟩
  · unfold Block.handed Block.leftover
    rw [threshold, if_neg (Nat.not_le.mpr little), if_neg (Nat.not_le.mpr little)]
    exact ⟨rfl, rfl⟩

/-! ### Allocation -/

/-- An allocation for which there is no room is refused. -/
theorem Regular.allocate_short (regular : heap.Regular blocks) (positive : size ≠ 0)
    (short : roomAmong blocks < size) :
    ∃ effects, allocate size heap = ⟨.error (.refused .outOfMemory), heap, effects⟩ := by
  obtain ⟨effects, _, run⟩ := Heap.allocate_short regular.tiled positive
    ((regular.roomAmong_lt_iff positive).mp short)
  exact ⟨effects, run⟩

/-- One for which there is room is served, unless the count of allocations is full. -/
theorem Regular.allocate_fits (regular : heap.Regular blocks) (positive : size ≠ 0)
    (within : size ≤ roomAmong blocks)
    (going : heap.allocations + 1 < longLimit ∨ (allocate size heap).result.Returns) :
    ∃ front block back after, blocks = front ++ block :: back ∧
      bestFitAmong (roundUp size) blocks = some block ∧
      heap.HandedOut front block back (roundUp size) size after ∧
      allocate size heap = ⟨.ok ⟨block.payload⟩, after, []⟩ := by
  rcases allocate_cases regular.toSound size going with ⟨zero, _⟩ | ⟨_, short, _⟩ | ⟨_, _, handed⟩
  · exact absurd zero positive
  · have refused := (regular.roomAmong_lt_iff positive).mpr short
    exact absurd within (Nat.not_le.mpr refused)
  · exact handed

/-- **Which requests are refused, and as what.** -/
theorem Regular.allocate_refused_iff (regular : heap.Regular blocks) (cause : HeapRefusal) :
    (allocate size heap).result = .error (.refused cause) ↔
      (size = 0 ∧ cause = .invalidSize) ∨
      (size ≠ 0 ∧ roomAmong blocks < size ∧ cause = .outOfMemory) := by
  by_cases zero : size = 0
  · rw [zero, allocate_zero]
    simpa using eq_comm
  by_cases short : roomAmong blocks < size
  · obtain ⟨effects, run⟩ := regular.allocate_short zero short
    rw [run]
    simpa [zero, short] using eq_comm
  · simp only [zero, short, false_and, and_false, or_false, iff_false]
    intro refused
    have returns := Answer.returns_refused (α := Handle) cause
    rw [← refused] at returns
    obtain ⟨_, _, _, _, _, _, _, run⟩ :=
      regular.allocate_fits zero (Nat.le_of_not_lt short) (Or.inr returns)
    rw [run] at refused
    cases refused

/-- A request that was served asked for something, and there was room for it. -/
theorem Regular.within_of_allocate {handle : Handle} (regular : heap.Regular blocks)
    (given : (allocate size heap).result = .ok handle) :
    size ≠ 0 ∧ size ≤ roomAmong blocks := by
  have unrefused : ∀ cause, (allocate size heap).result ≠ .error (.refused cause) := by
    rw [given]
    exact fun cause refused => by cases refused
  have positive : size ≠ 0 := fun zero =>
    unrefused .invalidSize ((regular.allocate_refused_iff _).mpr (Or.inl ⟨zero, rfl⟩))
  refine ⟨positive, Nat.le_of_not_lt fun short => unrefused .outOfMemory ?_⟩
  exact (regular.allocate_refused_iff _).mpr (Or.inr ⟨positive, short, rfl⟩)

/-- **The best fit is exact.** In every heap that is met, a request for nothing is invalid, and one
that exceeds the largest room is refused for want of memory, with the heap as it was. Any other one
is answered with the payload of the smallest free block that holds the bytes in whole words, the
first one among equals. That block alone is divided; the counters move by the span handed out. The
kernel stops instead where the count of allocations is full. -/
theorem best_fit (reached : heap.Reached ledger) (size : Nat) :
    ∃ blocks room, (heap.blocks : Answer HeapRefusal (List Block)) = .ok blocks ∧
      (heap.largestRoom : Answer HeapRefusal Nat) = .ok room ∧
      ((allocate size heap).result = .error (.refused .invalidSize) ↔ size = 0) ∧
      ((allocate size heap).result = .error (.refused .outOfMemory) ↔ size ≠ 0 ∧ room < size) ∧
      (size = 0 ∨ room < size → (allocate size heap).state = heap) ∧
      (size ≠ 0 → size ≤ room →
        ((allocate size heap).result.Returns ↔ heap.allocations + 1 < longLimit)) ∧
      (size ≠ 0 → size ≤ room → heap.allocations + 1 < longLimit →
        ∃ front block back handed rest after, blocks = front ++ block :: back ∧
          Fittest blocks (roundUp size) block ∧
          allocate size heap = ⟨.ok ⟨block.payload⟩, after, []⟩ ∧
          (after.blocks : Answer HeapRefusal (List Block)) =
            .ok (front ++ handed :: rest ++ back) ∧
          Divided block (roundUp size) size handed rest ∧
          after.used = heap.used + handed.span ∧ after.free + handed.span = heap.free ∧
          after.allocations = heap.allocations + 1 ∧ after.releases = heap.releases) := by
  obtain ⟨blocks, honours⟩ := reached.honours
  have regular := honours.toRegular
  refine ⟨blocks, _, blocks_eq regular.tiled, largestRoom_eq regular.tiled, ?_, ?_, ?_,
    fun positive within => ⟨fun returns => ?_, fun countable => ?_⟩,
    fun positive within countable => ?_⟩
  · simp [regular.allocate_refused_iff]
  · simp [regular.allocate_refused_iff]
  · rintro (rfl | short)
    · rw [allocate_zero]
    · obtain ⟨effects, run⟩ := regular.allocate_short (Nat.ne_zero_of_lt short) short
      rw [run]
  · obtain ⟨_, _, _, _, _, _, out, _⟩ := regular.allocate_fits positive within (Or.inr returns)
    exact out.countable
  · obtain ⟨_, _, _, _, _, _, _, run⟩ := regular.allocate_fits positive within (Or.inl countable)
    rw [run]
    exact Answer.returns_ok _
  · obtain ⟨front, block, back, after, rfl, chosen, out, run⟩ :=
      regular.allocate_fits positive within (Or.inl countable)
    exact ⟨front, block, back, _, _, after, rfl,
      fittest_of_bestFitAmong regular.tiled.tiles chosen, run, blocks_eq out.tiled,
      divided_carve block (roundUp size) size, out.used, out.free, out.allocations, out.releases⟩

/-- Room for three blocks of 16 bytes. -/
def roomyRegion : Region where
  address := 0
  bytes := Array.replicate 96 0
  addressable := by decide +kernel

/-- The heap made of it. -/
def roomyHeap : Heap := ofArena ((Arena.ofRegion? roomyRegion).get (by decide +kernel))

theorem create_roomyRegion :
    ((create roomyRegion : Action Unit HeapRefusal Heap) ()).result = .ok roomyHeap :=
  create_eq_ok_iff.mpr ⟨_, (Option.some_get _).symm, rfl⟩

/-- Two of the three blocks were handed out, and the first was taken back. -/
def pittedHeap : Heap :=
  [Request.allocate 16, .allocate 16, .release ⟨16⟩].foldl
    (fun heap request => (request.perform heap).state)
    (ofArena ((Arena.ofRegion? roomyRegion).get (by decide +kernel)))

theorem reached_pittedHeap : ∃ ledger, pittedHeap.Reached ledger := by
  have served : ∀ {heap : Heap} {ledger : Ledger} (request : Request) (reply : Reply),
      (request.perform heap).result = .ok reply → heap.Reached ledger →
        ∃ ledger, (request.perform heap).state.Reached ledger := by
    intro heap ledger request reply answers reached
    exact ⟨_, reached.step request (answers.symm ▸ Answer.returns_ok _)⟩
  obtain ⟨_, one⟩ :=
    served (.allocate 16) (.handle ⟨16⟩) (by decide +kernel) (.fresh create_roomyRegion)
  obtain ⟨_, two⟩ := served (.allocate 16) (.handle ⟨48⟩) (by decide +kernel) one
  exact served (.release ⟨16⟩) .done (by decide +kernel) two

/-- Of two pits of 16 bytes the first is handed out for 10, and there is no room for 17. -/
theorem best_fit_pittedHeap :
    pittedHeap.allocations + 1 < longLimit ∧
      (∃ after, allocate 10 pittedHeap = ⟨.ok ⟨16⟩, after, []⟩ ∧
        after.allocations = pittedHeap.allocations + 1) ∧
      (allocate 17 pittedHeap).result = .error (.refused .outOfMemory) := by
  obtain ⟨_, reached⟩ := reached_pittedHeap
  have countable : pittedHeap.allocations + 1 < longLimit := by decide +kernel
  have listed : (pittedHeap.blocks : Answer HeapRefusal (List Block)) =
      .ok [⟨⟨16, 32, 1, 0⟩, 0⟩, ⟨⟨16, 64, 0, 16⟩, 32⟩, ⟨⟨16, endOfChain, 1, 0⟩, 64⟩] := by
    decide +kernel
  have largest : (pittedHeap.largestRoom : Answer HeapRefusal Nat) = .ok 16 := by decide +kernel
  refine ⟨countable, ?_, ?_⟩
  · obtain ⟨blocks, room, is_listed, is_room, _, _, _, _, given⟩ := best_fit reached 10
    obtain rfl := Except.ok.inj (listed.symm.trans is_listed)
    obtain rfl := Except.ok.inj (largest.symm.trans is_room)
    obtain ⟨_, block, _, _, _, after, _, fittest, run, _, _, _, _, counted, _⟩ :=
      given (by decide) (by decide) countable
    have first : block.size < 16 ∨ block.size = 16 ∧ block.offset ≤ 0 :=
      fittest.least ⟨⟨16, 32, 1, 0⟩, 0⟩ (by decide) rfl (by decide)
    have fits := fittest.fits
    have lowest : block.offset = 0 := by
      have rounded : roundUp 10 = 16 := rfl
      omega
    refine ⟨after, ?_, counted⟩
    rw [run, block.payload_eq, lowest]
  · obtain ⟨blocks, room, _, is_room, _, short, _⟩ := best_fit reached 17
    obtain rfl := Except.ok.inj (largest.symm.trans is_room)
    exact short.mpr (by decide)

end Heap

end MiniKernel
