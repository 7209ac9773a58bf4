/-
**Block lists standing in an arena.**

* `Arena.ChangedIn region before after` — `after` is `before` with other bytes inside `region` at
  most. Every write of the heap is one of these; they compose (`Arena.ChangedIn.trans`).
* `Arena.Tiled arena blocks` — the blocks tile the arena and their headers stand in it. The chain of
  a tiled arena is that list (`Arena.Tiled.chain_eq`), and rewriting one stretch of it leaves the
  rest in place (`Arena.Tiled.replace`). Bytes inside a payload do not matter to it
  (`Arena.Tiled.rewritten`).
* `Heap.Sound heap blocks` — the arena is tiled, free neighbours are merged and the counters are
  their sums. `Heap.verify_eq_ok_iff`: this is what `Heap.verify` checks.
* `Heap.locate_of_live`, `Heap.locate_eq_refuse` — which handles are accepted.
-/

import MiniKernel.Heap.Audit
import MiniKernel.Proofs.Heap.Tiling

namespace MiniKernel

/-! ### Arenas that differ in a region only -/

/-- **`after` is `before` with other bytes inside `region` at most.** -/
structure Arena.ChangedIn (region : Set Nat) (before after : Arena) : Prop where
  base : after.base = before.base
  size : after.size = before.size
  kept : ∀ offset, offset ∉ region → after.byte offset = before.byte offset

namespace Arena

variable {region wider : Set Nat} {before middle after : Arena}

theorem ChangedIn.refl (region : Set Nat) (arena : Arena) : ChangedIn region arena arena :=
  ⟨rfl, rfl, fun _ _ => rfl⟩

theorem ChangedIn.trans (first : ChangedIn region before middle)
    (second : ChangedIn region middle after) : ChangedIn region before after :=
  ⟨second.base.trans first.base, second.size.trans first.size, fun offset outside =>
    (second.kept offset outside).trans (first.kept offset outside)⟩

theorem ChangedIn.mono (changed : ChangedIn region before after) (inside : region ⊆ wider) :
    ChangedIn wider before after :=
  ⟨changed.base, changed.size, fun offset outside =>
    changed.kept offset fun member => outside (inside member)⟩

/-- A header none of whose bytes may have changed. -/
theorem ChangedIn.header (changed : ChangedIn region before after) {offset : Nat}
    (outside : ∀ step, step < headerBytes → offset + step ∉ region) :
    after.header offset = before.header offset := by
  have same : ∀ step, step < headerBytes →
      after.byte (offset + step) = before.byte (offset + step) :=
    fun step low => changed.kept _ (outside step low)
  have first : after.byte offset = before.byte offset := same 0 (by decide)
  simp only [Arena.header, word, Nat.add_assoc, Nat.reduceAdd, first]
  rw [same 1 (by decide), same 2 (by decide), same 3 (by decide), same 4 (by decide),
    same 5 (by decide), same 6 (by decide), same 7 (by decide), same 8 (by decide),
    same 9 (by decide), same 10 (by decide), same 11 (by decide), same 12 (by decide),
    same 13 (by decide), same 14 (by decide), same 15 (by decide)]

/-- A slice none of whose bytes may have changed. -/
theorem ChangedIn.slice (changed : ChangedIn region before after) {offset count : Nat}
    (outside : ∀ step, step < count → offset + step ∉ region) :
    after.slice offset count = before.slice offset count := by
  refine List.map_congr_left fun step inside => ?_
  exact changed.kept _ (outside step (List.mem_range.mp inside))

theorem changedIn_setHeader (arena : Arena) (offset : Nat) (header : Header) :
    ChangedIn (Set.Ico offset (offset + headerBytes)) arena (arena.setHeader offset header) := by
  refine ⟨base_setHeader .., size_setHeader .., fun other outside => ?_⟩
  apply byte_setHeader_of_disjoint
  rw [Set.mem_Ico] at outside
  omega

theorem changedIn_store (arena : Arena) (offset : Nat) (value : UInt8) :
    ChangedIn (Set.Ico offset (offset + 1)) arena (arena.store offset value) := by
  refine ⟨base_store .., size_store .., fun other outside => ?_⟩
  rw [Set.mem_Ico] at outside
  rw [byte_store, if_neg (by omega)]

theorem changedIn_write (arena : Arena) (offset : Nat) (values : List UInt8) :
    ChangedIn (Set.Ico offset (offset + values.length)) arena (arena.write offset values) := by
  induction values generalizing arena offset with
  | nil => exact ChangedIn.refl _ arena
  | cons value rest ih =>
    rw [List.length_cons]
    refine ((changedIn_store arena offset value).mono ?_).trans
      ((ih (arena.store offset value) (offset + 1)).mono ?_)
    · exact Set.Ico_subset_Ico le_rfl (by omega)
    · exact Set.Ico_subset_Ico (by omega) (by omega)

@[simp] theorem length_slice (arena : Arena) (offset count : Nat) :
    (arena.slice offset count).length = count := by
  rw [Arena.slice, List.length_map, List.length_range]

theorem slice_succ (arena : Arena) (offset count : Nat) :
    arena.slice offset (count + 1) = arena.byte offset :: arena.slice (offset + 1) count := by
  simp only [Arena.slice, List.range_succ_eq_map, List.map_cons, List.map_map, Nat.add_zero]
  refine congrArg _ (List.map_congr_left fun step _ => ?_)
  rw [Function.comp_apply, Nat.succ_eq_add_one, Nat.add_assoc, Nat.add_comm 1 step]

/-- Two adjacent slices are one. -/
theorem slice_add (arena : Arena) (offset count more : Nat) :
    arena.slice offset (count + more) =
      arena.slice offset count ++ arena.slice (offset + count) more := by
  simp only [slice, List.range_add, List.map_append, List.map_map]
  refine congrArg _ (List.map_congr_left fun step _ => ?_)
  rw [Function.comp_apply, Nat.add_assoc]

/-- The first bytes of a slice. -/
theorem take_slice (arena : Arena) {offset count less : Nat} (within : less ≤ count) :
    (arena.slice offset count).take less = arena.slice offset less := by
  rw [Arena.slice, Arena.slice, ← List.map_take, List.take_range, Nat.min_eq_left within]

/-- Bytes written inside the arena read back. -/
theorem slice_write (arena : Arena) {offset : Nat} {values : List UInt8}
    (inside : offset + values.length ≤ arena.size) :
    (arena.write offset values).slice offset values.length = values := by
  induction values generalizing arena offset with
  | nil => rfl
  | cons value rest ih =>
    rw [List.length_cons] at inside
    have head : ((arena.store offset value).write (offset + 1) rest).byte offset = value := by
      rw [(changedIn_write _ (offset + 1) rest).kept offset (by rw [Set.mem_Ico]; omega),
        byte_store, if_pos ⟨rfl, by omega⟩]
    have room : offset + 1 + rest.length ≤ (arena.store offset value).size := by
      rw [size_store]
      omega
    have tail := ih (arena.store offset value) room
    rw [List.length_cons, slice_succ, Arena.write, head, tail]

theorem fill_eq_write (arena : Arena) (offset : Nat) (value : UInt8) (count : Nat) :
    arena.fill offset value count = arena.write offset (List.replicate count value) := by
  induction count generalizing arena offset with
  | zero => rfl
  | succ count ih => exact ih (arena.store offset value) (offset + 1)

theorem changedIn_fill (arena : Arena) (offset : Nat) (value : UInt8) (count : Nat) :
    ChangedIn (Set.Ico offset (offset + count)) arena (arena.fill offset value count) := by
  have written := changedIn_write arena offset (List.replicate count value)
  rwa [List.length_replicate, ← fill_eq_write] at written

/-- Bytes filled inside the arena read back. -/
theorem slice_fill (arena : Arena) {offset count : Nat} (value : UInt8)
    (inside : offset + count ≤ arena.size) :
    (arena.fill offset value count).slice offset count = List.replicate count value := by
  have long : (List.replicate count value).length = count := List.length_replicate
  have written := @slice_write arena offset (List.replicate count value) (by rwa [long])
  rwa [long, ← fill_eq_write] at written

end Arena

/-! ### Tiled arenas -/

/-- Every word of the header is a 32-bit one. -/
structure Header.Fits (header : Header) : Prop where
  size : header.size < wordLimit
  next : header.next < wordLimit
  flags : header.flags < wordLimit
  requested : header.requested < wordLimit

theorem Arena.header_fits (arena : Arena) (offset : Nat) : (arena.header offset).Fits :=
  ⟨arena.word_lt _, arena.word_lt _, arena.word_lt _, arena.word_lt _⟩

/-- **The blocks tile the arena and their headers stand in it.** -/
structure Arena.Tiled (arena : Arena) (blocks : List Block) : Prop where
  tiles : Tiles arena.size 0 blocks arena.size
  stands : ∀ block ∈ blocks, arena.header block.offset = block.toHeader

namespace Arena

variable {arena before after : Arena} {block : Block} {blocks front old new back : List Block}
  {start stop : Nat}

/-- A written header reads back. -/
theorem header_setHeader_of_fits {header : Header} (inside : start + headerBytes ≤ arena.size)
    (fits : header.Fits) : (arena.setHeader start header).header start = header :=
  header_setHeader inside fits.size fits.next fits.flags fits.requested

theorem headerFault?_eq_none (inside : start + headerBytes ≤ arena.size) :
    arena.headerFault? start = none := if_pos inside

/-- No offset of an arena is the end-of-chain mark. -/
theorem size_lt_end (arena : Arena) : arena.size < endOfChain :=
  lt_of_le_of_lt arena.size_le (by decide)

theorem size_lt (arena : Arena) : arena.size < wordLimit :=
  lt_trans arena.size_lt_end (by decide)

theorem linkAt_ne_end (arena : Arena) (inside : stop < arena.size) :
    linkAt arena.size stop ≠ endOfChain ∧ linkAt arena.size stop = stop := by
  have small := arena.size_lt_end
  have linked : linkAt arena.size stop = stop := if_neg (by omega)
  refine ⟨?_, linked⟩
  rw [linked]
  omega

namespace Tiled

theorem fits (tiled : arena.Tiled blocks) (member : block ∈ blocks) : block.toHeader.Fits := by
  rw [← tiled.stands block member]
  exact arena.header_fits _

theorem bounds (tiled : arena.Tiled blocks) (member : block ∈ blocks) :
    block.stop ≤ arena.size := (tiled.tiles.bounds member).2

theorem header_inside (tiled : arena.Tiled blocks) (member : block ∈ blocks) :
    block.offset + headerBytes ≤ arena.size := by
  have bound := tiled.bounds member
  rw [block.stop_eq] at bound
  rw [headerBytes]
  omega

theorem ne_nil (tiled : arena.Tiled blocks) : blocks ≠ [] := by
  rintro rfl
  have empty : 0 = arena.size := tiled.tiles
  have large : 32 ≤ arena.size := arena.size_ge
  omega

/-- The first block stands at offset 0. -/
theorem head {rest : List Block} (tiled : arena.Tiled (block :: rest)) : block.offset = 0 :=
  tiled.tiles.1

end Tiled

/-- The walk along a tiling meets its blocks. -/
theorem chainFrom_eq {limit : Nat} (tiles : Tiles arena.size start blocks arena.size)
    (stands : ∀ block ∈ blocks, arena.header block.offset = block.toHeader)
    (nonempty : blocks ≠ []) (room : blocks.length ≤ limit) :
    arena.chainFrom limit start = ⟨blocks, none⟩ := by
  induction blocks generalizing start limit with
  | nil => exact absurd rfl nonempty
  | cons block rest ih =>
    obtain ⟨limit, rfl⟩ : ∃ less, limit = less + 1 := ⟨limit - 1, by
      rw [List.length_cons] at room
      omega⟩
    obtain ⟨rfl, linked, tiles⟩ := tiles
    have header : arena.header block.offset = block.toHeader := stands block List.mem_cons_self
    have whole : (block.toHeader).at block.offset = block := rfl
    have inside : block.offset + headerBytes ≤ arena.size := by
      have stop := tiles.le
      rw [block.stop_eq] at stop
      rw [headerBytes]
      omega
    simp only [chainFrom, headerFault?_eq_none inside, header, whole, linked]
    cases rest with
    | nil =>
      have last : block.stop = arena.size := tiles
      rw [last, linkAt, if_pos rfl, if_pos rfl]
    | cons follower rest =>
      have more : block.stop < arena.size := by
        have length := tiles.length_le
        rw [List.length_cons] at length
        omega
      obtain ⟨open_end, link⟩ := arena.linkAt_ne_end more
      rw [if_neg open_end, link, ih tiles
        (fun member inside => stands member (List.mem_cons_of_mem _ inside)) (by simp)
        (by simpa using room)]

/-- **The chain of a tiled arena is its list of blocks.** -/
theorem Tiled.chain_eq (tiled : arena.Tiled blocks) : arena.chain = ⟨blocks, none⟩ := by
  refine chainFrom_eq tiled.tiles tiled.stands tiled.ne_nil ?_
  have length := tiled.tiles.length_le
  omega

/-- **One stretch of the blocks is rewritten, the others stay in place.** -/
theorem Tiled.replace (tiled : before.Tiled (front ++ old ++ back))
    (first : Tiles before.size 0 front start) (last : Tiles before.size stop back before.size)
    (changed : ChangedIn (Set.Ico start stop) before after)
    (tiles : Tiles before.size start new stop)
    (stands : ∀ block ∈ new, after.header block.offset = block.toHeader) :
    after.Tiled (front ++ new ++ back) := by
  refine ⟨?_, fun block member => ?_⟩
  · rw [changed.size]
    exact Tiles.append.mpr ⟨stop, Tiles.append.mpr ⟨start, first, tiles⟩, last⟩
  · have stood : ∀ outer ∈ front ++ old ++ back, outer.offset + headerBytes ≤ start ∨
        stop ≤ outer.offset → after.header outer.offset = outer.toHeader := by
      intro outer inside off
      rw [← tiled.stands outer inside]
      refine changed.header fun step low => ?_
      rw [Set.mem_Ico]
      omega
    simp only [List.mem_append] at member stood
    rcases member with (ahead | here) | behind
    · refine stood block (Or.inl (Or.inl ahead)) (Or.inl ?_)
      have bound := (first.bounds ahead).2
      rw [block.stop_eq] at bound
      rw [headerBytes]
      omega
    · exact stands block here
    · exact stood block (Or.inr behind) (Or.inr (last.bounds behind).1)

/-- **Bytes changed inside the payload of a block leave every header in place.** -/
theorem Tiled.rewritten (tiled : before.Tiled blocks) (member : block ∈ blocks)
    (changed : ChangedIn (Set.Ico block.payload block.stop) before after) :
    after.Tiled blocks := by
  refine ⟨changed.size.symm ▸ tiled.tiles, fun other inside => ?_⟩
  rw [← tiled.stands other inside]
  refine changed.header fun step low => ?_
  have other_stop := other.stop_eq
  rw [Set.mem_Ico, Block.payload_eq]
  rw [headerBytes] at low
  rcases tiled.tiles.apart member inside with rfl | behind | ahead
  · omega
  · omega
  · omega

end Arena

/-! ### What the audit accepts -/

/-- **The arena is tiled, free neighbours are merged, and the counters are sums of spans.** -/
structure Heap.Sound (heap : Heap) (blocks : List Block) : Prop where
  tiled : heap.arena.Tiled blocks
  spaced : Spaced blocks
  used : heap.used = spanSum (liveBlocks blocks)
  free : heap.free = spanSum (freeBlocks blocks)

namespace Heap

variable {heap : Heap} {block : Block} {blocks rest : List Block}

/-- One step of the audit. -/
theorem tally_cons_eq_ok_iff {length expected used free : Nat} {fault : Option Abort}
    {after_free : Bool} {sums : Nat × Nat} :
    tally length fault (block :: rest) expected used free after_free = .ok sums ↔
      block.offset = expected ∧ (after_free = true → block.isFree = false) ∧
        block.stop ≤ length ∧
        tally length fault rest block.stop (used + spanSum (liveBlocks [block]))
          (free + spanSum (freeBlocks [block])) block.isFree = .ok sums := by
  have shut : ∀ {cause : Violation},
      (Answer.refuse cause : Answer Violation (Nat × Nat)) ≠ .ok sums :=
    fun equal => by cases equal
  rw [tally]
  by_cases stands : block.offset = expected
  · cases after_free <;> cases free_now : block.isFree <;>
      by_cases inside : length < block.stop <;>
      simp [stands, free_now, inside, shut, liveBlocks, freeBlocks, spanSum, Nat.not_le.mpr,
        Nat.le_of_not_lt]
  · simp [stands, shut]

theorem tally_nil_eq_ok_iff {length expected used free : Nat} {fault : Option Abort}
    {after_free : Bool} {sums : Nat × Nat} :
    tally length fault [] expected used free after_free = .ok sums ↔
      fault = none ∧ expected = length ∧ sums = (used, free) := by
  cases fault with
  | some fault => simp [tally, Answer.abort]
  | none =>
    by_cases ends : expected = length
    · simp [tally, ends, eq_comm]
    · simp [tally, ends, Answer.refuse]

/-- The audit of a tiling adds up its spans. -/
theorem tally_of_tiles {length start : Nat} (used free : Nat) (after_free : Bool)
    (tiles : Tiles length start blocks length) (spaced : Spaced blocks)
    (opens : after_free = true → ∀ head ∈ blocks.head?, head.isFree = false) :
    tally length none blocks start used free after_free =
      .ok (used + spanSum (liveBlocks blocks), free + spanSum (freeBlocks blocks)) := by
  induction blocks generalizing start used free after_free with
  | nil => exact tally_nil_eq_ok_iff.mpr ⟨rfl, tiles, rfl⟩
  | cons block rest ih =>
    obtain ⟨stands, _, tiles⟩ := tiles
    obtain ⟨follows, spaced⟩ := List.isChain_cons.mp spaced
    refine tally_cons_eq_ok_iff.mpr ⟨stands, fun after => opens after block rfl, tiles.le, ?_⟩
    rw [ih _ _ _ tiles spaced fun free head member => follows head member free,
      spanSum_liveBlocks_cons block rest, spanSum_freeBlocks_cons block rest, Nat.add_assoc,
      Nat.add_assoc]

/-- What the audit of a chain that it accepts says about the chain. -/
theorem tiles_of_tally {arena : Arena} {limit start expected used free : Nat} {after_free : Bool}
    {sums : Nat × Nat}
    (accepted : tally arena.size (arena.chainFrom limit start).fault
      (arena.chainFrom limit start).blocks expected used free after_free = .ok sums) :
    ∃ blocks, arena.chainFrom limit start = ⟨blocks, none⟩ ∧ start = expected ∧ blocks ≠ [] ∧
      Tiles arena.size start blocks arena.size ∧
      (∀ block ∈ blocks, arena.header block.offset = block.toHeader) ∧ Spaced blocks ∧
      (after_free = true → ∀ head ∈ blocks.head?, head.isFree = false) ∧
      sums = (used + spanSum (liveBlocks blocks), free + spanSum (freeBlocks blocks)) := by
  induction limit generalizing start expected used free after_free with
  | zero =>
    obtain ⟨broken, _⟩ := tally_nil_eq_ok_iff.mp accepted
    cases broken
  | succ limit ih =>
    unfold Arena.chainFrom at accepted ⊢
    cases fault : arena.headerFault? start with
    | some cause =>
      rw [fault] at accepted
      obtain ⟨broken, _⟩ := tally_nil_eq_ok_iff.mp accepted
      cases broken
    | none =>
      simp only [fault] at accepted ⊢
      by_cases last : (arena.header start).next = endOfChain
      · rw [if_pos last] at accepted ⊢
        obtain ⟨stands, opens, _, rest⟩ := tally_cons_eq_ok_iff.mp accepted
        obtain ⟨_, stop, sums⟩ := tally_nil_eq_ok_iff.mp rest
        refine ⟨_, rfl, stands, List.cons_ne_nil _ _, ⟨rfl, ?_, stop⟩, ?_,
          List.isChain_singleton _, ?_, sums⟩
        · rw [stop, linkAt, if_pos rfl]
          exact last
        · intro block member
          rw [List.mem_singleton.mp member]
          rfl
        · intro after head member
          cases member
          exact opens after
      · rw [if_neg last] at accepted ⊢
        obtain ⟨stands, opens, _, rest⟩ := tally_cons_eq_ok_iff.mp accepted
        obtain ⟨blocks, chain, linked, nonempty, tiles, headers, spaced, follows, sums⟩ := ih rest
        simp only [chain]
        have more : ((arena.header start).at start).stop < arena.size := by
          have length := tiles.length_le
          have positive := List.length_pos_of_ne_nil nonempty
          rw [← linked]
          omega
        refine ⟨_, rfl, stands, List.cons_ne_nil _ _, ⟨rfl, ?_, ?_⟩, ?_, ?_, ?_, ?_⟩
        · rw [(arena.linkAt_ne_end more).2]
          exact linked
        · rw [← linked]
          exact tiles
        · intro block member
          rcases List.mem_cons.mp member with rfl | member
          · rfl
          · exact headers block member
        · exact List.isChain_cons.mpr ⟨fun head member free => follows free head member, spaced⟩
        · intro after head member
          cases member
          exact opens after
        · rw [sums, spanSum_liveBlocks_cons _ blocks, spanSum_freeBlocks_cons _ blocks,
            Nat.add_assoc, Nat.add_assoc]

/-- **The audit accepts exactly the sound heaps.** -/
theorem verify_eq_ok_iff : heap.verify = .ok () ↔ ∃ blocks, heap.Sound blocks := by
  constructor
  · intro accepted
    cases counted : tally heap.total heap.arena.chain.fault heap.arena.chain.blocks 0 0 0 false with
    | error failure =>
      simp only [verify, counted] at accepted
      cases accepted
    | ok sums =>
      obtain ⟨blocks, chain, _, _, tiles, stands, spaced, _, equal⟩ := tiles_of_tally counted
      have agree : sums.1 = heap.used ∧ sums.2 = heap.free := by
        by_contra differ
        simp only [verify, counted] at accepted
        change (if sums.1 = heap.used ∧ sums.2 = heap.free then _ else _) = _ at accepted
        rw [if_neg differ] at accepted
        cases accepted
      rw [equal] at agree
      simp only [Nat.zero_add] at agree
      exact ⟨blocks, ⟨tiles, stands⟩, spaced, agree.1.symm, agree.2.symm⟩
  · rintro ⟨blocks, tiled, spaced, used, free⟩
    have counted := tally_of_tiles 0 0 false tiled.tiles spaced (fun absurd => by cases absurd)
    simp only [verify, tiled.chain_eq, total, counted]
    change (if _ then _ else _) = _
    rw [if_pos ⟨by simp [used], by simp [free]⟩]
    rfl

/-! ### Which handles are accepted -/

/-- The search comes to a live block of a tiling. -/
theorem findAmong_of_live {length start stop : Nat} (tiles : Tiles length start blocks stop)
    (member : block ∈ blocks) (live : block.isFree = false) :
    Chain.findAmong block.offset none blocks = .ok block := by
  induction blocks generalizing start with
  | nil => cases member
  | cons head rest ih =>
    obtain ⟨_, _, tiles⟩ := tiles
    unfold Chain.findAmong
    rcases List.mem_cons.mp member with rfl | later
    · rw [if_neg (Nat.lt_irrefl _), if_pos ⟨rfl, live⟩]
    · have behind := (tiles.bounds later).1
      rw [head.stop_eq] at behind
      rw [if_neg (by omega), if_neg fun both => by omega]
      exact ih tiles later

/-- The search comes to nothing where no live block stands. -/
theorem findAmong_eq_refuse {target : Nat}
    (none_live : ∀ block ∈ blocks, block.isFree = false → block.offset ≠ target) :
    Chain.findAmong target none blocks = .refuse .invalidAddress := by
  induction blocks with
  | nil => rfl
  | cons head rest ih =>
    unfold Chain.findAmong
    by_cases past : target < head.offset
    · rw [if_pos past]
    · rw [if_neg past, if_neg fun both => none_live head List.mem_cons_self both.2 both.1]
      exact ih fun member inside => none_live member (List.mem_cons_of_mem _ inside)

/-- **A live block is found by its payload.** -/
theorem locate_of_live (tiled : heap.arena.Tiled blocks) (member : block ∈ blocks)
    (live : block.isFree = false) (aligned : block.payload % alignment = 0) :
    heap.locate ⟨block.payload⟩ = .ok block := by
  unfold locate Chain.find
  rw [if_pos ⟨aligned, Nat.le_add_left _ _⟩, tiled.chain_eq]
  show Chain.findAmong (block.offset + headerBytes - headerBytes) none blocks = .ok block
  rw [Nat.add_sub_cancel]
  exact findAmong_of_live tiled.tiles member live

/-- **A handle is the payload of a live block, or it is refused.** -/
theorem locate_cases (tiled : heap.arena.Tiled blocks) (handle : Handle) :
    (∃ block ∈ blocks, block.isFree = false ∧ block.payload = handle.offset ∧
        heap.locate handle = .ok block) ∨
      heap.locate handle = .refuse .invalidAddress := by
  by_cases shaped : handle.offset % alignment = 0 ∧ headerBytes ≤ handle.offset
  · by_cases found : ∃ block ∈ blocks, block.isFree = false ∧ block.payload = handle.offset
    · obtain ⟨block, member, live, same⟩ := found
      have known : handle = ⟨block.payload⟩ := by rw [same]
      refine Or.inl ⟨block, member, live, same, ?_⟩
      rw [known]
      exact locate_of_live tiled member live (by rw [same]; exact shaped.1)
    · right
      unfold locate Chain.find
      rw [if_pos shaped, tiled.chain_eq]
      refine findAmong_eq_refuse fun block member live same => found ⟨block, member, live, ?_⟩
      rw [block.payload_eq, same]
      have large := shaped.2
      rw [headerBytes] at large ⊢
      omega
  · right
    unfold locate
    rw [if_neg shaped]

/-- A located block is a live one, and the handle is its payload. -/
theorem mem_of_locate (tiled : heap.arena.Tiled blocks) {handle : Handle}
    (found : heap.locate handle = .ok block) :
    block ∈ blocks ∧ block.isFree = false ∧ block.payload = handle.offset := by
  rcases locate_cases tiled handle with ⟨other, member, live, same, located⟩ | refused
  · rw [found] at located
    cases located
    exact ⟨member, live, same⟩
  · rw [found] at refused
    cases refused

end Heap

end MiniKernel
