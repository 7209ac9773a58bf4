/-
**What the audit says about any bytes at all.**

The arena is not taken to be tiled here, or to be anything. The audit follows the links from offset
0, and its answer is read off the blocks it met before it stopped.

* `Arena.Walk arena start blocks link` — the headers met from `start` on along the links are those
  of `blocks`, and `link` is where the next one is looked for.
* `Heap.Passed heap front link stop` — `front` opens the chain and the audit has nothing against it:
  its blocks stand in line up to `stop`, inside the arena, with no two free ones side by side.
* `Heap.Finding heap answer` — what is met behind such blocks, and what is to be said about it. This
  is what the audit says (`Heap.verify_eq_iff`), since there always is one (`Heap.exists_finding`).
* `Heap.StaysInside heap` — no link that the audit follows leads outside the arena.
* `Heap.verify_truthful` — each answer of the audit, and exactly when it is given, for the heaps
  that stay inside.
* `Heap.audit_ends` — on every heap the audit comes to its end or is stopped by the first header
  outside the arena that it is led to, and the latter happens exactly if it does not stay inside.
-/

import MiniKernel.Proofs.Heap.Integrity

namespace MiniKernel

-- A written header is known by its lemmas only.
seal Arena.setHeader

/-! ### Walks along the links -/

/-- **A way over blocks**: each one is entered where the one before it leads to. -/
def BlockPath (enters : Nat → Block → Prop) (leads : Block → Nat) : Nat → List Block → Nat → Prop
  | start, [], stop => start = stop
  | start, block :: rest, stop =>
    enters start block ∧ BlockPath enters leads (leads block) rest stop

/-- A way over blocks and one block more. -/
theorem BlockPath.concat {enters : Nat → Block → Prop} {leads : Block → Nat} {start stop : Nat}
    {front : List Block} {block : Block} : BlockPath enters leads start (front ++ [block]) stop ↔
      ∃ border, BlockPath enters leads start front border ∧ enters border block ∧
        leads block = stop := by
  induction front generalizing start with
  | nil =>
    constructor
    · exact fun path => ⟨start, rfl, path⟩
    · rintro ⟨border, rfl, path⟩
      exact path
  | cons head rest ih =>
    constructor
    · rintro ⟨entered, path⟩
      obtain ⟨border, first, last⟩ := ih.mp path
      exact ⟨border, ⟨entered, first⟩, last⟩
    · rintro ⟨border, ⟨entered, first⟩, last⟩
      exact ⟨entered, ih.mpr ⟨border, first, last⟩⟩

/-- **The blocks stand one right after another**, from `start` to `stop`. -/
def InLine : Nat → List Block → Nat → Prop :=
  BlockPath (fun start block => block.offset = start) Block.stop

namespace Arena

/-- The block whose header is read at an offset, whatever is there. -/
def blockAt (arena : Arena) (offset : Nat) : Block := (arena.header offset).at offset

/-- **The headers met from `start` on along the links**, each inside the arena, up to the link of the
last one. -/
def Walk (arena : Arena) : Nat → List Block → Nat → Prop :=
  BlockPath (fun start block => start + headerBytes ≤ arena.size ∧ block = arena.blockAt start)
    fun block => block.next

/-- The chain that is left at a link, of at most `limit` blocks. -/
def chainBehind (arena : Arena) (limit link : Nat) : Chain :=
  if link = endOfChain then ⟨[], none⟩ else arena.chainFrom limit link

variable {arena : Arena} {block : Block} {blocks front : List Block}
  {start link limit : Nat} {fault : Abort}

@[simp] theorem offset_blockAt (arena : Arena) (offset : Nat) :
    (arena.blockAt offset).offset = offset := rfl

/-- A walk over a tiling meets its blocks only. -/
theorem Walk.mem_of_tiles (walk : arena.Walk start front link)
    (tiles : Tiles arena.size start blocks arena.size)
    (stands : ∀ block ∈ blocks, arena.header block.offset = block.toHeader)
    (nonempty : blocks ≠ []) (member : block ∈ front) : block ∈ blocks := by
  induction front generalizing start blocks with
  | nil => cases member
  | cons head rest ih =>
    obtain ⟨⟨_, rfl⟩, walk⟩ := walk
    cases blocks with
    | nil => exact absurd rfl nonempty
    | cons first others =>
      obtain ⟨rfl, linked, tiles⟩ := tiles
      have same : arena.blockAt first.offset = first := by
        rw [blockAt, stands first List.mem_cons_self]
        rfl
      rw [same] at walk member
      rcases List.mem_cons.mp member with rfl | later
      · exact List.mem_cons_self
      · -- The walk goes on, so the link is no end of chain and is where the tiling goes on.
        cases rest with
        | nil => cases later
        | cons next rest =>
          have inside : first.next + headerBytes ≤ arena.size := walk.1.1
          have small := arena.size_lt_end
          have more : first.stop ≠ arena.size := by
            intro last
            rw [linked, linkAt, if_pos last] at inside
            omega
          have goes_on : first.next = first.stop := by rw [linked, linkAt, if_neg more]
          have onward : arena.Walk first.stop (next :: rest) link := goes_on ▸ walk
          have further : others ≠ [] := by
            rintro rfl
            exact more tiles
          exact List.mem_cons_of_mem _ (ih onward tiles
            (fun block inside => stands block (List.mem_cons_of_mem _ inside)) further later)

theorem headerFault?_eq_none_iff :
    arena.headerFault? link = none ↔ link + headerBytes ≤ arena.size := by
  refine ⟨fun readable => ?_, headerFault?_eq_none⟩
  by_contra outside
  rw [headerFault?, if_neg outside] at readable
  cases readable

theorem chainBehind_end (arena : Arena) (limit : Nat) :
    arena.chainBehind limit endOfChain = ⟨[], none⟩ := if_pos rfl

/-- A link outside the arena stops the walk before anything is met. -/
theorem chainBehind_astray (goes_on : link ≠ endOfChain)
    (stopped : arena.headerFault? link = some fault) :
    arena.chainBehind (limit + 1) link = ⟨[], some fault⟩ := by
  rw [chainBehind, if_neg goes_on, chainFrom, stopped]

/-- A link inside the arena leads to a block and the chain behind that. -/
theorem chainBehind_inside (inside : link + headerBytes ≤ arena.size) :
    arena.chainBehind (limit + 1) link =
      ⟨arena.blockAt link :: (arena.chainBehind limit (arena.blockAt link).next).blocks,
        (arena.chainBehind limit (arena.blockAt link).next).fault⟩ := by
  have goes_on : link ≠ endOfChain := by
    have small := arena.size_lt_end
    omega
  rw [chainBehind, if_neg goes_on, chainFrom, headerFault?_eq_none inside]
  show (if (arena.blockAt link).next = endOfChain then _ else _) = _
  rw [chainBehind]
  split <;> rfl

end Arena

/-! ### What the audit has behind it -/

/-- Whether the last of the blocks is free. -/
def endsFree (blocks : List Block) : Bool := blocks.getLast?.any (·.isFree)

@[simp] theorem endsFree_concat (front : List Block) (block : Block) :
    endsFree (front ++ [block]) = block.isFree := by
  simp [endsFree]

theorem exists_concat_of_endsFree {blocks : List Block} (free : endsFree blocks = true) :
    ∃ front last, blocks = front ++ [last] ∧ last.isFree = true := by
  rcases List.eq_nil_or_concat blocks with rfl | ⟨front, last, rfl⟩
  · cases free
  · rw [List.concat_eq_append, endsFree_concat] at free
    exact ⟨front, last, List.concat_eq_append .., free⟩

/-- One more block keeps the free ones apart if it is not the second of two. -/
theorem spaced_concat {front : List Block} {block : Block} :
    Spaced (front ++ [block]) ↔
      Spaced front ∧ ¬ (endsFree front && block.isFree) = true := by
  unfold Spaced endsFree
  rw [List.isChain_append]
  cases front.getLast? <;> simp

namespace Heap

/-- **Blocks the audit has nothing against**: they open the chain, stand in line up to `stop`, stay
inside the arena, and no two free ones are neighbours. The next one is looked for at `link`. -/
structure Passed (heap : Heap) (front : List Block) (link stop : Nat) : Prop where
  walk : heap.arena.Walk 0 front link
  line : InLine 0 front stop
  spaced : Spaced front
  within : stop ≤ heap.total

/-- What the audit answers behind the blocks `front`, the last of which ends at `stop`, if `rest` is
left of the chain. -/
def auditRest (heap : Heap) (front : List Block) (rest : Chain) (stop : Nat) :
    Answer Violation Unit := do
  let (used, free) ← tally heap.total rest.fault rest.blocks stop (spanSum (liveBlocks front))
    (spanSum (freeBlocks front)) (endsFree front)
  if used = heap.used ∧ free = heap.free then return ()
  else .refuse (.accounting used free)

variable {heap : Heap} {front : List Block} {block : Block} {link stop : Nat}
  {answer : Answer Violation Unit}

namespace Passed

theorem start (heap : Heap) : heap.Passed [] 0 0 := ⟨rfl, rfl, List.isChain_nil, Nat.zero_le _⟩

/-- One more block has passed. -/
theorem concat (passed : heap.Passed front link link) (inside : link + headerBytes ≤ heap.total)
    (spaced : Spaced (front ++ [heap.arena.blockAt link]))
    (within : (heap.arena.blockAt link).stop ≤ heap.total) :
    heap.Passed (front ++ [heap.arena.blockAt link]) (heap.arena.blockAt link).next
      (heap.arena.blockAt link).stop :=
  ⟨BlockPath.concat.mpr ⟨link, passed.walk, ⟨inside, rfl⟩, rfl⟩,
    BlockPath.concat.mpr ⟨link, passed.line, rfl, rfl⟩, spaced, within⟩

/-- The last block that passed, and the ones before it. -/
theorem last_eq (passed : heap.Passed (front ++ [block]) link stop) :
    heap.Passed front block.offset block.offset ∧ block.offset + headerBytes ≤ heap.total ∧
      block = heap.arena.blockAt block.offset ∧ link = block.next ∧ stop = block.stop := by
  obtain ⟨border, walk, ⟨inside, here⟩, rfl⟩ := BlockPath.concat.mp passed.walk
  obtain ⟨edge, line, rfl, rfl⟩ := BlockPath.concat.mp passed.line
  obtain rfl : block.offset = border := by rw [here, Arena.offset_blockAt]
  refine ⟨⟨walk, line, (spaced_concat.mp passed.spaced).1, ?_⟩, inside, here, rfl, rfl⟩
  have within := passed.within
  rw [block.stop_eq] at within
  omega

/-- The blocks that passed are no more than there is room for. -/
theorem length_le (passed : heap.Passed front link stop) : 16 * front.length ≤ stop := by
  induction front using List.reverseRecOn generalizing link stop with
  | nil => exact Nat.zero_le _
  | append_singleton front block ih =>
    obtain ⟨before, _, _, _, rfl⟩ := passed.last_eq
    have shorter := ih before
    rw [block.stop_eq, List.length_append, List.length_singleton]
    omega

end Passed

/-! ### One step of the audit -/

theorem auditRest_nil (heap : Heap) (front : List Block) (stop : Nat) :
    heap.auditRest front ⟨[], none⟩ stop =
      if stop ≠ heap.total then .refuse (.short stop)
      else if spanSum (liveBlocks front) = heap.used ∧ spanSum (freeBlocks front) = heap.free then
        .ok ()
      else .refuse (.accounting (spanSum (liveBlocks front)) (spanSum (freeBlocks front))) := by
  by_cases ends : stop = heap.total
  · simp only [auditRest, tally, ne_eq, ends, not_true, if_false]
    rfl
  · simp only [auditRest, tally, ne_eq, ends, not_false_iff, if_true]
    rfl

theorem auditRest_fault (heap : Heap) (front : List Block) (stop : Nat) (cause : Abort) :
    heap.auditRest front ⟨[], some cause⟩ stop = .error (.aborted cause) := rfl

/-- One block more is judged by where it stands, by its neighbour and by where it ends, and then
added to the sums. -/
theorem auditRest_cons (heap : Heap) (front : List Block) (block : Block) (rest : Chain)
    (stop : Nat) :
    heap.auditRest front ⟨block :: rest.blocks, rest.fault⟩ stop =
      if block.offset ≠ stop then .refuse (.gap stop)
      else if endsFree front && block.isFree then .refuse (.adjacentFree block.offset)
      else if heap.total < block.stop then .refuse (.overrun block.offset)
      else heap.auditRest (front ++ [block]) rest block.stop := by
  unfold auditRest
  rw [tally, endsFree_concat, liveBlocks_append, freeBlocks_append, spanSum_append, spanSum_append]
  by_cases stands : block.offset ≠ stop
  · rw [if_pos stands, if_pos stands]
    rfl
  rw [if_neg stands, if_neg stands]
  by_cases touch : (endsFree front && block.isFree) = true
  · rw [if_pos touch, if_pos touch]
    rfl
  rw [if_neg touch, if_neg touch]
  by_cases past : heap.total < block.stop
  · rw [if_pos past, if_pos past]
    rfl
  rw [if_neg past, if_neg past]
  cases free : block.isFree with
  | true =>
    rw [if_pos rfl, liveBlocks_cons_free free, freeBlocks_cons_free free]
    rfl
  | false =>
    rw [if_neg Bool.false_ne_true, liveBlocks_cons_live free, freeBlocks_cons_live free]
    rfl

/-- The audit from its start on is the audit behind any blocks that passed. -/
theorem Passed.verify_eq (passed : heap.Passed front link stop) :
    heap.verify =
      heap.auditRest front (heap.arena.chainBehind (heap.total + 1 - front.length) link) stop := by
  induction front using List.reverseRecOn generalizing link stop with
  | nil =>
    obtain rfl : 0 = link := passed.walk
    obtain rfl : 0 = stop := passed.line
    have starts : heap.arena.chainBehind (heap.total + 1) 0 = heap.arena.chain :=
      if_neg (by decide)
    rw [List.length_nil, Nat.sub_zero, starts]
    rfl
  | append_singleton front block ih =>
    obtain ⟨before, inside, here, rfl, rfl⟩ := passed.last_eq
    have room := before.length_le
    have limited : heap.total + 1 - front.length =
        heap.total + 1 - (front ++ [block]).length + 1 := by
      rw [List.length_append, List.length_singleton]
      omega
    have apart := (spaced_concat.mp passed.spaced).2
    rw [ih before, limited, Arena.chainBehind_inside inside, ← here, auditRest_cons,
      if_neg (not_not.mpr rfl), if_neg apart, if_neg (Nat.not_lt.mpr passed.within)]

theorem Passed.limit_eq (passed : heap.Passed front link stop) :
    heap.total + 1 - front.length = heap.total - front.length + 1 := by
  have room := passed.length_le
  have within := passed.within
  omega

/-- The audit at a block that is looked for behind the ones that passed. -/
theorem Passed.verify_at (passed : heap.Passed front link stop)
    (inside : link + headerBytes ≤ heap.total) :
    heap.verify =
      if link ≠ stop then .refuse (.gap stop)
      else if endsFree front && (heap.arena.blockAt link).isFree then .refuse (.adjacentFree link)
      else if heap.total < (heap.arena.blockAt link).stop then .refuse (.overrun link)
      else heap.auditRest (front ++ [heap.arena.blockAt link])
        (heap.arena.chainBehind (heap.total - front.length) (heap.arena.blockAt link).next)
        (heap.arena.blockAt link).stop := by
  rw [passed.verify_eq, passed.limit_eq, Arena.chainBehind_inside inside, auditRest_cons,
    Arena.offset_blockAt]

/-! ### What the audit finds -/

/-- **What is met behind the blocks that passed, and what is said about it.** -/
inductive Finding (heap : Heap) : Answer Violation Unit → Prop
  /-- The chain ends with the arena and the counters are the sums. -/
  | sound {blocks : List Block} (passed : heap.Passed blocks endOfChain heap.total)
      (used : heap.used = spanSum (liveBlocks blocks))
      (free : heap.free = spanSum (freeBlocks blocks)) : Finding heap (.ok ())
  /-- The next block is not where the last one ended. -/
  | gap {front : List Block} {link stop : Nat} (passed : heap.Passed front link stop)
      (inside : link + headerBytes ≤ heap.total) (elsewhere : link ≠ stop) :
      Finding heap (.refuse (.gap stop))
  /-- The next block is free like the last one. -/
  | adjacentFree {front : List Block} {last : Block} {offset : Nat}
      (passed : heap.Passed (front ++ [last]) offset offset)
      (inside : offset + headerBytes ≤ heap.total) (before : last.isFree = true)
      (here : (heap.arena.blockAt offset).isFree = true) :
      Finding heap (.refuse (.adjacentFree offset))
  /-- The next block ends past the arena. -/
  | overrun {front : List Block} {offset : Nat} (passed : heap.Passed front offset offset)
      (inside : offset + headerBytes ≤ heap.total)
      (spaced : Spaced (front ++ [heap.arena.blockAt offset]))
      (past : heap.total < (heap.arena.blockAt offset).stop) :
      Finding heap (.refuse (.overrun offset))
  /-- The chain ends before the arena does. -/
  | short {blocks : List Block} {stop : Nat} (passed : heap.Passed blocks endOfChain stop)
      (early : stop < heap.total) : Finding heap (.refuse (.short stop))
  /-- The chain ends with the arena and the counters are not the sums. -/
  | accounting {blocks : List Block} (passed : heap.Passed blocks endOfChain heap.total)
      (differ : ¬ (heap.used = spanSum (liveBlocks blocks) ∧
        heap.free = spanSum (freeBlocks blocks))) :
      Finding heap
        (.refuse (.accounting (spanSum (liveBlocks blocks)) (spanSum (freeBlocks blocks))))
  /-- The next header is not in the arena. -/
  | astray {front : List Block} {link stop : Nat} {cause : Abort}
      (passed : heap.Passed front link stop) (goes_on : link ≠ endOfChain)
      (stopped : heap.arena.headerFault? link = some cause) :
      Finding heap (.error (.aborted cause))

/-- **What is found is what the audit says.** -/
theorem Finding.verify_eq (finding : heap.Finding answer) : heap.verify = answer := by
  cases finding with
  | sound passed used free =>
    rw [passed.verify_eq, Arena.chainBehind_end, auditRest_nil, if_neg (not_not.mpr rfl),
      if_pos ⟨used.symm, free.symm⟩]
  | gap passed inside elsewhere => rw [passed.verify_at inside, if_pos elsewhere]
  | adjacentFree passed inside before here =>
    rw [passed.verify_at inside, if_neg (not_not.mpr rfl),
      endsFree_concat, before, here]
    rfl
  | overrun passed inside spaced past =>
    rw [passed.verify_at inside, if_neg (not_not.mpr rfl), if_neg (spaced_concat.mp spaced).2,
      if_pos past]
  | short passed early =>
    rw [passed.verify_eq, Arena.chainBehind_end, auditRest_nil, if_pos (Nat.ne_of_lt early)]
  | accounting passed differ =>
    rw [passed.verify_eq, Arena.chainBehind_end, auditRest_nil, if_neg (not_not.mpr rfl),
      if_neg fun agree => differ ⟨agree.1.symm, agree.2.symm⟩]
  | astray passed goes_on stopped =>
    rw [passed.verify_eq, passed.limit_eq, Arena.chainBehind_astray goes_on stopped,
      auditRest_fault]

/-- Behind blocks that passed there is always something to find. -/
theorem Passed.finding (passed : heap.Passed front link stop) : ∃ answer, heap.Finding answer := by
  -- Every block that passes leaves less of the arena, so the audit does not go on forever.
  induction left : heap.total - stop using Nat.strong_induction_on generalizing front link stop with
  | _ left ih =>
    by_cases ends : link = endOfChain
    · subst ends
      rcases Nat.lt_or_eq_of_le passed.within with early | rfl
      · exact ⟨_, .short passed early⟩
      · by_cases agree : heap.used = spanSum (liveBlocks front) ∧
            heap.free = spanSum (freeBlocks front)
        · exact ⟨_, .sound passed agree.1 agree.2⟩
        · exact ⟨_, .accounting passed agree⟩
    cases stopped : heap.arena.headerFault? link with
    | some cause => exact ⟨_, .astray passed ends stopped⟩
    | none =>
      have inside : link + headerBytes ≤ heap.total := Arena.headerFault?_eq_none_iff.mp stopped
      by_cases elsewhere : link = stop
      · subst elsewhere
        by_cases spaced : Spaced (front ++ [heap.arena.blockAt link])
        · by_cases past : heap.total < (heap.arena.blockAt link).stop
          · exact ⟨_, .overrun passed inside spaced past⟩
          · have more := passed.concat inside spaced (Nat.le_of_not_lt past)
            refine ih _ ?_ more rfl
            have further := (heap.arena.blockAt link).stop_eq
            rw [Arena.offset_blockAt] at further
            rw [headerBytes] at inside
            omega
        · have touch := not_not.mp fun apart => spaced (spaced_concat.mpr ⟨passed.spaced, apart⟩)
          obtain ⟨before, here⟩ := Bool.and_eq_true_iff.mp touch
          obtain ⟨_, _, rfl, free⟩ := exists_concat_of_endsFree before
          exact ⟨_, .adjacentFree passed inside free here⟩
      · exact ⟨_, .gap passed inside elsewhere⟩

theorem exists_finding (heap : Heap) : ∃ answer, heap.Finding answer := (Passed.start heap).finding

/-- **The audit says what is found**, and finds one thing only. -/
theorem verify_eq_iff : heap.verify = answer ↔ heap.Finding answer := by
  refine ⟨?_, Finding.verify_eq⟩
  rintro rfl
  obtain ⟨answer, finding⟩ := heap.exists_finding
  rw [finding.verify_eq]
  exact finding

/-! ### The answers, one by one -/

theorem verify_eq_ok_iff_passed : heap.verify = .ok () ↔
    ∃ blocks, heap.Passed blocks endOfChain heap.total ∧
      heap.used = spanSum (liveBlocks blocks) ∧ heap.free = spanSum (freeBlocks blocks) := by
  rw [verify_eq_iff]
  constructor
  · intro finding
    cases finding with
    | sound passed used free => exact ⟨_, passed, used, free⟩
  · rintro ⟨blocks, passed, used, free⟩
    exact .sound passed used free

theorem verify_eq_gap_iff : heap.verify = .refuse (.gap stop) ↔
    ∃ front link, heap.Passed front link stop ∧ link + headerBytes ≤ heap.total ∧
      link ≠ stop := by
  rw [verify_eq_iff]
  constructor
  · intro finding
    cases finding with
    | gap passed inside elsewhere => exact ⟨_, _, passed, inside, elsewhere⟩
  · rintro ⟨front, link, passed, inside, elsewhere⟩
    exact .gap passed inside elsewhere

theorem verify_eq_adjacentFree_iff {offset : Nat} :
    heap.verify = .refuse (.adjacentFree offset) ↔
      ∃ front last, heap.Passed (front ++ [last]) offset offset ∧
        offset + headerBytes ≤ heap.total ∧ last.isFree = true ∧
        (heap.arena.blockAt offset).isFree = true := by
  rw [verify_eq_iff]
  constructor
  · intro finding
    cases finding with
    | adjacentFree passed inside before here => exact ⟨_, _, passed, inside, before, here⟩
  · rintro ⟨front, last, passed, inside, before, here⟩
    exact .adjacentFree passed inside before here

theorem verify_eq_overrun_iff {offset : Nat} : heap.verify = .refuse (.overrun offset) ↔
    ∃ front, heap.Passed front offset offset ∧ offset + headerBytes ≤ heap.total ∧
      Spaced (front ++ [heap.arena.blockAt offset]) ∧
      heap.total < (heap.arena.blockAt offset).stop := by
  rw [verify_eq_iff]
  constructor
  · intro finding
    cases finding with
    | overrun passed inside spaced past => exact ⟨_, passed, inside, spaced, past⟩
  · rintro ⟨front, passed, inside, spaced, past⟩
    exact .overrun passed inside spaced past

theorem verify_eq_short_iff : heap.verify = .refuse (.short stop) ↔
    ∃ blocks, heap.Passed blocks endOfChain stop ∧ stop < heap.total := by
  rw [verify_eq_iff]
  constructor
  · intro finding
    cases finding with
    | short passed early => exact ⟨_, passed, early⟩
  · rintro ⟨blocks, passed, early⟩
    exact .short passed early

theorem verify_eq_accounting_iff {used free : Nat} :
    heap.verify = .refuse (.accounting used free) ↔
      ∃ blocks, heap.Passed blocks endOfChain heap.total ∧ used = spanSum (liveBlocks blocks) ∧
        free = spanSum (freeBlocks blocks) ∧ ¬ (heap.used = used ∧ heap.free = free) := by
  rw [verify_eq_iff]
  constructor
  · intro finding
    cases finding with
    | accounting passed differ => exact ⟨_, passed, rfl, rfl, differ⟩
  · rintro ⟨blocks, passed, rfl, rfl, differ⟩
    exact .accounting passed differ

/-- The audit is stopped exactly by a header outside the arena. -/
theorem verify_eq_abort_iff {cause : Abort} :
    heap.verify = .error (.aborted cause) ↔
      ∃ front link stop, heap.Passed front link stop ∧ link ≠ endOfChain ∧
        heap.arena.headerFault? link = some cause := by
  rw [verify_eq_iff]
  constructor
  · intro finding
    cases finding with
    | astray passed goes_on stopped => exact ⟨_, _, _, passed, goes_on, stopped⟩
  · rintro ⟨front, link, stop, passed, goes_on, stopped⟩
    exact .astray passed goes_on stopped

/-! ### Heaps whose links stay inside -/

/-- **No link that the audit follows leads outside the arena.** -/
def StaysInside (heap : Heap) : Prop :=
  ∀ front link stop, heap.Passed front link stop →
    link = endOfChain ∨ link + headerBytes ≤ heap.total

theorem StaysInside.readable (inside : heap.StaysInside) (passed : heap.Passed front link stop)
    (goes_on : link ≠ endOfChain) : link + headerBytes ≤ heap.total :=
  (inside front link stop passed).resolve_left goes_on

/-- A link that stands in line is no end of the chain. -/
theorem StaysInside.in_line (inside : heap.StaysInside) (passed : heap.Passed front link link) :
    link + headerBytes ≤ heap.total := by
  refine inside.readable passed (Nat.ne_of_lt ?_)
  exact Nat.lt_of_le_of_lt passed.within heap.arena.size_lt_end

/-- The audit has an answer exactly for the heaps that stay inside. -/
theorem verify_returns_iff : heap.verify.Returns ↔ heap.StaysInside := by
  constructor
  · intro returns front link stop passed
    by_contra leaves
    obtain ⟨goes_on, outside⟩ := not_or.mp leaves
    cases stopped : heap.arena.headerFault? link with
    | none => exact outside (Arena.headerFault?_eq_none_iff.mp stopped)
    | some cause =>
      exact returns cause (verify_eq_abort_iff.mpr ⟨_, _, _, passed, goes_on, stopped⟩)
  · intro inside cause stops
    obtain ⟨front, link, stop, passed, goes_on, stopped⟩ := verify_eq_abort_iff.mp stops
    rw [Arena.headerFault?_eq_none (inside.readable passed goes_on)] at stopped
    cases stopped

/-- **The audit is truthful.** On a heap that stays inside, whatever bytes it holds, the audit has
an answer. It accepts exactly if the blocks along the links stand in line from 0 to the arena's end,
no two free ones are neighbours and the counters are the sums of their spans. And each violation is
the first one along the chain: it is reported exactly if it is found behind blocks that nothing is
wrong with. -/
theorem verify_truthful (inside : heap.StaysInside) :
    heap.verify.Returns ∧
    (heap.verify = .ok () ↔ ∃ blocks, heap.arena.Walk 0 blocks endOfChain ∧
      InLine 0 blocks heap.total ∧ Spaced blocks ∧ heap.used = spanSum (liveBlocks blocks) ∧
      heap.free = spanSum (freeBlocks blocks)) ∧
    (∀ stop, heap.verify = .refuse (.gap stop) ↔
      ∃ front link, heap.Passed front link stop ∧ link ≠ endOfChain ∧ link ≠ stop) ∧
    (∀ offset, heap.verify = .refuse (.adjacentFree offset) ↔
      ∃ front last, heap.Passed (front ++ [last]) offset offset ∧ last.isFree = true ∧
        (heap.arena.blockAt offset).isFree = true) ∧
    (∀ offset, heap.verify = .refuse (.overrun offset) ↔
      ∃ front, heap.Passed front offset offset ∧ Spaced (front ++ [heap.arena.blockAt offset]) ∧
        heap.total < (heap.arena.blockAt offset).stop) ∧
    (∀ stop, heap.verify = .refuse (.short stop) ↔
      ∃ blocks, heap.Passed blocks endOfChain stop ∧ stop < heap.total) ∧
    ∀ used free, heap.verify = .refuse (.accounting used free) ↔
      ∃ blocks, heap.Passed blocks endOfChain heap.total ∧ used = spanSum (liveBlocks blocks) ∧
        free = spanSum (freeBlocks blocks) ∧ ¬ (heap.used = used ∧ heap.free = free) := by
  refine ⟨verify_returns_iff.mpr inside, ?_, fun stop => ?_, fun offset => ?_, fun offset => ?_,
    fun _ => verify_eq_short_iff, fun _ _ => verify_eq_accounting_iff⟩
  · rw [verify_eq_ok_iff_passed]
    constructor
    · rintro ⟨blocks, passed, used, free⟩
      exact ⟨blocks, passed.walk, passed.line, passed.spaced, used, free⟩
    · rintro ⟨blocks, walk, line, spaced, used, free⟩
      exact ⟨blocks, ⟨walk, line, spaced, le_rfl⟩, used, free⟩
  · rw [verify_eq_gap_iff]
    constructor
    · rintro ⟨front, link, passed, readable, elsewhere⟩
      have small := heap.arena.size_lt_end
      have goes_on : link ≠ endOfChain := Nat.ne_of_lt
        (Nat.lt_of_le_of_lt (Nat.le_of_add_right_le readable) small)
      exact ⟨front, link, passed, goes_on, elsewhere⟩
    · rintro ⟨front, link, passed, goes_on, elsewhere⟩
      exact ⟨front, link, passed, inside.readable passed goes_on, elsewhere⟩
  · rw [verify_eq_adjacentFree_iff]
    constructor
    · rintro ⟨front, last, passed, _, before, here⟩
      exact ⟨front, last, passed, before, here⟩
    · rintro ⟨front, last, passed, before, here⟩
      exact ⟨front, last, passed, inside.in_line passed, before, here⟩
  · rw [verify_eq_overrun_iff]
    constructor
    · rintro ⟨front, passed, _, spaced, past⟩
      exact ⟨front, passed, spaced, past⟩
    · rintro ⟨front, passed, spaced, past⟩
      exact ⟨front, passed, inside.in_line passed, spaced, past⟩

/-- The fresh heap with other bytes over the link of its only block. -/
def relinked (link : List UInt8) : Heap :=
  { smallHeap with arena := smallHeap.arena.write 4 link }

/-- A heap whose only block is linked to itself. -/
def loopedHeap : Heap := relinked [0, 0, 0, 0]

theorem verify_loopedHeap : loopedHeap.verify = .refuse (.gap 64) := by decide +kernel

theorem staysInside_loopedHeap : loopedHeap.StaysInside := by
  rw [← verify_returns_iff, verify_loopedHeap]
  exact Answer.returns_refused _

/-- The block the loop leads back to is not where the one before it ended. -/
theorem verify_truthful_loopedHeap : loopedHeap.StaysInside ∧
    ∃ front link, loopedHeap.Passed front link 64 ∧ link ≠ endOfChain ∧ link ≠ 64 := by
  obtain ⟨_, _, gap, _⟩ := verify_truthful staysInside_loopedHeap
  exact ⟨staysInside_loopedHeap, (gap 64).mp verify_loopedHeap⟩

/-- **The audit comes to its end, or to the end of the arena.** Whatever bytes the heap holds, the
audit never goes round in circles. It has an answer exactly if the heap stays inside, and otherwise
it is stopped by the header that the first link outside leads to, behind blocks that nothing is
wrong with. On a heap that stays inside, a block whose link is not where it ends is reported. -/
theorem audit_ends (heap : Heap) :
    heap.verify ≠ .error (.aborted .endless) ∧
    (heap.verify.Returns ↔ heap.StaysInside) ∧
    (∀ cause, heap.verify = .error (.aborted cause) ↔
      ∃ front link stop, heap.Passed front link stop ∧ link ≠ endOfChain ∧
        heap.arena.headerFault? link = some cause) ∧
    (heap.StaysInside → ∀ front link block, heap.arena.Walk 0 front link → block ∈ front →
      block.next ≠ linkAt heap.total block.stop →
        ∃ violation, heap.verify = .refuse violation) := by
  refine ⟨fun endless => ?_, verify_returns_iff, fun _ => verify_eq_abort_iff, ?_⟩
  · obtain ⟨_, link, _, _, _, stopped⟩ := verify_eq_abort_iff.mp endless
    unfold Arena.headerFault? at stopped
    split at stopped <;> cases stopped
  · intro inside front link block walk member wrong
    cases answered : heap.verify with
    | error failure =>
      cases failure with
      | refused violation => exact ⟨violation, rfl⟩
      | aborted cause => exact absurd answered (verify_returns_iff.mpr inside cause)
    | ok _ =>
      obtain ⟨blocks, sound⟩ := verify_eq_ok_iff.mp answered
      have met := walk.mem_of_tiles sound.tiled.tiles sound.tiled.stands sound.tiled.ne_nil member
      obtain ⟨before, behind, rfl⟩ := List.append_of_mem met
      exact absurd sound.tiled.tiles.around.2.1 wrong

/-- The loop is reported, since the link of its block is not where the block ends. -/
theorem audit_ends_loopedHeap : loopedHeap.StaysInside ∧
    ∃ violation, loopedHeap.verify = .refuse violation := by
  obtain ⟨_, _, _, reported⟩ := audit_ends loopedHeap
  have walk : loopedHeap.arena.Walk 0 [⟨⟨48, 0, 1, 0⟩, 0⟩] 0 := by
    refine ⟨⟨?_, ?_⟩, rfl⟩ <;> decide +kernel
  exact ⟨staysInside_loopedHeap, reported staysInside_loopedHeap _ _ _ walk
    List.mem_cons_self (by decide +kernel)⟩

/-- A heap whose only block is linked to the last word of the arena, where no header fits. -/
def strayHeap : Heap := relinked [60, 0, 0, 0]

/-- **The audit follows a link before it looks at where it leads.** The link of the only block is not
where the block ends, and that is not reported: the header behind it is read first. -/
theorem stray_link_stops :
    (strayHeap.arena.blockAt 0).next = 60 ∧ (strayHeap.arena.blockAt 0).stop = 64 ∧
      strayHeap.total = 64 ∧ strayHeap.verify = .error (.aborted (.outOfRange 68 64)) := by
  decide +kernel

end Heap

end MiniKernel
