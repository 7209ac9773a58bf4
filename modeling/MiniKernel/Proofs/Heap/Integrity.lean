/-
**Every run of a heap stays whole.**

* `Heap.Ledger` — what the clients of a heap hold and how much they asked for, as told by the
  answers they got (`Heap.Ledger.after`).
* `Heap.Reached heap ledger` — `heap` is met in some run from a fresh heap, and `ledger` is what the
  clients hold then.
* `Heap.Honours` — the heap is regular and its live blocks are the ledger. Every request keeps it
  (`Heap.Honours.course`), so every heap that is reached has it (`Heap.Reached.honours`).
* `Heap.integrity` — a fresh heap passes the audit, every request on **any** heap that passes comes
  to its end and leaves one that passes, and what the audit says about the reached heaps.
-/

import Mathlib.Logic.Function.Basic
import MiniKernel.Proofs.Heap.Requests

namespace MiniKernel

-- A written header is known by its lemmas only.
seal Arena.setHeader

/-! ### What clients hold -/

/-- The bytes asked for by the owner of each handle that is held. -/
def Heap.Ledger : Type := Handle → Option Nat

namespace Heap.Ledger

/-- Nobody holds anything. -/
def empty : Ledger := fun _ => none

/-- The ledger with the entry of one handle replaced. -/
def set (ledger : Ledger) (handle : Handle) (entry : Option Nat) : Ledger :=
  Function.update ledger handle entry

/-- What the clients hold after a request was answered. -/
def after (ledger : Ledger) : Request → Answer HeapRefusal Reply → Ledger
  | .allocate size, .ok (.handle handle) => ledger.set handle (some size)
  | .allocateClear count size, .ok (.handle handle) => ledger.set handle (some (count * size))
  | .reallocate old size, .ok (.handle handle) => (ledger.set old none).set handle (some size)
  | .release handle, .ok _ => ledger.set handle none
  | _, _ => ledger

@[simp] theorem set_same (ledger : Ledger) (handle : Handle) (entry : Option Nat) :
    ledger.set handle entry handle = entry := Function.update_self ..

theorem set_other {ledger : Ledger} {handle other : Handle} {entry : Option Nat}
    (apart : other ≠ handle) : ledger.set handle entry other = ledger other :=
  Function.update_of_ne apart ..

@[simp] theorem set_set (ledger : Ledger) (handle : Handle) (first second : Option Nat) :
    (ledger.set handle first).set handle second = ledger.set handle second :=
  Function.update_idem ..

theorem set_comm {ledger : Ledger} {handle other : Handle} {first second : Option Nat}
    (apart : handle ≠ other) :
    (ledger.set handle first).set other second = (ledger.set other second).set handle first :=
  Function.update_comm apart ..

/-- A refused request moves nothing. -/
@[simp] theorem after_refused (ledger : Ledger) (request : Request) (cause : HeapRefusal) :
    ledger.after request (.error (.refused cause)) = ledger := by
  cases request <;> rfl

theorem after_written {ledger : Ledger} {request : Request} {reply : Reply} {handle : Handle}
    (writes : request.written? = some handle) : ledger.after request (.ok reply) = ledger := by
  cases request <;> first | rfl | cases writes

theorem after_wanted {ledger : Ledger} {request : Request} {handle : Handle} {size : Nat}
    (wants : request.wanted? = some size) :
    ledger.after request (.ok (.handle handle)) = ledger.set handle (some size) := by
  cases request <;> cases wants <;> rfl

end Heap.Ledger

namespace Heap

/-- **The heaps met in a run from a fresh one**, with what the clients hold. -/
inductive Reached : Heap → Ledger → Prop
  | fresh {region : Region} {heap : Heap}
    (made : ((create region : Action Unit HeapRefusal Heap) ()).result = .ok heap) :
    Reached heap .empty
  | step {heap : Heap} {ledger : Ledger} (reached : Reached heap ledger) (request : Request)
    (returns : (request.perform heap).result.Returns) :
    Reached (request.perform heap).state (ledger.after request (request.perform heap).result)

/-- **A regular heap whose live blocks are the ledger.** -/
structure Honours (heap : Heap) (blocks : List Block) (ledger : Ledger) : Prop
    extends heap.Regular blocks where
  owed : ∀ handle size, ledger handle = some size ↔
    ∃ block, heap.locate handle = .ok block ∧ block.requested = size

variable {heap after : Heap} {block : Block} {blocks front back : List Block} {handle : Handle}
  {ledger : Ledger}

/-- A located block, and the handle by which it is. -/
theorem handle_eq (tiled : heap.arena.Tiled blocks) (located : heap.locate handle = .ok block) :
    handle = ⟨block.payload⟩ := by
  rw [(mem_of_locate tiled located).2.2]

/-- The ledger follows a change about one handle. -/
theorem owed_set {entry : Option Nat}
    (owed : ∀ handle size, ledger handle = some size ↔
      ∃ block, heap.locate handle = .ok block ∧ block.requested = size)
    (others : ∀ other, other ≠ handle → heap.Alike after other)
    (here : ∀ size, entry = some size ↔
      ∃ block, after.locate handle = .ok block ∧ block.requested = size) :
    ∀ other size, ledger.set handle entry other = some size ↔
      ∃ block, after.locate other = .ok block ∧ block.requested = size := by
  intro other size
  by_cases same : other = handle
  · rw [same, Ledger.set_same]
    exact here size
  · rw [Ledger.set_other same, (others other same).located]
    exact owed other size

theorem owed_located {size : Nat} (located : heap.locate handle = .ok block)
    (requested : block.requested = size) (other : Nat) :
    some size = some other ↔ ∃ found, heap.locate handle = .ok found ∧ found.requested = other := by
  constructor
  · intro same
    cases same
    exact ⟨block, located, requested⟩
  · rintro ⟨found, again, asked⟩
    rw [located] at again
    cases again
    rw [← requested, asked]

theorem owed_refused (refused : heap.locate handle = .refuse .invalidAddress) (size : Nat) :
    none = some size ↔ ∃ block, heap.locate handle = .ok block ∧ block.requested = size := by
  constructor
  · exact fun absurd => by cases absurd
  · rintro ⟨block, located, _⟩
    rw [refused] at located
    cases located

namespace Honours

theorem handedOut {size : Nat} (honours : heap.Honours (front ++ block :: back) ledger)
    (free : block.isFree = true) (positive : size ≠ 0) (fits : roundUp size ≤ block.size)
    (out : heap.HandedOut front block back (roundUp size) size after) :
    after.Honours (front ++ block.carve (roundUp size) size ++ back)
      (ledger.set ⟨block.payload⟩ (some size)) := by
  refine ⟨out.regular honours.toRegular free positive fits, owed_set honours.owed ?_ ?_⟩
  · exact fun other apart => out.alike honours.toSound free (offset_ne apart)
  · exact owed_located (out.located honours.toRegular) (block.requested_handed _ _)

theorem takenBack (honours : heap.Honours (front ++ block :: back) ledger)
    (live : block.isFree = false) (back_again : heap.TakenBack front block back after) :
    after.Honours (merged (front ++ block.vacated :: back)) (ledger.set ⟨block.payload⟩ none) := by
  refine ⟨back_again.regular honours.toRegular live, owed_set honours.owed ?_ ?_⟩
  · exact fun other apart => back_again.alike honours.toSound live (offset_ne apart)
  · exact owed_refused (back_again.refused honours.toSound)

theorem resized {size : Nat} (honours : heap.Honours (front ++ block :: back) ledger)
    (located : heap.locate handle = .ok block) (positive : size ≠ 0) (fits : size ≤ block.size)
    (kept : heap.Resized front block back size after) :
    after.Honours (front ++ block.resized size :: back) (ledger.set handle (some size)) := by
  obtain ⟨_, live, _⟩ := mem_of_locate honours.tiled located
  have known := handle_eq honours.tiled located
  refine ⟨kept.regular honours.toRegular live positive fits, owed_set honours.owed ?_ ?_⟩
  · intro other apart
    rw [known] at apart
    exact kept.alike honours.toSound live (offset_ne apart)
  · exact owed_located (kept.kept located honours.toSound).1 rfl

theorem rewritten (honours : heap.Honours blocks ledger)
    (located : heap.locate handle = .ok block) (rewritten : heap.Rewritten block after) :
    after.Honours blocks ledger := by
  obtain ⟨member, _⟩ := mem_of_locate honours.tiled located
  refine ⟨rewritten.regular honours.toRegular member, fun other size => ?_⟩
  rw [rewritten.located honours.toSound member]
  exact honours.owed other size

/-- **However a request goes, the heap goes on honouring the ledger.** -/
theorem course {request : Request} {result : Answer HeapRefusal Reply}
    (honours : heap.Honours blocks ledger) (course : heap.Course blocks request result after) :
    ∃ later, after.Honours later (ledger.after request result) := by
  cases course with
  | refused _ cause =>
    rw [Ledger.after_refused]
    exact ⟨blocks, honours⟩
  | measured located => exact ⟨blocks, honours⟩
  | shown located => exact ⟨blocks, honours⟩
  | handedOut wants shape free positive fits out =>
    subst shape
    rw [Ledger.after_wanted wants]
    exact ⟨_, honours.handedOut free positive fits out⟩
  | resized shape located positive fits kept =>
    subst shape
    rw [Ledger.after, Ledger.set_set]
    exact ⟨_, honours.resized located positive fits kept⟩
  | moved shape free positive fits out located carved back_again =>
    subst shape
    have known := handle_eq honours.tiled located
    obtain ⟨_, live, _⟩ := mem_of_locate honours.tiled located
    have apart := ne_of_free honours.toSound free located
    have between := honours.handedOut free positive fits out
    rw [carved] at between
    rw [Ledger.after, Ledger.set_comm apart, known]
    exact ⟨_, between.takenBack live back_again⟩
  | takenBack shape located back_again =>
    subst shape
    have known := handle_eq honours.tiled located
    obtain ⟨_, live, _⟩ := mem_of_locate honours.tiled located
    rw [Ledger.after, known]
    exact ⟨_, honours.takenBack live back_again⟩
  | rewritten count writes located rewritten =>
    rw [Ledger.after_written writes]
    exact ⟨blocks, honours.rewritten located rewritten⟩

end Honours

/-! ### Runs -/

/-- What a heap is made of. -/
theorem create_eq_ok_iff {σ : Type} {state : σ} {region : Region} :
    ((create region : Action σ HeapRefusal Heap) state).result = .ok heap ↔
      ∃ arena, Arena.ofRegion? region = some arena ∧ heap = ofArena arena := by
  unfold create
  cases made : Arena.ofRegion? region with
  | none => simp [Action.refuse_apply]
  | some arena =>
    show (Except.ok (ofArena arena) : Answer HeapRefusal Heap) = .ok heap ↔ _
    simp [eq_comm]

/-- A fresh heap is one free block and owes nothing. -/
theorem honours_ofArena (arena : Arena) : ∃ blocks, (ofArena arena).Honours blocks .empty := by
  obtain ⟨blocks, regular⟩ := regular_ofArena arena
  have counted := regular.counted
  have unowned : liveBlocks blocks = [] :=
    List.eq_nil_of_length_eq_zero (Nat.add_eq_zero_iff.mp counted.symm).2
  refine ⟨blocks, regular, fun handle size => owed_refused ?_ size⟩
  refine locate_eq_refuse regular.tiled fun block member => ?_
  rw [unowned] at member
  cases member

/-- **In every run the heap is regular and its live blocks are what the clients hold.** -/
theorem Reached.honours (reached : heap.Reached ledger) : ∃ blocks, heap.Honours blocks ledger := by
  induction reached with
  | fresh made =>
    obtain ⟨arena, _, rfl⟩ := create_eq_ok_iff.mp made
    exact honours_ofArena arena
  | step _ request returns ih =>
    obtain ⟨blocks, honours⟩ := ih
    exact honours.course (perform_course honours.toSound request (Or.inr returns))

/-- However a request goes, it leaves a sound heap. -/
theorem Course.sound {request : Request} {result : Answer HeapRefusal Reply}
    (course : heap.Course blocks request result after) (sound : heap.Sound blocks) :
    ∃ later, after.Sound later := by
  cases course with
  | refused _ cause => exact ⟨blocks, sound⟩
  | measured located => exact ⟨blocks, sound⟩
  | shown located => exact ⟨blocks, sound⟩
  | handedOut wants shape free positive fits out =>
    subst shape
    exact ⟨_, out.sound sound free⟩
  | resized shape located positive fits kept =>
    subst shape
    obtain ⟨_, live, _⟩ := mem_of_locate sound.tiled located
    exact ⟨_, kept.sound sound live⟩
  | moved shape free positive fits out located carved back_again =>
    subst shape
    obtain ⟨_, live, _⟩ := mem_of_locate sound.tiled located
    have between := out.sound sound free
    rw [carved] at between
    exact ⟨_, back_again.sound between live⟩
  | takenBack shape located back_again =>
    subst shape
    obtain ⟨_, live, _⟩ := mem_of_locate sound.tiled located
    exact ⟨_, back_again.sound sound live⟩
  | rewritten count writes located rewritten =>
    obtain ⟨member, _⟩ := mem_of_locate sound.tiled located
    exact ⟨blocks, rewritten.sound sound member⟩

/-- **Heaps stay whole.** A fresh heap passes the audit. On any heap that passes it, whatever wrote
its bytes, every request comes to its end and leaves a heap that passes. And in every heap met in a
run from a fresh one the blocks tile the arena, no two free ones are neighbours, and the counters
are what the blocks say. -/
theorem integrity :
    (∀ (region : Region) (heap : Heap),
      ((create region : Action Unit HeapRefusal Heap) ()).result = .ok heap →
        heap.verify = .ok ()) ∧
    (∀ heap : Heap, heap.verify = .ok () → heap.Countable → ∀ request : Request,
      (request.perform heap).result.Returns ∧ (request.perform heap).state.verify = .ok ()) ∧
    ∀ (heap : Heap) (ledger : Ledger), heap.Reached ledger →
      heap.verify = .ok () ∧ ∃ blocks, heap.arena.chain = ⟨blocks, none⟩ ∧
        Tiles heap.total 0 blocks heap.total ∧ Spaced blocks ∧
        heap.used + heap.free = heap.total ∧
        heap.allocations = heap.releases + (liveBlocks blocks).length := by
  refine ⟨?_, ?_, ?_⟩
  · intro region heap made
    obtain ⟨arena, _, rfl⟩ := create_eq_ok_iff.mp made
    obtain ⟨blocks, regular⟩ := regular_ofArena arena
    exact verify_eq_ok_iff.mpr ⟨blocks, regular.toSound⟩
  · intro heap accepted countable request
    obtain ⟨blocks, sound⟩ := verify_eq_ok_iff.mp accepted
    have course := perform_course sound request (Or.inl countable)
    exact ⟨course.returns, verify_eq_ok_iff.mpr (course.sound sound)⟩
  · intro heap ledger reached
    obtain ⟨blocks, honours⟩ := reached.honours
    exact ⟨verify_eq_ok_iff.mpr ⟨blocks, honours.toSound⟩, blocks, honours.tiled.chain_eq,
      honours.tiled.tiles, honours.spaced, honours.used_add_free, honours.counted⟩

/-- Room for one smallest block and one more behind it. -/
def smallRegion : Region where
  address := 0
  bytes := Array.replicate 64 0
  addressable := by decide

def smallHeap : Heap := ofArena ((Arena.ofRegion? smallRegion).get (by decide +kernel))

theorem create_smallRegion :
    ((create smallRegion : Action Unit HeapRefusal Heap) ()).result = .ok smallHeap :=
  create_eq_ok_iff.mpr ⟨_, (Option.some_get _).symm, rfl⟩

/-- A fresh heap passes the audit, and does so after a block was handed out. -/
theorem integrity_smallHeap :
    smallHeap.verify = .ok () ∧ smallHeap.Countable ∧
      ((Request.allocate 8).perform smallHeap).state.verify = .ok () ∧
      smallHeap.used + smallHeap.free = smallHeap.total := by
  obtain ⟨fresh, kept, reached⟩ := integrity
  have accepted := fresh smallRegion smallHeap create_smallRegion
  have countable : smallHeap.Countable := by
    unfold Countable
    decide +kernel
  obtain ⟨_, _, _, _, _, shared, _⟩ := reached smallHeap .empty (.fresh create_smallRegion)
  exact ⟨accepted, countable, (kept smallHeap accepted countable (.allocate 8)).2, shared⟩

end Heap

end MiniKernel
