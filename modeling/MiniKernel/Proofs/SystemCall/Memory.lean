/-
**Memory for callers.**

The call for memory answers an address, the call for freeing takes one. Between the two anything may
be done to the core: the handle behind the address stays the same, since the arena never moves.

* `Core.Leads`, `Core.Ran` — the cores met in a run, with all that the heap was asked on the way.
* `Core.Ran.housed` — the stack of every process was handed out by the heap.
* `SystemCall.malloc_cases` — **one call for memory**: refused with nothing changed for want of
  room, or a new range.
* `SystemCall.free_outstanding` — **one call for freeing** takes the range that starts there back as
  long as it is out; the next one is refused.
-/

import MiniKernel.Proofs.Heap.Outstanding
import MiniKernel.Proofs.Process.Passes
import MiniKernel.Proofs.SystemCall.Safety

namespace MiniKernel

-- A selection pass is known by its lemmas only.
seal ProcessTable.select ProcessTable.selectNotices

/-! ### What the heap is asked in a run -/

/-- What an operation asks of the heap, with the answer. -/
def Core.Operation.exchanges (operation : Operation) (core : Core) : List Heap.Exchange :=
  ((operation.asks? core).map fun ask => ⟨ask, (ask.perform core.heap).result⟩).toList

/-- What a system call asks of the heap, with the answer. -/
def SystemCall.Call.exchanges (call : Call) (core : Core) : List Heap.Exchange :=
  (call.operation? core).elim [] (·.exchanges core)

namespace Core

open Heap (Exchange)

variable {start core later last : Core} {history since : List Exchange} {slot : Slot}
  {stack : Stack}

/-- **The cores a core leads to by operations**, with what the heap was asked, the latest first. -/
inductive Leads (start : Core) : Core → List Exchange → Prop
  | here : Leads start start []
  | step {core : Core} {history : List Exchange} (leads : Leads start core history)
    (operation : Operation) (returns : (operation.perform core).result.Returns) :
    Leads start (operation.perform core).state (operation.exchanges core ++ history)

theorem Leads.trans (first : start.Leads core history) (rest : core.Leads later since) :
    start.Leads later (since ++ history) := by
  induction rest with
  | here => exact first
  | step _ operation returns ih =>
    rw [List.append_assoc]
    exact ih.step operation returns

/-- A system call is one such step, or none. -/
theorem Leads.call (leads : start.Leads core history) (timer : Timer) (call : SystemCall.Call)
    (returns : (SystemCall.perform timer call core).result.Returns) :
    start.Leads (SystemCall.perform timer call core).state (call.exchanges core ++ history) := by
  unfold SystemCall.Call.exchanges
  cases amounts : call.operation? core with
  | none =>
    rw [SystemCall.state_of_plain amounts]
    exact leads
  | some operation =>
    obtain ⟨same, performed⟩ := SystemCall.state_of_operation timer amounts
    rw [same]
    exact leads.step operation (performed returns)

/-- A request of the heap that answers is one such step. -/
theorem Leads.served {request : Heap.Request} {reply : Heap.Reply} {heap : Heap}
    {effects : List Effect} (run : request.perform core.heap = ⟨.ok reply, heap, effects⟩) :
    core.Leads ⟨heap, core.processes⟩ [⟨request, .ok reply⟩] := by
  have performs : (Operation.heap request).perform core =
      ⟨.ok (.inr reply), ⟨heap, core.processes⟩, effects⟩ := by
    rw [perform_heap, run]
    rfl
  have asked : (Operation.heap request).exchanges core = [⟨request, .ok reply⟩] := by
    show [(⟨request, (request.perform core.heap).result⟩ : Exchange)] = _
    rw [run]
  have returns : ((Operation.heap request).perform core).result.Returns := by
    rw [performs]
    exact Answer.returns_ok _
  have step := Leads.here.step (.heap request) returns
  rwa [performs, asked] at step

/-- A core as it is made: a fresh heap and only the kernel's process. -/
def Fresh (core : Core) : Prop := ∃ (region : Region) (timer : Timer) (stackBytes : Nat),
  ((create region timer stackBytes : Action Unit KernelRefusal Core) ()).result = .ok core

/-- **The cores met in a run from a fresh one**, with what the heap was asked. -/
def Ran (core : Core) (history : List Exchange) : Prop :=
  ∃ start : Core, start.Fresh ∧ start.Leads core history

theorem Ran.leads (ran : core.Ran history) (leads : core.Leads later since) :
    later.Ran (since ++ history) := by
  obtain ⟨start, fresh, before⟩ := ran
  exact ⟨start, fresh, before.trans leads⟩

/-- What a fresh core is made of. -/
theorem Fresh.parts (fresh : core.Fresh) :
    ∃ (region : Region) (stackBytes now : Nat),
      ((Heap.create region : Action Unit HeapRefusal Heap) ()).result = .ok core.heap ∧
        core.processes = ProcessTable.create stackBytes now := by
  obtain ⟨region, timer, stackBytes, made⟩ := fresh
  obtain ⟨heap, made_heap, rest, _⟩ := Action.ok_of_bind made
  obtain ⟨now, _, made_core, _⟩ := Action.ok_of_bind rest
  cases made_core
  exact ⟨region, stackBytes, now, Action.ok_of_relabel made_heap, rfl⟩

/-- A core over a region that makes an arena is one of those. -/
theorem fresh_ofArena {region : Region} {arena : Arena}
    (placed : Arena.ofRegion? region = some arena) (stackBytes now : Nat) :
    Fresh ⟨Heap.ofArena arena, ProcessTable.create stackBytes now⟩ := by
  refine ⟨region, ⟨now, 1⟩, stackBytes, ?_⟩
  have seconds : (⟨now, 1⟩ : Timer).seconds = (.ok now : Answer KernelRefusal Nat) := by
    rw [Timer.seconds, Checked.div_eq_ok Nat.one_ne_zero, Nat.div_one]
  unfold create Heap.create
  rw [placed, seconds]
  rfl

/-- **A core that a boot publishes is met in a run.** -/
theorem ran_ofArena {region : Region} {arena : Arena}
    (placed : Arena.ofRegion? region = some arena) (stackBytes now : Nat) :
    Ran ⟨Heap.ofArena arena, (ProcessTable.create stackBytes now).started⟩ [] :=
  ⟨_, fresh_ofArena placed stackBytes now,
    Leads.here.step (.processes .start) (Answer.returns_ok _)⟩

/-! ### The heap of a run -/

/-- **A run of the core is a run of its heap**, and does not move the arena. -/
theorem Leads.heap {before : List Exchange} (leads : start.Leads core history)
    (ran : start.heap.Ran before) :
    core.heap.Ran (history ++ before) ∧ core.heap.base = start.heap.base := by
  induction leads with
  | here => exact ⟨ran, rfl⟩
  | @step core history _ operation returns ih =>
    obtain ⟨met, base⟩ := ih
    have served := heap_of_operation operation returns
    unfold Operation.exchanges
    cases asks : operation.asks? core with
    | none =>
      rw [asks] at served
      rw [show (operation.perform core).state.heap = core.heap from served]
      exact ⟨met, base⟩
    | some ask =>
      rw [asks] at served
      obtain ⟨asked, same⟩ := served
      obtain ⟨_, _, course⟩ := met.course asked
      rw [same]
      exact ⟨met.step ask asked, course.base.trans base⟩

theorem Ran.heap (ran : core.Ran history) : core.heap.Ran history := by
  obtain ⟨start, fresh, leads⟩ := ran
  obtain ⟨region, _, _, made, _⟩ := fresh.parts
  have met := (leads.heap (.fresh made)).1
  rwa [List.append_nil] at met

theorem Leads.worked (leads : start.Leads core history) : Worked start core := by
  induction leads with
  | here => exact .refl
  | step _ operation returns ih => exact ih.tail ⟨operation, returns, rfl⟩

theorem Ran.consistent (ran : core.Ran history) : core.processes.Consistent := by
  obtain ⟨start, fresh, leads⟩ := ran
  obtain ⟨region, stackBytes, now, made, processes⟩ := fresh.parts
  obtain ⟨blocks, honours⟩ := (Heap.Reached.fresh made).honours
  have sane : start.Sane := by
    refine ⟨⟨blocks, honours.toSound⟩, ?_⟩
    rw [processes]
    exact ProcessTable.consistent_create stackBytes now
  exact (sane.worked leads.worked).consistent

/-- An address goes on to mean the same handle. -/
theorem Leads.address (leads : core.Leads later since) (ran : core.Ran history) (handle : Handle) :
    later.heap.address handle = core.heap.address handle := by
  rw [Heap.address, Heap.address, (leads.heap ran.heap).2]

/-! ### Stacks -/

/-- The stack a process has after a pass it had before. -/
theorem stackOf_of_select {table : ProcessTable} (selectable : table.Selectable)
    (has : table.select.stackOf slot = some stack) : table.stackOf slot = some stack := by
  cases on : table.enabled with
  | false => rwa [ProcessTable.select_off on] at has
  | true =>
    unfold ProcessTable.stackOf at has ⊢
    rw [selectable.process_select on] at has
    split at has
    · cases has
    · split at has
      · exact has
      · split at has <;> exact has

theorem stackOf_of_put {table : ProcessTable} {changed : Slot} {process : ProcessEntry}
    (has : (table.put changed process).stackOf slot = some stack)
    (keeps : process.stack = none ∨ process.stack = table.stackOf changed) :
    table.stackOf slot = some stack := by
  rw [ProcessTable.stackOf_put] at has
  rcases Books.update_eq_some_iff.mp has with ⟨rfl, given⟩ | ⟨_, had⟩
  · rcases keeps with bare | same
    · rw [bare] at given
      cases given
    · rw [← same]
      exact given
  · exact had

/-- No request but a creation gives a process a stack. -/
theorem Course.stackOf {after : Core} {request : Request} {result : Answer ProcessRefusal Reply}
    {effects : List Effect} (course : core.Course request result after effects)
    (consistent : core.processes.Consistent)
    (creates : ∀ name entry priority now, request ≠ .spawn name entry priority now)
    (has : after.processes.stackOf slot = some stack) :
    core.processes.stackOf slot = some stack := by
  cases course with
  | refused | unmoved | started => exact has
  | short | spawned => exact absurd rfl (creates _ _ _ _)
  | @exited code _ _ user returned =>
    have selectable : (Core.exited core.processes code).Selectable :=
      consistent.ending user rfl rfl
    exact stackOf_of_put (stackOf_of_select selectable has) (Or.inl rfl)
  | @killed pid killed _ _ positive found returned =>
    unfold cleared at has
    split at has
    · rename_i current
      subst current
      have selectable := consistent.clearing (consistent.user positive found)
      exact stackOf_of_put (stackOf_of_select selectable has) (Or.inl rfl)
    · exact stackOf_of_put has (Or.inl rfl)
  | blocked user runs =>
    exact stackOf_of_put (stackOf_of_select (consistent.blocking user runs) has) (Or.inr rfl)
  | unblocked => exact stackOf_of_put has (Or.inr rfl)
  | yielded => exact stackOf_of_select consistent.selectable has
  | ticked => exact stackOf_of_put has (Or.inr rfl)

/-- **A process that has a stack had it before, or was just created with it.** -/
theorem stackOf_of_request (request : Request) (consistent : core.processes.Consistent)
    (returns : (request.perform core).result.Returns)
    (has : (request.perform core).state.processes.stackOf slot = some stack) :
    core.processes.stackOf slot = some stack ∨
      request.asks? core.processes = some (.allocate stack.size) ∧
        ((Heap.Request.allocate stack.size).perform core.heap).result =
          .ok (.handle stack.handle) ∧
        stack.base = (request.perform core).state.heap.address stack.handle := by
  cases request with
  | spawn name entry priority now =>
    rw [Request.perform, Action.map_apply] at returns has ⊢
    rcases spawn_cases name entry priority now (Answer.returns_of_map returns) with
      ⟨_, run⟩ | ⟨_, _, _, _, _, _, _, run⟩ |
      ⟨taken, handle, heap, effects, top, context, found, small, served, _, _, run⟩
    · rw [run] at has
      exact Or.inl has
    · rw [run] at has
      exact Or.inl has
    · rw [run] at has ⊢
      have has : Function.update core.processes.stackOf taken
          (some ⟨handle, heap.address handle, core.processes.stackBytes⟩) slot = some stack := by
        rw [← has, ProcessTable.stackOf_put]
        rfl
      rcases Books.update_eq_some_iff.mp has with ⟨rfl, ⟨⟩⟩ | ⟨_, had⟩
      · refine Or.inr ⟨?_, ?_, rfl⟩
        · rw [Request.asks?, if_pos ⟨by rw [found]; rfl, small⟩]
        · rw [Heap.Request.perform_allocate served]
          rfl
      · exact Or.inl had
  | start | exit _ | kill _ | block _ | unblock _ | yield | tick =>
    refine Or.inl ((perform_course _ returns).stackOf consistent ?_ has)
    rintro _ _ _ _ ⟨⟩

/-- **The stack of every process was handed out by the heap, and is where it says.** -/
theorem Ran.housed (ran : core.Ran history) (has : core.processes.stackOf slot = some stack) :
    stack.base = core.heap.address stack.handle ∧ .handing stack.size stack.handle ∈ history := by
  obtain ⟨start, fresh, leads⟩ := ran
  induction leads generalizing slot stack with
  | here =>
    obtain ⟨region, stackBytes, now, _, processes⟩ := fresh.parts
    rw [processes, (ProcessTable.housed_create stackBytes now).2] at has
    cases has
  | @step core history leads operation returns ih =>
    have ran : core.Ran history := ⟨start, fresh, leads⟩
    have base := (Leads.here.step operation returns).address ran
    have had : core.processes.stackOf slot = some stack →
        stack.base = (operation.perform core).state.heap.address stack.handle ∧
          .handing stack.size stack.handle ∈ operation.exchanges core ++ history := by
      intro had
      obtain ⟨place, given⟩ := ih had
      exact ⟨place.trans (base _).symm, List.mem_append_right _ given⟩
    cases operation with
    | heap request =>
      rw [perform_heap] at has
      exact had has
    | processes request =>
      rw [perform_processes] at has
      rcases stackOf_of_request request ran.consistent (returns_processes.mp returns) has with
        before | ⟨asks, answers, place⟩
      · exact had before
      · refine ⟨?_, List.mem_append_left _ ?_⟩
        · rw [perform_processes]
          exact place
        · rw [Operation.exchanges, Operation.asks?, asks, Option.map_some, answers]
          exact List.mem_singleton_self _

end Core

/-! ### The two calls -/

namespace SystemCall

open Heap (Exchange Outstanding)

variable {timer : Timer} {call : Call} {core : Core} {history : List Exchange} {handle : Handle}
  {size : Nat}

/-- **A call that amounts to an operation goes as that does**, and answers what came of it. -/
theorem perform_of_operation (timer : Timer) {operation : Core.Operation}
    (amounts : call.operation? core = some operation) :
    perform timer call core =
      ⟨(operation.perform core).result.map fun answer =>
          .value (told (operation.perform core).state answer),
        (operation.perform core).state, call.notice :: (operation.perform core).effects⟩ := by
  have course := perform_course timer call core
  cases run : perform timer call core with
  | mk result after effects =>
    simp only [run] at course
    cases course with
    | asked _ queries _ | stuck _ queries =>
      rw [queries.plain] at amounts
      cases amounts
    | refused _ _ plain =>
      rw [amounts] at plain
      cases plain
    | served same ran | failed same ran =>
      rw [amounts] at same
      cases same
      rw [ran]
      rfl

section Served

variable {request : Heap.Request} {heap : Heap} {effects : List Effect}

theorem perform_answered {reply : Heap.Reply} (timer : Timer)
    (amounts : call.operation? core = some (.heap request))
    (run : request.perform core.heap = ⟨.ok reply, heap, effects⟩) :
    perform timer call core =
      ⟨.ok (.value (told ⟨heap, core.processes⟩ (.inr reply))), ⟨heap, core.processes⟩,
        call.notice :: effects⟩ := by
  rw [perform_of_operation timer amounts, Core.perform_heap, run]
  rfl

theorem perform_refused {cause : HeapRefusal} (timer : Timer)
    (amounts : call.operation? core = some (.heap request))
    (run : request.perform core.heap = ⟨.error (.refused cause), heap, effects⟩) :
    perform timer call core =
      ⟨.error (.refused (.ofHeap cause)), ⟨heap, core.processes⟩, call.notice :: effects⟩ := by
  rw [perform_of_operation timer amounts, Core.perform_heap, run]
  rfl

end Served

/-- **A call for memory** is refused with nothing changed, for no bytes or when there is no room for
them, or answers the address of a new block. -/
theorem malloc_cases (ran : core.Ran history) (number : Number.ofWord call.number = .malloc)
    (going : core.heap.allocations + 1 < longLimit ∨ (perform timer call core).result.Returns) :
    (call.arg0 = 0 ∧ ∃ effects,
      perform timer call core = ⟨.error (.refused .invalidArgument), core, effects⟩) ∨
    (core.heap.Crowded call.arg0 ∧ ∃ effects,
      perform timer call core = ⟨.error (.refused .outOfMemory), core, effects⟩) ∨
    ∃ handle heap effects, Heap.allocate call.arg0 core.heap = ⟨.ok handle, heap, []⟩ ∧
      core.Leads ⟨heap, core.processes⟩ [.handing call.arg0 handle] ∧
      perform timer call core =
        ⟨.ok (.value (core.heap.address handle)), ⟨heap, core.processes⟩, effects⟩ := by
  have amounts : call.operation? core = some (.heap (.allocate call.arg0)) := by
    rw [Call.operation?, number]
  obtain ⟨blocks, honours⟩ := ran.heap.reached.honours
  have going : core.heap.allocations + 1 < longLimit ∨
      (Heap.allocate call.arg0 core.heap).result.Returns := by
    refine going.imp_right fun returns => ?_
    have performed := Core.returns_heap.mp ((state_of_operation timer amounts).2 returns)
    rw [Heap.Request.perform, Action.map_apply] at performed
    exact Answer.returns_of_map performed
  rcases Heap.allocate_cases honours.toSound call.arg0 going with ⟨zero, run⟩ |
    ⟨positive, short, _, _, run⟩ | ⟨_, _, _, block, _, heap, _, _, _, run⟩
  · exact Or.inl ⟨zero, _, perform_refused timer amounts (Heap.Request.perform_allocate run)⟩
  · exact Or.inr (Or.inl ⟨Heap.crowded_of_refused honours.toSound positive short, _,
      perform_refused timer amounts (Heap.Request.perform_allocate run)⟩)
  · have performs := Heap.Request.perform_allocate run
    have answers := perform_answered timer amounts performs
    obtain ⟨_, base, _⟩ := ran.heap.of_allocate run
    have place : told ⟨heap, core.processes⟩ (.inr (.handle ⟨block.payload⟩)) =
        core.heap.address ⟨block.payload⟩ := by
      rw [told, Heap.address, Heap.address, base]
    rw [place] at answers
    exact Or.inr (Or.inr ⟨⟨block.payload⟩, heap, _, run, .served performs, answers⟩)

/-- An address in the arena is where its handle says. -/
theorem handleAt_address {heap : Heap} (inside : handle.offset < heap.total) :
    heap.handleAt (heap.address handle) = .ok handle := by
  rw [Heap.handleAt, Heap.address, Nat.add_sub_cancel_left, if_pos ⟨Nat.le_add_right _ _, inside⟩]

/-- **A call for freeing takes back the range that starts there** as long as it is out, and that
alone. The next one is refused, with nothing changed. -/
theorem free_outstanding (timer : Timer) (ran : core.Ran history)
    (number : Number.ofWord call.number = .free) (place : call.arg0 = core.heap.address handle)
    (out : Outstanding history handle size) :
    ∃ heap effects, core.Leads ⟨heap, core.processes⟩ [⟨.release handle, .ok .done⟩] ∧
      heap.locate handle = .refuse .invalidAddress ∧
      (∀ other, other ≠ handle → core.heap.Alike heap other) ∧
      perform timer call core = ⟨.ok (.value 0), ⟨heap, core.processes⟩, effects⟩ ∧
      ∀ timer again, Number.ofWord again.number = .free → again.arg0 = call.arg0 →
        ∃ effects, perform timer again ⟨heap, core.processes⟩ =
          ⟨.error (.refused .invalidArgument), ⟨heap, core.processes⟩, effects⟩ := by
  obtain ⟨inside, heap, run, total, gone, others⟩ := ran.heap.takenBack out
  have releases : ∀ {core : Core} {call : Call}, Number.ofWord call.number = .free →
      call.arg0 = core.heap.address handle → handle.offset < core.heap.total →
        call.operation? core = some (.heap (.release handle)) := by
    intro core call number place inside
    rw [Call.operation?, number, place, handleAt_address inside]
  have performs : (Heap.Request.release handle).perform core.heap = ⟨.ok .done, heap, []⟩ :=
    Heap.Request.perform_release run
  have leads : core.Leads ⟨heap, core.processes⟩ [⟨.release handle, .ok .done⟩] :=
    .served performs
  refine ⟨heap, _, leads, gone, others,
    perform_answered timer (releases number place inside) performs,
    fun timer again number same => ?_⟩
  have there : again.arg0 = heap.address handle := by
    rw [same, place]
    exact (leads.address ran handle).symm
  exact ⟨_, perform_refused timer (releases number there (total ▸ inside))
    (Heap.perform_unlocated gone rfl)⟩

end SystemCall

end MiniKernel
