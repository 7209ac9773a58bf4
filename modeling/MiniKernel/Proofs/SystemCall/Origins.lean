/-
**Whose blocks the call for freeing takes back.**

The call takes an address and asks the heap alone, which knows no owners. So it takes back whatever
block starts there: one handed out by the call for memory, or the stack of a process.

* `Core.Origins` — for each live block whether it was handed to a caller or to a new process, told
  by what the operations ask of the heap and are answered (`Core.Origins.follow`).
* `Core.Traced` — the cores met in a run of process requests and system calls, with the origins and
  the stacks that calls have taken away so far.
* `Core.Known` — the origins are of the live blocks, and of no others; every operation keeps it.
* `Core.Owned` — every block that is no caller's is the stack of one process; kept as long as no
  call takes a stack away.
* `Core.free_takes_handed` — **what the call takes back was handed out and not taken back since**,
  and the stacks are safe until a call takes one of them; `Core.free_takes_stack` — which can happen.
-/

import MiniKernel.Proofs.Process.Ownership
import MiniKernel.Proofs.SystemCall.Operations

namespace MiniKernel

-- A selection pass is known by its lemmas only.
seal ProcessTable.select ProcessTable.selectNotices

namespace Core

/-! ### Origins -/

/-- Who a block was handed to: a caller of the call for memory, or a new process. -/
inductive Origin
  | malloc
  | stack
  deriving DecidableEq, Repr

/-- Who each live block was handed to. -/
abbrev Origins : Type := Handle → Option Origin

namespace Origins

/-- Nothing was handed out. -/
def empty : Origins := fun _ => none

/-- The origins after a request made for `origin` was answered by the heap. -/
def after (origins : Origins) (origin : Origin) :
    Heap.Request → Answer HeapRefusal Heap.Reply → Origins
  | .allocate _, .ok (.handle handle) => Function.update origins handle (some origin)
  | .allocateClear _ _, .ok (.handle handle) => Function.update origins handle (some origin)
  | .reallocate old _, .ok (.handle handle) =>
    Function.update (Function.update origins old none) handle (some origin)
  | .release handle, .ok _ => Function.update origins handle none
  | _, _ => origins

/-- A failed request moves nothing. -/
theorem after_failed (origins : Origins) (origin : Origin) (request : Heap.Request)
    (failure : Failure HeapRefusal) : origins.after origin request (.error failure) = origins := by
  cases request <;> rfl

theorem after_of_not_moves {request : Heap.Request} {result : Answer HeapRefusal Heap.Reply}
    {handle : Handle} (origins : Origins) (origin : Origin)
    (still : ¬ request.moves result handle) :
    origins.after origin request result handle = origins handle := by
  unfold Heap.Request.moves at still
  unfold after
  split
  · exact Function.update_of_ne still ..
  · exact Function.update_of_ne still ..
  · obtain ⟨off, apart⟩ := not_or.mp still
    rw [Function.update_of_ne apart, Function.update_of_ne off]
  · exact Function.update_of_ne still ..
  · rfl

/-- What is moved is handed to the one the request was made for, or to nobody. -/
theorem after_of_moves {request : Heap.Request} {result : Answer HeapRefusal Heap.Reply}
    {handle : Handle} {owner : Origin} (origins : Origins) (origin : Origin)
    (moves : request.moves result handle)
    (owns : origins.after origin request result handle = some owner) : owner = origin := by
  unfold Heap.Request.moves at moves
  split at moves
  · rw [moves, after, Function.update_self] at owns
    exact (Option.some.inj owns).symm
  · rw [moves, after, Function.update_self] at owns
    exact (Option.some.inj owns).symm
  · rename_i old _ answered
    rw [after] at owns
    by_cases same : handle = answered
    · rw [same, Function.update_self] at owns
      exact (Option.some.inj owns).symm
    · rw [Function.update_of_ne same, moves.resolve_right same, Function.update_self] at owns
      cases owns
  · rw [moves, after, Function.update_self] at owns
    cases owns
  · exact absurd moves id

end Origins

/-- Who an operation asks the heap for. -/
def Operation.origin : Operation → Origin
  | .processes _ => .stack
  | .heap _ => .malloc

/-- The origins after an operation. -/
def Origins.follow (origins : Origins) (core : Core) (operation : Operation) : Origins :=
  match operation.asks? core with
  | none => origins
  | some ask => origins.after operation.origin ask (ask.perform core.heap).result

theorem Origins.follow_quiet {origins : Origins} {core : Core} (operation : Operation)
    (quiet : operation.asks? core = none) : origins.follow core operation = origins := by
  rw [follow, quiet]

theorem Origins.follow_asking {origins : Origins} {core : Core} (operation : Operation)
    {ask : Heap.Request} (asks : operation.asks? core = some ask) :
    origins.follow core operation =
      origins.after operation.origin ask (ask.perform core.heap).result := by
  rw [follow, asks]

variable {core : Core} {origins : Origins} {ledger clients : Heap.Ledger} {origin : Origin}

section Entries

variable (rel : Option Nat → Option Origin → Prop)

theorem rel_update {handle : Handle} {size : Option Nat} {entry : Option Origin}
    (each : ∀ handle, rel (ledger handle) (origins handle)) (here : rel size entry)
    (other : Handle) :
    rel (ledger.set handle size other) (Function.update origins handle entry other) := by
  by_cases same : other = handle
  · subst same
    rw [Heap.Ledger.set_same, Function.update_self]
    exact here
  · rw [Heap.Ledger.set_other same, Function.update_of_ne same]
    exact each other

/-- **Ledger and origins are written side by side**, so what relates their entries is kept. -/
theorem rel_after (nobody : rel none none) (somebody : ∀ size, rel (some size) (some origin))
    (each : ∀ handle, rel (ledger handle) (origins handle)) (request : Heap.Request)
    (result : Answer HeapRefusal Heap.Reply) (handle : Handle) :
    rel (ledger.after request result handle) (origins.after origin request result handle) := by
  cases result with
  | error failure => cases request <;> exact each handle
  | ok reply =>
    cases request with
    | allocate size | allocateClear _ _ =>
      cases reply with
      | handle given => exact rel_update rel each (somebody _) handle
      | count _ | bytes _ | done => exact each handle
    | reallocate old size =>
      cases reply with
      | handle given => exact rel_update rel (rel_update rel each nobody) (somebody _) handle
      | count _ | bytes _ | done => exact each handle
    | release released => exact rel_update rel each nobody handle
    | capacity _ | payload _ | write _ _ _ | fill _ _ => exact each handle

end Entries

/-! ### The origins are of the live blocks -/

/-- **The live blocks of a heap as it makes them, and those with an origin, are the same.** -/
def Known (core : Core) (origins : Origins) : Prop :=
  ∃ blocks ledger, core.heap.Honours blocks ledger ∧
    ∀ handle, (origins handle).isSome = (ledger handle).isSome

theorem Known.isSome_iff (known : Known core origins) (handle : Handle) :
    (origins handle).isSome ↔ ∃ block, core.heap.locate handle = .ok block := by
  obtain ⟨_, ledger, honours, agree⟩ := known
  rw [agree, Option.isSome_iff_exists]
  constructor
  · rintro ⟨size, held⟩
    obtain ⟨block, located, _⟩ := (honours.owed _ _).mp held
    exact ⟨block, located⟩
  · rintro ⟨block, located⟩
    exact ⟨_, (honours.owed _ _).mpr ⟨block, located, rfl⟩⟩

/-- A live block was handed to a caller or to a new process. -/
theorem Known.handed (known : Known core origins) {handle : Handle}
    (located : ∃ block, core.heap.locate handle = .ok block) :
    origins handle = some .malloc ∨ origins handle = some .stack := by
  obtain ⟨origin, given⟩ := Option.isSome_iff_exists.mp ((known.isSome_iff handle).mpr located)
  cases origin with
  | malloc => exact Or.inl given
  | stack => exact Or.inr given

/-- **Every operation keeps the origins those of the live blocks.** -/
theorem Known.operation (known : Known core origins) (operation : Operation)
    (returns : (operation.perform core).result.Returns) :
    Known (operation.perform core).state (origins.follow core operation) := by
  obtain ⟨blocks, ledger, honours, agree⟩ := known
  have served := heap_of_operation operation returns
  cases asks : operation.asks? core with
  | none =>
    rw [asks] at served
    rw [Origins.follow_quiet operation asks]
    refine ⟨blocks, ledger, ?_, agree⟩
    rw [show (operation.perform core).state.heap = core.heap from served]
    exact honours
  | some ask =>
    rw [asks] at served
    rw [Origins.follow_asking operation asks]
    obtain ⟨asked, same⟩ := served
    have course := Heap.perform_course honours.toSound ask (Or.inr asked)
    obtain ⟨later, goes_on⟩ := honours.course course
    rw [← same] at goes_on
    exact ⟨later, _, goes_on, rel_after (fun size entry => entry.isSome = size.isSome) rfl
      (fun _ => rfl) agree ask _⟩

/-! ### Whose the blocks are -/

/-- **The books are kept**, and what the callers hold are the blocks handed to them. -/
def Owned (core : Core) (origins : Origins) : Prop :=
  ∃ clients, core.Accounted clients ∧
    ∀ handle, (clients handle).isSome ↔ origins handle = some .malloc

/-- A request about processes asks for a new block, or gives back the stack of one of them. -/
theorem Request.asks_cases {table : ProcessTable} {request : Request} {ask : Heap.Request}
    (asks : request.asks? table = some ask) :
    (∃ size, ask = .allocate size) ∨
      ∃ slot stack, table.stackOf slot = some stack ∧ ask = .release stack.handle := by
  cases request with
  | spawn _ _ _ _ =>
    rw [Request.asks?] at asks
    split at asks
    · cases asks
      exact Or.inl ⟨_, rfl⟩
    · cases asks
  | exit code =>
    rw [Request.asks?] at asks
    split at asks
    · cases asks
    · obtain ⟨stack, has, rfl⟩ := Option.map_eq_some_iff.mp asks
      exact Or.inr ⟨table.current, stack, has, rfl⟩
  | kill pid =>
    rw [Request.asks?] at asks
    split at asks
    · cases asks
    · obtain ⟨stack, has, rfl⟩ := Option.map_eq_some_iff.mp asks
      obtain ⟨slot, _, has⟩ := Option.bind_eq_some_iff.mp has
      exact Or.inr ⟨slot, stack, has, rfl⟩
  | start | block _ | unblock _ | yield | tick => cases asks

/-- What a request about processes moves is no caller's. -/
theorem Accounted.unshared (accounted : core.Accounted clients) {request : Request}
    {ask : Heap.Request} {handle : Handle} (asks : request.asks? core.processes = some ask)
    (returns : (ask.perform core.heap).result.Returns)
    (moves : ask.moves (ask.perform core.heap).result handle) : clients handle = none := by
  obtain ⟨_, ledger, honours, books⟩ := accounted.honest
  have unheld : ledger handle = none → clients handle = none := by
    intro free
    cases entry : clients handle with
    | none => rfl
    | some size =>
      rw [books.included handle size entry] at free
      cases free
  rcases Request.asks_cases asks with ⟨size, rfl⟩ | ⟨slot, stack, has, rfl⟩
  · have course := Heap.perform_course honours.toSound _ (Or.inr returns)
    rcases Heap.Request.answered_or_spent moves with answered | spent
    · rcases course.answered honours.toSound answered with refused | ⟨_, other⟩
      · exact unheld (honours.unheld refused)
      · cases other
    · cases spent
  · rcases Heap.Request.answered_or_spent moves with answered | spent
    · rw [Heap.Request.perform, Action.map_apply] at answered
      cases ends : (Heap.release stack.handle core.heap).result with
      | ok value =>
        rw [ends] at answered
        cases answered
      | error failure =>
        rw [ends] at answered
        cases answered
    · cases spent
      exact books.unshared slot stack has

namespace Owned

/-- A stack of a process is no caller's block, told by its origin. -/
theorem stack (owned : Owned core origins) (known : Known core origins) {slot : Slot}
    {stack : Stack} (has : core.processes.stackOf slot = some stack) :
    origins stack.handle = some .stack := by
  obtain ⟨clients, accounted, agree⟩ := owned
  obtain ⟨_, _, honours, books⟩ := accounted.honest
  obtain ⟨block, located, _⟩ := (honours.owed _ _).mp (books.held slot stack has)
  rcases known.handed ⟨block, located⟩ with called | stacked
  · have client := (agree stack.handle).mpr called
    rw [books.unshared slot stack has] at client
    cases client
  · exact stacked

/-- **A request about processes moves no caller's block.** -/
theorem processes (owned : Owned core origins) (request : Request)
    (returns : (request.perform core).result.Returns) :
    Owned (request.perform core).state (origins.follow core (.processes request)) := by
  obtain ⟨clients, accounted, agree⟩ := owned
  obtain ⟨blocks, ledger, honours, books⟩ := accounted.honest
  have served := heap_of_request request returns
  refine ⟨clients, (accounted.request (perform_course request returns)).1, fun handle => ?_⟩
  cases asks : request.asks? core.processes with
  | none =>
    rw [Origins.follow_quiet (.processes request) asks]
    exact agree handle
  | some ask =>
    rw [Origins.follow_asking (.processes request) asks]
    rw [asks] at served
    by_cases moves : ask.moves (ask.perform core.heap).result handle
    · rw [accounted.unshared asks served.1 moves]
      refine ⟨nofun, fun called => ?_⟩
      cases Origins.after_of_moves origins _ moves called
    · rw [Origins.after_of_not_moves origins _ moves]
      exact agree handle

/-- **A caller's request of the heap keeps what is whose**, unless it uses up a stack. -/
theorem heap (owned : Owned core origins) (known : Known core origins) (request : Heap.Request)
    (own : ∀ handle, request.spent? = some handle → origins handle ≠ some .stack)
    (returns : ((Operation.heap request).perform core).result.Returns) :
    Owned ((Operation.heap request).perform core).state
      (origins.follow core (.heap request)) := by
  obtain ⟨clients, accounted, agree⟩ := owned
  obtain ⟨_, ledger, honours, _⟩ := accounted.honest
  replace returns := returns_heap.mp returns
  rw [perform_heap]
  rw [Origins.follow_asking (.heap request) rfl]
  have course := Heap.perform_course honours.toSound request (Or.inr returns)
  cases ends : (request.perform core.heap).result with
  | error failure =>
    rw [ends] at course
    rw [course.eq_of_refused, Origins.after_failed]
    exact ⟨clients, accounted, agree⟩
  | ok reply =>
    rw [ends] at course
    have held : ∀ handle, request.spent? = some handle → ∃ size, clients handle = some size := by
      intro handle spent
      rcases known.handed (course.located_of_spent spent) with called | stacked
      · exact Option.isSome_iff_exists.mp ((agree handle).mpr called)
      · exact absurd stacked (own handle spent)
    have client := accounted.client request held returns
    rw [ends] at client
    exact ⟨_, client, rel_after (fun size entry => size.isSome ↔ entry = some .malloc)
      ⟨nofun, nofun⟩ (fun _ => ⟨fun _ => rfl, fun _ => rfl⟩) agree request _⟩

end Owned

/-! ### Runs -/

/-- The origins after a call. -/
def Origins.called (origins : Origins) (core : Core) (call : SystemCall.Call) : Origins :=
  match call.operation? core with
  | none => origins
  | some operation => origins.follow core operation

/-- The stack of a process that a call uses up, if it uses up one. -/
def Origins.strayed (origins : Origins) (core : Core) (call : SystemCall.Call) : List Handle :=
  match call.operation? core with
  | some (.heap request) =>
    (request.spent?.filter fun handle => origins handle = some .stack).toList
  | _ => []

/-- **The cores met in a run of process requests and system calls from a fresh one**, with who each
live block was handed to and the stacks that calls have used up. -/
inductive Traced : Core → Origins → List Handle → Prop
  | fresh {region : Region} {heap : Heap} (stackBytes now : Nat)
    (made : ((Heap.create region : Action Unit HeapRefusal Heap) ()).result = .ok heap) :
    Traced ⟨heap, ProcessTable.create stackBytes now⟩ .empty []
  | request {core : Core} {origins : Origins} {strays : List Handle}
    (traced : Traced core origins strays) (request : Request)
    (returns : (request.perform core).result.Returns) :
    Traced (request.perform core).state (origins.follow core (.processes request)) strays
  | call {core : Core} {origins : Origins} {strays : List Handle}
    (traced : Traced core origins strays) (timer : Timer) (call : SystemCall.Call)
    (returns : (SystemCall.perform timer call core).result.Returns) :
    Traced (SystemCall.perform timer call core).state (origins.called core call)
      (strays ++ origins.strayed core call)

section Calls

variable {timer : Timer} {call : SystemCall.Call} {strays : List Handle}

theorem Known.called (known : Known core origins)
    (returns : (SystemCall.perform timer call core).result.Returns) :
    Known (SystemCall.perform timer call core).state (origins.called core call) := by
  unfold Origins.called
  cases amounts : call.operation? core with
  | none =>
    rw [SystemCall.state_of_plain amounts]
    exact known
  | some operation =>
    obtain ⟨same, performed⟩ := SystemCall.state_of_operation timer amounts
    rw [same]
    exact known.operation operation (performed returns)

theorem Owned.called (owned : Owned core origins) (known : Known core origins)
    (calm : origins.strayed core call = [])
    (returns : (SystemCall.perform timer call core).result.Returns) :
    Owned (SystemCall.perform timer call core).state (origins.called core call) := by
  unfold Origins.called
  unfold Origins.strayed at calm
  cases amounts : call.operation? core with
  | none =>
    rw [SystemCall.state_of_plain amounts]
    exact owned
  | some operation =>
    obtain ⟨same, performed⟩ := SystemCall.state_of_operation timer amounts
    rw [same]
    rw [amounts] at calm
    cases operation with
    | processes request =>
      rw [perform_processes]
      exact owned.processes request (returns_processes.mp (performed returns))
    | heap request =>
      refine owned.heap known request (fun handle spent taken => ?_) (performed returns)
      simp [spent, taken] at calm

/-- A caller that asked for memory is told the address of a block that is its own now. -/
theorem Known.malloc (known : Known core origins) {value : Nat}
    (number : SystemCall.Number.ofWord call.number = .malloc)
    (answers : (SystemCall.perform timer call core).result = .ok (.value value)) :
    ∃ handle, value = core.heap.address handle ∧ origins handle = none ∧
      origins.called core call handle = some .malloc := by
  have acts : ¬ call.queries := by
    rintro (other | other | other) <;> rw [number] at other <;> cases other
  obtain ⟨operation, answer, amounts, result, -, told⟩ :=
    SystemCall.answer_of_operation acts answers
  have allocates : call.operation? core = some (.heap (.allocate call.arg0)) := by
    rw [SystemCall.Call.operation?, number]
  rw [allocates] at amounts
  cases amounts
  obtain ⟨reply, served, rfl⟩ := answer_heap result
  obtain ⟨_, ledger, honours, agree⟩ := known
  cases run : Heap.allocate call.arg0 core.heap with
  | mk outcome heap effects =>
    have answered : outcome.map Heap.Reply.handle = .ok reply := by
      rw [Heap.Request.perform_allocate run] at served
      exact served
    cases outcome with
    | error failure => cases answered
    | ok handle =>
      cases answered
      obtain ⟨fresh, base, _⟩ := honours.allocated run
      refine ⟨handle, ?_, ?_, ?_⟩
      · rw [SystemCall.Reply.value.inj told, perform_heap, Heap.Request.perform_allocate run]
        show heap.address handle = _
        rw [Heap.address, Heap.address, base]
      · have bare := agree handle
        rw [fresh] at bare
        exact Option.isNone_iff_eq_none.mp (Option.isSome_eq_false_iff.mp bare)
      · rw [Origins.called, allocates]
        show origins.follow core _ handle = _
        rw [Origins.follow_asking (.heap _) rfl, served]
        exact Function.update_self ..

/-- A caller that gave memory back had the address of a live block, which is nobody's now. -/
theorem Known.free (known : Known core origins) {reply : SystemCall.Reply}
    (number : SystemCall.Number.ofWord call.number = .free)
    (answers : (SystemCall.perform timer call core).result = .ok reply) :
    ∃ handle, call.arg0 = core.heap.address handle ∧
      (origins handle = some .malloc ∨ origins handle = some .stack) ∧
      origins.called core call handle = none ∧
      (SystemCall.perform timer call core).state.heap.locate handle = .refuse .invalidAddress ∧
      ∀ other, other ≠ handle →
        core.heap.Alike (SystemCall.perform timer call core).state.heap other := by
  have acts : ¬ call.queries := by
    rintro (other | other | other) <;> rw [number] at other <;> cases other
  obtain ⟨operation, answer, amounts, result, same, -⟩ :=
    SystemCall.answer_of_operation acts answers
  have releases := amounts
  rw [SystemCall.Call.operation?, number] at amounts
  cases found : core.heap.handleAt call.arg0 with
  | error cause =>
    simp only [found] at amounts
    cases amounts
  | ok handle =>
  simp only [found] at amounts
  cases amounts
  have place : call.arg0 = core.heap.address handle := by
    unfold Heap.handleAt at found
    split at found
    · rename_i inside
      cases found
      exact (Nat.add_sub_cancel' inside.1).symm
    · cases found
  obtain ⟨reply, served, rfl⟩ := answer_heap result
  obtain ⟨_, _, honours, _⟩ := id known
  have course := Heap.perform_course honours.toSound (.release handle)
    (Or.inr (served.symm ▸ Answer.returns_ok _))
  rw [served] at course
  obtain ⟨located, gone, others⟩ := course.released honours.toSound
  refine ⟨handle, place, known.handed located, ?_, ?_, ?_⟩
  · rw [Origins.called, releases]
    show origins.follow core _ handle = _
    rw [Origins.follow_asking (.heap _) rfl, served]
    exact Function.update_self ..
  · rw [same, perform_heap]
    exact gone
  · rw [same, perform_heap]
    exact others

/-- **In every run the origins are of the live blocks.** -/
theorem Traced.known (traced : Traced core origins strays) : Known core origins := by
  induction traced with
  | fresh stackBytes now made =>
    obtain ⟨arena, _, rfl⟩ := Heap.create_eq_ok_iff.mp made
    obtain ⟨blocks, honours⟩ := Heap.honours_ofArena arena
    exact ⟨blocks, _, honours, fun handle => rfl⟩
  | request traced request returns ih =>
    have kept := ih.operation (.processes request) (returns_processes.mpr returns)
    rw [perform_processes] at kept
    exact kept
  | call traced timer call returns ih => exact ih.called returns

/-- **As long as no call takes a stack away, what is whose is known.** -/
theorem Traced.owned (traced : Traced core origins strays) (calm : strays = []) :
    Owned core origins := by
  induction traced with
  | fresh stackBytes now made =>
    exact ⟨.empty, (Reached.fresh stackBytes now made).accounted, fun handle => ⟨nofun, nofun⟩⟩
  | request traced request returns ih => exact (ih calm).processes request returns
  | call traced timer call returns ih =>
    obtain ⟨before, here⟩ := List.append_eq_nil_iff.mp calm
    exact (ih before).called traced.known here returns

/-- **The call for freeing takes back what was handed out.** In every run of process requests and
calls, the call for memory answers the address of a block that is the caller's from then on, and the
call for freeing takes back one live block, which was handed to a caller or to a new process and not
taken back since. As long as no call takes back a process's block, every process has its stack from
the creation to the end, shared with nobody, and what is given back at the end is a stack. -/
theorem free_takes_handed (traced : Traced core origins strays) :
    (∀ timer call value, SystemCall.Number.ofWord call.number = .malloc →
      (SystemCall.perform timer call core).result = .ok (.value value) →
      ∃ handle, value = core.heap.address handle ∧ origins handle = none ∧
        origins.called core call handle = some .malloc) ∧
    (∀ timer call reply, SystemCall.Number.ofWord call.number = .free →
      (SystemCall.perform timer call core).result = .ok reply →
      ∃ handle, call.arg0 = core.heap.address handle ∧
        (origins handle = some .malloc ∨ origins handle = some .stack) ∧
        origins.called core call handle = none ∧
        (SystemCall.perform timer call core).state.heap.locate handle = .refuse .invalidAddress ∧
        ∀ other, other ≠ handle →
          core.heap.Alike (SystemCall.perform timer call core).state.heap other) ∧
    (strays = [] →
      (∀ slot, (core.processes.process slot).pid ≠ 0 → ¬ (core.processes.process slot).isGone →
        ∃ stack block, core.processes.stackOf slot = some stack ∧
          origins stack.handle = some .stack ∧ core.heap.locate stack.handle = .ok block ∧
          block.requested = core.processes.stackBytes) ∧
      (∀ slot other stack other_stack, core.processes.stackOf slot = some stack →
        core.processes.stackOf other = some other_stack → stack.handle = other_stack.handle →
          slot = other) ∧
      ∀ (request : Request) handle, request.asks? core.processes = some (.release handle) →
        origins handle = some .stack) := by
  have known := traced.known
  refine ⟨fun timer call value => known.malloc, fun timer call reply => known.free, fun calm => ?_⟩
  have owned := traced.owned calm
  obtain ⟨clients, accounted, -⟩ := id owned
  obtain ⟨_, _, honours, books⟩ := accounted.honest
  refine ⟨fun slot user live => ?_, books.apart, fun request handle asks => ?_⟩
  · cases has : core.processes.stackOf slot with
    | none =>
      have bare := (accounted.stackOf_eq_none_iff slot).mp has
      exact absurd bare (not_or.mpr ⟨user, live⟩)
    | some stack =>
      obtain ⟨block, located, asked⟩ := (honours.owed _ _).mp (books.held slot stack has)
      exact ⟨stack, block, rfl, owned.stack known has, located, asked⟩
  · rcases Request.asks_cases asks with ⟨_, other⟩ | ⟨slot, stack, has, same⟩
    · cases other
    · cases same
      exact owned.stack known has

end Calls

/-- The origins in a core with one process, whose stack is the one live block. -/
def smallOrigins : Origins := Function.update Origins.empty ⟨16⟩ (some .stack)

theorem traced_smallCore : Traced ProcessTable.smallCore smallOrigins [] := by
  have on : Traced ⟨Heap.smallHeap, (ProcessTable.create 16 0).started⟩ .empty [] :=
    .request (.fresh 16 0 Heap.create_smallRegion) .start (Answer.returns_ok Reply.done)
  have created : ((Request.spawn "init" 64 .normal 0).perform
      ⟨Heap.smallHeap, (ProcessTable.create 16 0).started⟩).result = .ok (.number 1) := by
    decide +kernel
  have asks : (Operation.processes (.spawn "init" 64 .normal 0)).asks?
      ⟨Heap.smallHeap, (ProcessTable.create 16 0).started⟩ = some (.allocate 16) := by
    rw [Operation.asks?, Request.asks?, if_pos (by decide +kernel)]
    rfl
  have served : ((Heap.Request.allocate 16).perform Heap.smallHeap).result =
      .ok (.handle ⟨16⟩) := by
    decide +kernel
  have admitted := on.request (.spawn "init" 64 .normal 0) (created.symm ▸ Answer.returns_ok _)
  rw [Origins.follow_asking _ asks, served] at admitted
  exact admitted

/-- **A caller can free the stack of a process.** -/
theorem free_takes_stack : ¬ ∀ core origins strays, Traced core origins strays →
    ∀ timer call reply, SystemCall.Number.ofWord call.number = .free →
      (SystemCall.perform timer call core).result = .ok reply →
      ∃ handle, call.arg0 = core.heap.address handle ∧ origins handle = some .malloc := by
  intro only_callers
  have frees : (SystemCall.perform ⟨0, 100⟩ { number := 12, arg0 := 16 }
      ProcessTable.smallCore).result = .ok (.value 0) := by
    decide +kernel
  obtain ⟨handle, place, called⟩ := only_callers _ _ _ traced_smallCore _ _ _ rfl frees
  have base : ProcessTable.smallCore.heap.base = 0 := by
    decide +kernel
  have known : handle = ⟨16⟩ := by
    rw [Heap.address, base, Nat.zero_add] at place
    exact congrArg Handle.mk place.symm
  rw [known, smallOrigins, Function.update_self] at called
  cases called

/-- A core in which a caller has a block beside the stack of a process. -/
def calledCore : Core :=
  (SystemCall.perform ⟨0, 100⟩ { number := 11, arg0 := 8 } ProcessTable.smallCore).state

/-- A caller's block is taken back, and the process keeps its stack. -/
theorem free_takes_handed_calledCore :
    ∃ origins, Traced calledCore origins [] ∧
      (∃ handle, 48 = calledCore.heap.address handle ∧
        (origins handle = some .malloc ∨ origins handle = some .stack) ∧
        (SystemCall.perform ⟨0, 100⟩ { number := 12, arg0 := 48 } calledCore).state.heap.locate
          handle = .refuse .invalidAddress) ∧
      ∃ stack, calledCore.processes.stackOf 1 = some stack ∧
        origins stack.handle = some .stack := by
  have answers : (SystemCall.perform ⟨0, 100⟩ { number := 11, arg0 := 8 }
      ProcessTable.smallCore).result = .ok (.value 48) := by
    decide +kernel
  have frees : (SystemCall.perform ⟨0, 100⟩ { number := 12, arg0 := 48 } calledCore).result =
      .ok (.value 0) := by
    decide +kernel
  have user : (calledCore.processes.process 1).pid = 1 := by
    decide +kernel
  have ready : (calledCore.processes.process 1).state = .ready := by
    decide +kernel
  have traced := traced_smallCore.call ⟨0, 100⟩ { number := 11, arg0 := 8 }
    (answers.symm ▸ Answer.returns_ok _)
  obtain ⟨_, taken, kept⟩ := free_takes_handed traced
  obtain ⟨handle, place, given, _, gone, _⟩ := taken _ _ _ rfl frees
  obtain ⟨stacked, _⟩ := kept rfl
  obtain ⟨stack, _, has, origin, _⟩ := stacked 1 (user ▸ by decide)
    (ProcessEntry.not_isGone .ready ready (by decide) (by decide))
  exact ⟨_, traced, ⟨handle, place, given, gone⟩, stack, has, origin⟩

end Core

end MiniKernel
