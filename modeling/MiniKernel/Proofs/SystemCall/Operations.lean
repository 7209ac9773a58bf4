/-
**What is done to a core at a time.**

* `Core.Operation`, `Core.Operation.perform` — a request about processes, or one of the heap.
* `Core.Request.asks?` — what a request about processes asks of the heap: a stack for a new process,
  the stack of an ended one back. It asks nothing else (`Core.heap_of_request`).
* `SystemCall.Call.operation?`, `SystemCall.Course` — the operation a system call amounts to and the
  ways a call can go; `SystemCall.perform_course` — **every system call is one operation, or changes
  nothing**.
-/

import MiniKernel.Proofs.Heap.Requests
import MiniKernel.Proofs.Process.Requests
import MiniKernel.SystemCall

namespace MiniKernel

-- A selection pass is known by its lemmas only.
seal ProcessTable.select ProcessTable.selectNotices

namespace Core

variable {core after : Core} {ε δ : Type}

/-! ### Operations -/

/-- What is done to a core at a time. -/
inductive Operation
  | processes (request : Request)
  | heap (request : Heap.Request)

/-- Carry an operation out. -/
def Operation.perform : Operation → Action Core KernelRefusal (Reply ⊕ Heap.Reply)
  | .processes request => Sum.inl <$> request.perform.relabel KernelRefusal.ofProcess
  | .heap request => Sum.inr <$> (onHeap request.perform).relabel KernelRefusal.ofHeap

/-- Giving a stack back refuses for no cause. -/
theorem relabel_returnStack (rename : ε → δ) (slot : Slot) :
    (returnStack slot : Action Core ε Unit).relabel rename = returnStack slot := by
  funext core
  rw [Action.relabel_apply]
  cases held : (core.processes.process slot).stack with
  | none =>
    rw [returnStack_bare held, returnStack_bare held]
    rfl
  | some stack =>
    cases outcome : Heap.release stack.handle core.heap with
    | mk result heap effects =>
      rw [returnStack_held held outcome, returnStack_held held outcome]
      cases result with
      | ok value => rfl
      | error failure => cases failure <;> rfl

/-- Ending a process refuses for no cause. -/
theorem relabel_exit (rename : ε → δ) (code : Int) :
    (exit code : Action Core ε Unit).relabel rename = exit code := by
  unfold exit
  rw [Action.relabel_bind]
  refine congrArg _ (funext fun core => ?_)
  by_cases own : core.processes.current = ProcessTable.ownSlot
  · simp only [if_pos own]
    rfl
  · simp only [if_neg own, Action.relabel_bind, relabel_returnStack]
    rfl

theorem relabel_yield (rename : ε → δ) :
    (yield : Action Core ε Unit).relabel rename = yield := by
  funext core
  rw [Action.relabel_apply, yield_apply, yield_apply]
  rfl

/-! ### What requests about processes ask of the heap -/

/-- A stack, if there is one, is to be taken back. -/
def askBack (stack? : Option Stack) : Option Heap.Request :=
  stack?.map fun stack => .release stack.handle

/-- What a request about processes asks of the heap. -/
def Request.asks? (table : ProcessTable) : Request → Option Heap.Request
  | .spawn .. =>
    if table.freeSlot?.isSome ∧ table.nextNumber + 1 < wordLimit then
      some (.allocate table.stackBytes)
    else none
  | .exit _ =>
    if table.current = ProcessTable.ownSlot then none else askBack table.running.stack
  | .kill pid =>
    if pid = 0 then none
    else askBack ((table.slotWith? pid).bind fun slot => (table.process slot).stack)
  | .start | .block _ | .unblock _ | .yield | .tick => none

/-- The heap goes on as it is, or as a request leaves it that comes to its end. -/
def Served (before : Heap) (ask? : Option Heap.Request) (after : Heap) : Prop :=
  match ask? with
  | none => after = before
  | some ask => (ask.perform before).result.Returns ∧ after = (ask.perform before).state

theorem StackReturned.served {before heap : Heap} {pid : Nat} {stack? : Option Stack}
    {effects : List Effect} (returned : StackReturned before pid stack? heap effects) :
    Served before (askBack stack?) heap := by
  cases returned with
  | bare => exact rfl
  | released released =>
    show Answer.Returns _ ∧ _
    rw [Heap.Request.perform_release released]
    exact ⟨Answer.returns_ok _, rfl⟩
  | kept refused =>
    show Answer.Returns _ ∧ _
    rw [Heap.Request.perform_release refused]
    exact ⟨Answer.returns_refused _, rfl⟩

/-- **A request about processes does to the heap what it asks of it**, and nothing without. -/
theorem heap_of_request (request : Request) (returns : (request.perform core).result.Returns) :
    Served core.heap (request.asks? core.processes) (request.perform core).state.heap := by
  cases request with
  | start | yield => rfl
  | spawn name entry priority now =>
    rw [Request.perform, Action.map_apply] at returns ⊢
    rw [Request.asks?]
    rcases spawn_cases name entry priority now (Answer.returns_of_map returns) with
      ⟨full, run⟩ | ⟨_, _, _, _, found, small, served, run⟩ |
      ⟨_, _, _, _, _, _, found, small, served, _, _, run⟩
    · have closed : ¬(core.processes.freeSlot?.isSome ∧
          core.processes.nextNumber + 1 < wordLimit) := by
        rintro ⟨room, small⟩
        rcases full with none_free | last
        · rw [none_free] at room
          cases room
        · exact Nat.not_lt_of_le last small
      rw [run, if_neg closed]
      rfl
    · rw [run, if_pos ⟨by rw [found]; rfl, small⟩]
      show Answer.Returns _ ∧ _
      rw [Heap.Request.perform_allocate served]
      exact ⟨Answer.returns_refused _, rfl⟩
    · rw [run, if_pos ⟨by rw [found]; rfl, small⟩]
      show Answer.Returns _ ∧ _
      rw [Heap.Request.perform_allocate served]
      exact ⟨Answer.returns_ok _, rfl⟩
  | exit code =>
    rw [Request.perform, Action.map_apply] at returns ⊢
    rw [Request.asks?]
    rcases exit_cases code (Answer.returns_of_map returns) with
      ⟨own, run⟩ | ⟨user, _, _, returned, run⟩
    · rw [run, if_pos own]
      rfl
    · rw [run, if_neg user]
      exact returned.served
  | kill pid =>
    rw [Request.perform, Action.map_apply] at returns ⊢
    rw [Request.asks?]
    rcases kill_cases pid (Answer.returns_of_map returns) with
      ⟨zero | missing, run⟩ | ⟨positive, _, _, _, found, returned, run⟩
    · rw [run, if_pos zero]
      rfl
    · rw [run, missing]
      split <;> rfl
    · rw [run, if_neg positive, found]
      exact returned.served
  | block _ | unblock _ | tick =>
    rw [Request.perform, Action.map_apply]
    exact rfl

/-! ### What an operation comes to -/

theorem perform_processes (request : Request) (core : Core) :
    (Operation.processes request).perform core =
      ⟨((request.perform core).result.mapError (Failure.map KernelRefusal.ofProcess)).map Sum.inl,
        (request.perform core).state, (request.perform core).effects⟩ := by
  rw [Operation.perform, Action.map_apply, Action.relabel_apply]

theorem perform_heap (request : Heap.Request) (core : Core) :
    (Operation.heap request).perform core =
      ⟨((request.perform core.heap).result.mapError (Failure.map KernelRefusal.ofHeap)).map Sum.inr,
        ⟨(request.perform core.heap).state, core.processes⟩,
        (request.perform core.heap).effects⟩ := by
  rw [Operation.perform, Action.map_apply, Action.relabel_apply, onHeap_apply]

theorem returns_processes {request : Request} :
    ((Operation.processes request).perform core).result.Returns ↔
      (request.perform core).result.Returns := by
  rw [perform_processes, Answer.returns_map, Answer.returns_mapError]

theorem returns_heap {request : Heap.Request} :
    ((Operation.heap request).perform core).result.Returns ↔
      (request.perform core.heap).result.Returns := by
  rw [perform_heap, Answer.returns_map, Answer.returns_mapError]

/-- A request of the heap that is answered as an operation is answered by the heap. -/
theorem answer_heap {request : Heap.Request} {answer : Reply ⊕ Heap.Reply}
    (answers : ((Operation.heap request).perform core).result = .ok answer) :
    ∃ reply, (request.perform core.heap).result = .ok reply ∧ answer = .inr reply := by
  rw [perform_heap] at answers
  cases served : (request.perform core.heap).result with
  | error failure =>
    rw [served] at answers
    cases answers
  | ok reply =>
    rw [served] at answers
    cases answers
    exact ⟨reply, rfl, rfl⟩

/-- What an operation asks of the heap. -/
def Operation.asks? (core : Core) : Operation → Option Heap.Request
  | .processes request => request.asks? core.processes
  | .heap request => some request

/-- **An operation does to the heap what it asks of it**, and nothing without. -/
theorem heap_of_operation (operation : Operation)
    (returns : (operation.perform core).result.Returns) :
    Served core.heap (operation.asks? core) (operation.perform core).state.heap := by
  cases operation with
  | processes request =>
    rw [perform_processes]
    exact heap_of_request request (returns_processes.mp returns)
  | heap request =>
    rw [perform_heap]
    exact ⟨returns_heap.mp returns, rfl⟩

end Core

namespace SystemCall

/-! ### System calls -/

/-- What every call is reported with. -/
def Call.notice (call : Call) : Effect :=
  .report (.systemCall (Number.ofWord call.number).name call.arg0 call.arg1)

/-- The operation a call amounts to; none when it only asks, or is turned down at once. -/
def Call.operation? (call : Call) (core : Core) : Option Core.Operation :=
  match Number.ofWord call.number with
  | .exit => some (.processes (.exit (signedWord call.arg0)))
  | .yield => some (.processes .yield)
  | .kill => if call.arg0 < wordLimit then some (.processes (.kill call.arg0)) else none
  | .malloc => some (.heap (.allocate call.arg0))
  | .free =>
    match core.heap.handleAt call.arg0 with
    | .ok handle => some (.heap (.release handle))
    | .error _ => none
  | .getPid | .sleep | .time | .unknown => none

/-- What a call amounts to is to end a process, to let the next one run, or to hand out or take back
a block. -/
theorem Call.operation_cases {call : Call} {core : Core} {operation : Core.Operation}
    (amounts : call.operation? core = some operation) :
    (∃ code, operation = .processes (.exit code)) ∨ operation = .processes .yield ∨
      (∃ pid, operation = .processes (.kill pid)) ∨ (∃ size, operation = .heap (.allocate size)) ∨
        ∃ handle, operation = .heap (.release handle) := by
  unfold operation? at amounts
  split at amounts
  · exact Or.inl ⟨_, (Option.some.inj amounts).symm⟩
  · exact Or.inr (Or.inl (Option.some.inj amounts).symm)
  · split at amounts
    · exact Or.inr (Or.inr (Or.inl ⟨_, (Option.some.inj amounts).symm⟩))
    · cases amounts
  · exact Or.inr (Or.inr (Or.inr (Or.inl ⟨_, (Option.some.inj amounts).symm⟩)))
  · split at amounts
    · exact Or.inr (Or.inr (Or.inr (Or.inr ⟨_, (Option.some.inj amounts).symm⟩)))
    · cases amounts
  all_goals cases amounts

/-- A call that asks and changes nothing. -/
def Call.queries (call : Call) : Prop :=
  Number.ofWord call.number = .getPid ∨ Number.ofWord call.number = .sleep ∨
    Number.ofWord call.number = .time

theorem Call.queries.plain {call : Call} (queries : call.queries) (core : Core) :
    call.operation? core = none := by
  rw [operation?]
  rcases queries with number | number | number <;> rw [number]

/-- What a caller is told of an operation: the address of a new block, and 0 otherwise. -/
def told (after : Core) : Core.Reply ⊕ Heap.Reply → Nat
  | .inr (.handle handle) => after.heap.address handle
  | _ => 0

/-- **The ways a system call can go**: its answer, the core after it and what it leaves. -/
inductive Course (timer : Timer) (call : Call) (before : Core) :
    Answer KernelRefusal Reply → Core → List Effect → Prop
  | asked (reply : Reply) (queries : call.queries)
    (waits : ∀ milliseconds, reply = .sleep milliseconds → milliseconds = call.arg0) :
    Course timer call before (.ok reply) before [call.notice]
  | refused (cause : KernelRefusal) (notices : List Notice)
    (plain : call.operation? before = none) :
    Course timer call before (.error (.refused cause)) before
      (call.notice :: notices.map .report)
  /-- The time is asked of a timer that counts nothing. -/
  | stuck (still : timer.frequency = 0) (queries : call.queries) :
    Course timer call before (.error (.aborted .divideByZero)) before [call.notice]
  | served {operation : Core.Operation} {answer : Core.Reply ⊕ Heap.Reply} {after : Core}
    {effects : List Effect} (amounts : call.operation? before = some operation)
    (ran : operation.perform before = ⟨.ok answer, after, effects⟩) :
    Course timer call before (.ok (.value (told after answer))) after (call.notice :: effects)
  | failed {operation : Core.Operation} {failure : Failure KernelRefusal} {after : Core}
    {effects : List Effect} (amounts : call.operation? before = some operation)
    (ran : operation.perform before = ⟨.error failure, after, effects⟩) :
    Course timer call before (.error failure) after (call.notice :: effects)

variable {timer : Timer} {call : Call} {core : Core}

/-- A call that carries out an operation and answers by what came of it. -/
theorem course_of_operation {operation : Core.Operation}
    (amounts : call.operation? core = some operation) {run : Action Core KernelRefusal Reply}
    (answers : run core = (do
      let answer ← operation.perform
      return .value (told (← get) answer) : Action Core KernelRefusal Reply) core) :
    Course timer call core (run core).result (run core).state
      (call.notice :: (run core).effects) := by
  rw [answers]
  cases ran : operation.perform core with
  | mk result after effects =>
    cases result with
    | ok answer =>
      rw [Action.bind_apply_ok ran, Action.bind_quiet (Action.get_apply _), Action.pure_apply,
        List.append_nil]
      exact .served amounts ran
    | error failure =>
      rw [Action.bind_apply_error ran]
      exact .failed amounts ran

/-- A call that has a request about processes carried out and answers 0. -/
theorem zero_of_processes (request : Core.Request) {action : Action Core ProcessRefusal Unit}
    (performs : request.perform = (fun _ => Core.Reply.done) <$> action) (core : Core) :
    (do
      action.relabel KernelRefusal.ofProcess
      return .value 0 : Action Core KernelRefusal Reply) core = (do
      let answer ← (Core.Operation.processes request).perform
      return .value (told (← get) answer) : Action Core KernelRefusal Reply) core := by
  rw [Core.Operation.perform, performs]
  simp only [Action.bind_apply, Action.map_apply, Action.relabel_apply]
  cases (action core).result <;> rfl

/-- **Every system call is one operation, or changes nothing.** -/
theorem perform_course (timer : Timer) (call : Call) (core : Core) :
    Course timer call core (perform timer call core).result (perform timer call core).state
      (perform timer call core).effects := by
  have reported : (Action.report (.systemCall (Number.ofWord call.number).name call.arg0 call.arg1) :
      Action Core KernelRefusal Unit) core = ⟨.ok ⟨⟩, core, [call.notice]⟩ := rfl
  unfold perform
  rw [Action.bind_apply_ok reported, List.singleton_append]
  cases number : Number.ofWord call.number with
  | exit =>
    have amounts : call.operation? core =
        some (.processes (.exit (signedWord call.arg0))) := by
      rw [Call.operation?, number]
    refine course_of_operation amounts ?_
    simp only [← Core.relabel_exit KernelRefusal.ofProcess]
    exact zero_of_processes _ rfl core
  | yield =>
    have amounts : call.operation? core = some (.processes .yield) := by
      rw [Call.operation?, number]
    refine course_of_operation amounts ?_
    simp only [← Core.relabel_yield KernelRefusal.ofProcess]
    exact zero_of_processes _ rfl core
  | kill =>
    by_cases small : call.arg0 < wordLimit
    · have amounts : call.operation? core = some (.processes (.kill call.arg0)) := by
        rw [Call.operation?, number]
        exact if_pos small
      refine course_of_operation amounts ?_
      simp only [kill, if_pos small]
      exact zero_of_processes _ rfl core
    · have plain : call.operation? core = none := by
        rw [Call.operation?, number]
        exact if_neg small
      simp only [kill, if_neg small]
      exact .refused _ [] plain
  | malloc =>
    have amounts : call.operation? core = some (.heap (.allocate call.arg0)) := by
      rw [Call.operation?, number]
    refine course_of_operation amounts ?_
    simp only [malloc, Core.allocate, Core.Operation.perform, Heap.Request.perform,
      Action.bind_apply, Action.map_apply, Action.relabel_apply, Core.onHeap_apply]
    cases (Heap.allocate call.arg0 core.heap).result <;> rfl
  | free =>
    cases found : core.heap.handleAt call.arg0 with
    | ok handle =>
      have amounts : call.operation? core = some (.heap (.release handle)) := by
        rw [Call.operation?, number]
        simp only [found]
      refine course_of_operation amounts ?_
      simp only [free, Core.release, Core.Operation.perform, Heap.Request.perform,
        Action.bind_apply, Action.map_apply, Action.relabel_apply, Core.onHeap_apply,
        Action.get_apply, found]
      cases (Heap.release handle core.heap).result <;> rfl
    | error cause =>
      have plain : call.operation? core = none := by
        rw [Call.operation?, number]
        simp only [found]
      simp only [free, Action.bind_apply, Action.get_apply, found]
      exact .refused _ [] plain
  | getPid => exact .asked _ (Or.inl number) fun _ waits => by cases waits
  | sleep => exact .asked _ (Or.inr (Or.inl number)) fun _ same => (Reply.sleep.inj same).symm
  | time =>
    by_cases still : timer.frequency = 0
    · have stops : (timer.seconds : Answer KernelRefusal Nat) = .abort .divideByZero := by
        rw [Timer.seconds, Checked.div, if_pos still]
      simp only [stops]
      exact .stuck still (Or.inr (Or.inr number))
    · have counts : (timer.seconds : Answer KernelRefusal Nat) =
          .ok (timer.ticks / timer.frequency) := Checked.div_eq_ok still
      simp only [counts]
      exact .asked _ (Or.inr (Or.inr number)) fun _ waits => by cases waits
  | unknown =>
    have plain : call.operation? core = none := by
      rw [Call.operation?, number]
    exact .refused _ [_] plain

/-- A call that amounts to no operation leaves the core as it was. -/
theorem state_of_plain (plain : call.operation? core = none) :
    (perform timer call core).state = core := by
  have course := perform_course timer call core
  generalize (perform timer call core).result = result at course
  generalize (perform timer call core).effects = effects at course
  generalize (perform timer call core).state = after at course ⊢
  cases course with
  | asked _ _ _ | refused _ _ _ | stuck _ _ => rfl
  | served amounts _ | failed amounts _ =>
    rw [plain] at amounts
    cases amounts

/-- A call that amounts to an operation does to the core what that does. -/
theorem state_of_operation (timer : Timer) {operation : Core.Operation}
    (amounts : call.operation? core = some operation) :
    (perform timer call core).state = (operation.perform core).state ∧
      ((perform timer call core).result.Returns → (operation.perform core).result.Returns) := by
  have course := perform_course timer call core
  generalize (perform timer call core).effects = effects at course
  generalize (perform timer call core).state = after at course ⊢
  generalize (perform timer call core).result = result at course ⊢
  cases course with
  | asked _ queries _ | stuck _ queries =>
    rw [queries.plain] at amounts
    cases amounts
  | refused _ _ plain =>
    rw [amounts] at plain
    cases plain
  | served same ran =>
    rw [amounts] at same
    cases same
    rw [ran]
    exact ⟨rfl, fun _ => Answer.returns_ok _⟩
  | failed same ran =>
    rw [amounts] at same
    cases same
    rw [ran]
    exact ⟨rfl, fun returns cause stopped => returns cause (congrArg _ (Except.error.inj stopped))⟩

/-- A caller that is answered, but not by asking, is told what came of an operation. -/
theorem answer_of_operation {reply : Reply} (acts : ¬ call.queries)
    (answers : (perform timer call core).result = .ok reply) :
    ∃ operation answer, call.operation? core = some operation ∧
      (operation.perform core).result = .ok answer ∧
      (perform timer call core).state = (operation.perform core).state ∧
      reply = .value (told (operation.perform core).state answer) := by
  have course := perform_course timer call core
  rw [answers] at course
  generalize (perform timer call core).effects = effects at course
  generalize (perform timer call core).state = after at course ⊢
  cases course with
  | asked _ queries _ => exact absurd queries acts
  | @served operation answer _ _ amounts ran =>
    refine ⟨operation, answer, amounts, ?_, ?_, ?_⟩ <;> rw [ran]

end SystemCall

end MiniKernel
