/-
**What stops the machine.**

* `Frame.Short` — the images that have too few words to be read.
* `Machine.Unrecoverable` — an image that is too short, a number that is no vector, or an interrupt
  that nobody answers for.
* `Machine.Found` — a machine an interrupt finds; `Machine.invoke_ends` — on one a handler comes to
  its end.
* `Machine.Handling` — the ways an interrupt can be dealt with, by at most one handler;
  `Machine.dispatch_handling` — every dispatch goes one of them.
* `Machine.handOver`, `Machine.HandsOver` — **a handler that may do anything** is run once the lock of
  the dispatcher is free; `Machine.handsOver` — every interrupt but a system call is handed over so.
* `Machine.conclude`, `Machine.entry_dispatch` — **entry does what a dispatch does**, and stops the
  machine where that is fatal or refused.
* `Machine.Heedless` — a computation that goes the same whatever handlers are registered;
  `Machine.serve_heedless` — a system call is one.
* `Machine.entry_stops` — **entry stops the machine exactly where it cannot go on.**
-/

import MiniKernel.Proofs.Machine.Acknowledgement

namespace MiniKernel

open MiniKernel.Action

/-! ### Short images -/

namespace Frame

variable {words : List UInt32} {frame : Frame}

/-- **An image with too few words**: fewer than any frame has, or fewer than one from outside the
kernel has. -/
def Short (words : List UInt32) : Prop :=
  words.length < kernelWords ∨
    ∃ cs, words[csPosition]? = some cs ∧ level cs ≠ 0 ∧ words.length < userWords

/-- An image that is read is not short, and holds the number. -/
theorem long_of_ofWords (read : ofWords words = .ok frame) :
    ¬ Short words ∧ words[9]? = some frame.number := by
  obtain ⟨enough, outer⟩ := readable_iff.mp ⟨frame, read⟩
  constructor
  · rintro (few | ⟨cs, there, outside, cut⟩)
    · exact absurd few (Nat.not_lt.mpr enough)
    · exact absurd cut (Nat.not_lt.mpr (outer cs there outside))
  · obtain ⟨-, rest, rfl⟩ := ofWords_eq_ok_iff.mp read
    rfl

/-- An image that is not short is read. -/
theorem ofWords_of_long (long : ¬ Short words) : ∃ frame, ofWords words = .ok frame := by
  obtain ⟨enough, outer⟩ := not_or.mp long
  refine readable_iff.mpr ⟨Nat.le_of_not_lt enough, fun cs there outside => ?_⟩
  exact Nat.le_of_not_lt fun short => outer ⟨cs, there, outside, short⟩

end Frame

namespace Machine

variable {C ε α : Type} {machine : Machine C} {frame : Frame} {words : List UInt32}

/-! ### Unrecoverable input -/

/-- An interrupt that nobody answers for: it is no system call, has no handler, and no line arrives
on its vector. -/
def Unclaimed (dispatcher : Dispatcher C) (vector : UInt8) : Prop :=
  vector ≠ systemCallVector ∧ dispatcher.handler? vector = none ∧
    ∀ irq : UInt8, irq.toNat < lineCount →
      (dispatcher.windows.vector irq : Answer DispatchRefusal UInt8) ≠ .ok vector

/-- **Input that an interrupt cannot go on from**: the image is short, its number is no vector, or
nobody answers for the vector. -/
def Unrecoverable (dispatcher : Dispatcher C) (words : List UInt32) : Prop :=
  Frame.Short words ∨ ∃ number, words[9]? = some number ∧
    (255 < number.toNat ∨
      ∃ vector : UInt8, number.toNat = vector.toNat ∧ Unclaimed dispatcher vector)

/-- What is read is unrecoverable for its number alone. -/
theorem unrecoverable_iff {dispatcher : Dispatcher C} (read : Frame.ofWords words = .ok frame) :
    Unrecoverable dispatcher words ↔ frame.vector? = none ∨
      ∃ vector, frame.vector? = some vector ∧ Unclaimed dispatcher vector := by
  obtain ⟨long, number⟩ := Frame.long_of_ofWords read
  unfold Unrecoverable
  rw [or_iff_right long, number]
  simp only [Option.some.injEq, exists_eq_left', Frame.vector?_eq_none_iff,
    Frame.vector?_eq_some_iff]

/-! ### Handlers come to their ends -/

/-- **A machine an interrupt finds**: its offsets were accepted, as those of any dispatcher were
(`Dispatcher.Ran.acceptable`), nobody holds a lock, the controller takes acknowledgements, and the
counters have room for one more tick. -/
structure Found [Controller C] (machine : Machine C) : Prop where
  fits : machine.dispatcher.windows.acceptable = true
  heeds : ∀ irq : UInt8, irq.toNat < lineCount →
    ((Controller.acknowledge irq : Action C DispatchRefusal Unit)
      machine.dispatcher.controller).result = .ok ()
  free : machine.held = {}
  counts : machine.timer.ticks + 1 < longLimit
  charges : ∀ core, machine.core = some core → core.processes.running.ticksRun + 1 < longLimit

/-- A process with room for one more tick is charged it. -/
theorem tick_ends {core : Core} (room : core.processes.running.ticksRun + 1 < longLimit) :
    ∃ later, (Core.tick : Action Core ε Unit) core = ⟨.ok (), later, []⟩ := by
  unfold Core.tick ProcessTable.tick
  rw [Core.onProcesses_apply, bind_quiet (get_apply _)]
  cases core.processes.enabled with
  | false =>
    rw [if_neg Bool.false_ne_true, pure_apply]
    exact ⟨_, rfl⟩
  | true =>
    rw [if_pos rfl, Checked.add_eq_ok room, bind_quiet (ask_apply _ _), modify_apply]
    exact ⟨_, rfl⟩

/-- So is the current process of a machine whose core nobody works on, if there is a core. -/
theorem charge_ends (free : machine.held = {}) (charges : ∀ core, machine.core = some core →
      core.processes.running.ticksRun + 1 < longLimit) :
    ∃ charged after, (lockCore Core.tick : Action (Machine C) ε (Option Unit)) machine =
      ⟨.ok charged, after, []⟩ := by
  cases there : machine.core with
  | none =>
    refine ⟨none, machine, ?_⟩
    unfold lockCore
    simp only [there]
  | some core =>
    obtain ⟨later, charged⟩ := tick_ends (ε := ε) (charges core there)
    rw [lockCore_apply free there, charged]
    exact ⟨_, _, rfl⟩

/-- **A handler comes to its end**, as far as the kernel knows it. -/
theorem invoke_ends (free : machine.held = {}) (counts : machine.timer.ticks + 1 < longLimit)
    (charges : ∀ core, machine.core = some core →
      core.processes.running.ticksRun + 1 < longLimit) (handler : Handler) (frame : Frame) :
    ∃ after effects,
      (invoke handler frame : Action (Machine C) ε Unit) machine = ⟨.ok (), after, effects⟩ := by
  cases handler with
  | client name => exact ⟨machine, [.handlerRun name frame], rfl⟩
  | tick =>
    let ticked : Machine C :=
      { machine with timer := { machine.timer with ticks := machine.timer.ticks + 1 } }
    have advanced : (onTimer Timer.advance : Action (Machine C) ε Nat) machine =
        ⟨.ok (machine.timer.ticks + 1), ticked, []⟩ := by
      unfold onTimer
      rw [within_apply, Timer.advance_apply counts]
    have unheld : ticked.held = {} := free
    have idle : ¬ ticked.held.core = true := by
      rw [unheld]
      exact Bool.false_ne_true
    obtain ⟨charged, after, charging⟩ := charge_ends (ε := ε) unheld charges
    refine ⟨after, [], ?_⟩
    show (countTick : Action (Machine C) ε Unit) machine = _
    unfold countTick
    rw [bind_quiet advanced, bind_quiet (get_apply _), if_neg idle, bind_quiet charging,
      pure_apply]

/-! ### One interrupt -/

section Interrupts

variable [Controller C]

/-- The machine once an interrupt was routed. -/
def routed (frame : Frame) (machine : Machine C) : Machine C :=
  { machine with dispatcher := (Dispatcher.route frame machine.dispatcher).state }

/-- What the controller leaves as an interrupt is routed. -/
def routing (frame : Frame) (machine : Machine C) : List Effect :=
  (Dispatcher.route frame machine.dispatcher).effects

/-- **The ways to deal with an interrupt**: turn it down, run the handler on its vector once it was
routed, ignore it if it came on a line, or answer that it is fatal. -/
inductive Handling (machine : Machine C) (frame : Frame) :
    Outcome (Machine C) DispatchRefusal Dispatched → Prop
  | refused (large : frame.vector? = none) :
    Handling machine frame ⟨.error (.refused (.invalidVector frame.number.toNat)), machine, []⟩
  | handled {vector : UInt8} {handler : Handler} {after : Machine C} {effects : List Effect}
    (arrives : frame.vector? = some vector)
    (registered : machine.dispatcher.handler? vector = some handler)
    (runs : (invoke handler frame : Action (Machine C) DispatchRefusal Unit)
      (machine.routed frame) = ⟨.ok (), after, effects⟩) :
    Handling machine frame ⟨.ok .handled, after, machine.routing frame ++ effects⟩
  | ignored {vector irq : UInt8} (arrives : frame.vector? = some vector)
    (vacant : machine.dispatcher.handler? vector = none)
    (line : ArrivesOn machine.dispatcher.windows irq frame) :
    Handling machine frame ⟨.ok .ignored, machine.routed frame, machine.routing frame⟩
  | fatal {vector : UInt8} (arrives : frame.vector? = some vector)
    (vacant : machine.dispatcher.handler? vector = none)
    (off : ∀ irq, ¬ ArrivesOn machine.dispatcher.windows irq frame) :
    Handling machine frame
      ⟨.ok (.fatal (.ofFrame frame)), machine.routed frame, machine.routing frame⟩

section Answers

variable {answer : Except (Failure DispatchRefusal) Route}

/-- An interrupt that is routed by the owner of the dispatcher. -/
theorem onDispatcher_route (routes : (Dispatcher.route frame machine.dispatcher).result = answer) :
    (onDispatcher (Dispatcher.route frame) : Action (Machine C) DispatchRefusal Route) machine =
      ⟨answer, machine.routed frame, machine.routing frame⟩ := by
  rw [← routes]
  rfl

/-- Under a lock that is free it is routed as well, and the lock is free afterwards. -/
theorem lockDispatcher_route (free : machine.held = {})
    (routes : (Dispatcher.route frame machine.dispatcher).result = answer) :
    (lockDispatcher (Dispatcher.route frame) : Action (Machine C) DispatchRefusal Route) machine =
      ⟨answer, machine.routed frame, machine.routing frame⟩ := by
  rw [← routes]
  exact lockDispatcher_apply (congrArg Locks.dispatcher free) rfl

end Answers

/-- The handler that a route calls for comes to its end. -/
theorem Found.invoke_ends (found : machine.Found) (handler : Handler) (frame : Frame) :
    ∃ after effects, (invoke handler frame : Action (Machine C) ε Unit) (machine.routed frame) =
      ⟨.ok (), after, effects⟩ := by
  have free : (machine.routed frame).held = {} := found.free
  exact Machine.invoke_ends free found.counts found.charges handler frame

/-- **What becomes of an interrupt that is handed to a handler**: whatever the handler does to the
machine as the routing has left it, and then this answer. -/
def handOver (run : Handler → Frame → Action (Machine C) ε Unit) (handler : Handler) (frame : Frame)
    (value : α) (machine : Machine C) : Outcome (Machine C) ε α :=
  let outcome := (do run handler frame; return value : Action (Machine C) ε α) (machine.routed frame)
  { outcome with effects := machine.routing frame ++ outcome.effects }

section Routes

variable {handler : Handler} {report : CrashReport} {after : Machine C} {effects : List Effect}

/-- One who owns the dispatcher hands over what calls for a handler. -/
theorem dispatchWith_invoke (run : Handler → Frame → Action (Machine C) DispatchRefusal Unit)
    (routes : (Dispatcher.route frame machine.dispatcher).result = .ok (.invoke handler)) :
    dispatchWith run frame machine = handOver run handler frame .handled machine :=
  bind_apply_ok (onDispatcher_route routes)

/-- A dispatch of what calls for a handler runs it. -/
theorem dispatch_invoke
    (routes : (Dispatcher.route frame machine.dispatcher).result = .ok (.invoke handler))
    (runs : (invoke handler frame : Action (Machine C) DispatchRefusal Unit)
      (machine.routed frame) = ⟨.ok (), after, effects⟩) :
    dispatch frame machine = ⟨.ok .handled, after, machine.routing frame ++ effects⟩ := by
  rw [dispatch, dispatchWith_invoke invoke routes, handOver,
    bind_steps runs (pure_apply Dispatched.handled after), List.append_nil]

theorem dispatch_ignore
    (routes : (Dispatcher.route frame machine.dispatcher).result = .ok .ignore) :
    dispatch frame machine = ⟨.ok .ignored, machine.routed frame, machine.routing frame⟩ := by
  have all : dispatch frame machine = ⟨_, _, _⟩ :=
    bind_steps (onDispatcher_route routes) (pure_apply _ _)
  rw [all, List.append_nil]

theorem dispatch_fatal
    (routes : (Dispatcher.route frame machine.dispatcher).result = .ok (.fatal report)) :
    dispatch frame machine =
      ⟨.ok (.fatal report), machine.routed frame, machine.routing frame⟩ := by
  have all : dispatch frame machine = ⟨_, _, _⟩ :=
    bind_steps (onDispatcher_route routes) (pure_apply _ _)
  rw [all, List.append_nil]

end Routes

/-- **Every dispatch deals with its interrupt in one of these ways.** -/
theorem dispatch_handling (found : machine.Found) (frame : Frame) :
    Handling machine frame (dispatch frame machine) := by
  cases arrives : frame.vector? with
  | none =>
    have turned : dispatch frame machine =
        ⟨.error (.refused (.invalidVector frame.number.toNat)), machine, []⟩ := by
      unfold dispatch dispatchWith onDispatcher
      rw [bind_apply, within_apply, Dispatcher.route_large arrives]
    rw [turned]
    exact .refused arrives
  | some vector =>
    have routes := Dispatcher.route_result found.fits found.heeds arrives
    cases registered : machine.dispatcher.handler? vector with
    | some handler =>
      rw [registered, Option.elim_some] at routes
      obtain ⟨after, effects, runs⟩ := found.invoke_ends (ε := DispatchRefusal) handler frame
      rw [dispatch_invoke routes runs]
      exact .handled arrives registered runs
    | none =>
      rw [registered, Option.elim_none, Dispatcher.unclaimed] at routes
      have lines : ∀ irq, ArrivesOn machine.dispatcher.windows irq frame ↔
          machine.dispatcher.windows.lineAt vector = some irq := by
        intro irq
        rw [arrivesOn_iff found.fits, arrives, Option.bind_some]
      cases line : machine.dispatcher.windows.lineAt vector with
      | some irq =>
        rw [line, Option.isSome_some, if_pos rfl] at routes
        rw [dispatch_ignore routes]
        exact .ignored arrives registered ((lines irq).mpr line)
      | none =>
        rw [line, Option.isSome_none, if_neg Bool.false_ne_true] at routes
        rw [dispatch_fatal routes]
        refine .fatal arrives registered fun irq on => ?_
        rw [(lines irq).mp on] at line
        cases line

/-! ### Handlers that may do anything -/

/-- The handler on the vector of an interrupt, if there is one. -/
def claimant? (frame : Frame) (machine : Machine C) : Option Handler :=
  frame.vector?.bind machine.dispatcher.handler?

/-- **How an interrupt is handed over, whatever handlers do.** Once it was routed nobody holds a lock,
and from there the handler on its vector is run, by `entry` as by `dispatch`, with nothing done after
it. Without one no handler has a part in it. -/
structure HandsOver (halt : Action (Machine C) DispatchRefusal Unit) (words : List UInt32)
    (frame : Frame) (machine : Machine C) : Prop where
  free : (machine.routed frame).held = {}
  enters (run : Handler → Frame → Action (Machine C) DispatchRefusal Unit) {handler : Handler}
    (registered : machine.claimant? frame = some handler) :
    entryWith run halt words machine = handOver run handler frame words machine
  dispatches (run : Handler → Frame → Action (Machine C) DispatchRefusal Unit) {handler : Handler}
    (registered : machine.claimant? frame = some handler) :
    dispatchWith run frame machine = handOver run handler frame .handled machine
  vacant (run : Handler → Frame → Action (Machine C) DispatchRefusal Unit)
    (unregistered : machine.claimant? frame = none) :
    entryWith run halt words machine = entry halt words machine ∧
      dispatchWith run frame machine = dispatch frame machine

section HandingOver

variable {halt : Action (Machine C) ε Unit} {handler : Handler}

/-- A handler that was chosen under the lock is run without it. -/
theorem entryWith_invoke (free : machine.held = {})
    (run : Handler → Frame → Action (Machine C) ε Unit) (read : Frame.ofWords words = .ok frame)
    (plain : frame.vector? ≠ some systemCallVector)
    (routes : (Dispatcher.route frame machine.dispatcher).result = .ok (.invoke handler)) :
    entryWith run halt words machine = handOver run handler frame words machine := by
  rw [entryWith_plain run read plain, interruptWith, bind_assoc]
  exact bind_apply_ok (attempt_ok (lockDispatcher_route free routes))

/-- Where no handler is chosen it does not matter what handlers do. -/
theorem entryWith_vacant (free : machine.held = {})
    (run other : Handler → Frame → Action (Machine C) ε Unit)
    (read : Frame.ofWords words = .ok frame) (plain : frame.vector? ≠ some systemCallVector)
    (vacant : ∀ handler, (Dispatcher.route frame machine.dispatcher).result ≠ .ok (.invoke handler)) :
    entryWith run halt words machine = entryWith other halt words machine := by
  have same : interruptWith run frame machine = interruptWith other frame machine := by
    refine bind_eq_bind fun answer answered => ?_
    rcases answer with cause | handler | _ | report
    · rfl
    · have routes := ok_of_attempt_ok answered
      rw [lockDispatcher_route free rfl] at routes
      exact absurd routes (vacant handler)
    · rfl
    · rfl
  rw [entryWith_plain run read plain, entryWith_plain other read plain, bind_apply, bind_apply, same]

theorem dispatchWith_vacant (run other : Handler → Frame → Action (Machine C) DispatchRefusal Unit)
    (vacant : ∀ handler, (Dispatcher.route frame machine.dispatcher).result ≠ .ok (.invoke handler)) :
    dispatchWith run frame machine = dispatchWith other frame machine := by
  refine bind_eq_bind fun route answered => ?_
  cases route with
  | invoke handler => exact absurd answered (vacant handler)
  | ignore | fatal => rfl

/-- **A route calls for the handler on the vector, and for no other.** -/
theorem Found.route_invoke_iff (found : machine.Found) :
    (Dispatcher.route frame machine.dispatcher).result = .ok (.invoke handler) ↔
      machine.claimant? frame = some handler := by
  unfold claimant?
  cases arrives : frame.vector? with
  | none =>
    rw [Dispatcher.route_large arrives, Option.bind_none]
    exact iff_of_false (fun same => by cases same) (fun same => by cases same)
  | some vector =>
    rw [Dispatcher.route_result found.fits found.heeds arrives, Option.bind_some]
    exact Dispatcher.elim_unclaimed_iff

/-- A system call goes the same whatever handlers do. -/
theorem entryWith_call (run other : Handler → Frame → Action (Machine C) ε Unit)
    (read : Frame.ofWords words = .ok frame) (call : frame.vector? = some systemCallVector) :
    entryWith run halt words = entryWith other halt words := by
  unfold entryWith
  simp only [read]
  rw [if_pos call, if_pos call]

end HandingOver

/-- **Every interrupt but a system call is handed over like that.** -/
theorem handsOver (halt : Action (Machine C) DispatchRefusal Unit) (found : machine.Found)
    (read : Frame.ofWords words = .ok frame) (plain : frame.vector? ≠ some systemCallVector) :
    HandsOver halt words frame machine where
  free := found.free
  enters run _ registered :=
    entryWith_invoke found.free run read plain (found.route_invoke_iff.mpr registered)
  dispatches run _ registered := dispatchWith_invoke run (found.route_invoke_iff.mpr registered)
  vacant run unregistered := by
    have off : ∀ handler,
        (Dispatcher.route frame machine.dispatcher).result ≠ .ok (.invoke handler) := by
      intro handler routes
      rw [found.route_invoke_iff, unregistered] at routes
      cases routes
    exact ⟨entryWith_vacant found.free run invoke read plain off, dispatchWith_vacant run invoke off⟩

/-! ### The way out -/

/-- **What follows a dispatch on the way out**: what was refused or is fatal stops the machine, and
anything else hands the image back. -/
def conclude (words : List UInt32) (dispatched : Except DispatchRefusal Dispatched) :
    Action (Machine C) ε (List UInt32) :=
  match dispatched with
  | .ok (.fatal report) => crash report
  | .ok _ => return words
  | .error cause => do
    Action.report (.interruptRejected cause)
    stop

/-- **Entry does what a dispatch does**, and stops the machine where that is fatal or refused. -/
theorem entry_dispatch (halt : Action (Machine C) DispatchRefusal Unit) (found : machine.Found)
    (read : Frame.ofWords words = .ok frame) (plain : frame.vector? ≠ some systemCallVector) :
    entry halt words machine = (do conclude words (← (dispatch frame).attempt)) machine := by
  rw [entry, entryWith_plain invoke read plain, interruptWith, bind_assoc]
  cases routes : (Dispatcher.route frame machine.dispatcher).result with
  | error failure =>
    have locked := lockDispatcher_route found.free routes
    have all : dispatch frame machine = ⟨_, _, _⟩ := bind_apply_error (onDispatcher_route routes)
    cases failure with
    | refused cause =>
      rw [bind_apply_ok (attempt_refused all), bind_apply_ok (attempt_refused locked)]
      rfl
    | aborted cause =>
      rw [bind_apply_error (attempt_aborted all), bind_apply_error (attempt_aborted locked)]
  | ok route =>
    rw [bind_apply_ok (attempt_ok (lockDispatcher_route found.free routes))]
    cases route with
    | invoke handler =>
      obtain ⟨after, effects, runs⟩ := found.invoke_ends (ε := DispatchRefusal) handler frame
      rw [bind_apply_ok (attempt_ok (dispatch_invoke routes runs))]
      simp only [bind_apply_ok runs]
      rw [List.append_assoc]
      rfl
    | ignore =>
      rw [bind_apply_ok (attempt_ok (dispatch_ignore routes))]
      rfl
    | fatal report =>
      rw [bind_apply_ok (attempt_ok (dispatch_fatal routes))]
      rfl

/-- **An interrupt that is read and is no system call** stops the machine or hands its image back
unchanged. -/
theorem entry_plain (halt : Action (Machine C) DispatchRefusal Unit) (found : machine.Found)
    (read : Frame.ofWords words = .ok frame) (plain : frame.vector? ≠ some systemCallVector) :
    (Unrecoverable machine.dispatcher words ∧
      (entry halt words machine).result = .error (.aborted .halted)) ∨
    (¬ Unrecoverable machine.dispatcher words ∧ (entry halt words machine).result = .ok words) := by
  rw [entry_dispatch halt found read plain, unrecoverable_iff read]
  have handling := dispatch_handling found frame
  generalize ends : dispatch frame machine = outcome at handling
  cases handling with
  | refused large =>
    rw [bind_apply_ok (attempt_refused ends)]
    exact .inl ⟨.inl large, rfl⟩
  | handled arrives registered =>
    rw [bind_apply_ok (attempt_ok ends)]
    refine .inr ⟨?_, rfl⟩
    rintro (large | ⟨vector, same, -, vacant, -⟩)
    · rw [large] at arrives
      cases arrives
    · rw [same] at arrives
      cases arrives
      rw [vacant] at registered
      cases registered
  | ignored arrives vacant line =>
    rw [bind_apply_ok (attempt_ok ends)]
    refine .inr ⟨?_, rfl⟩
    obtain ⟨known, vector, placed, number⟩ := line
    rintro (large | ⟨other, same, -, -, off⟩)
    · rw [large] at arrives
      cases arrives
    · rw [Frame.vector?_eq_some_iff.mpr number] at same
      cases same
      exact off _ known placed
  | fatal arrives vacant off =>
    rw [bind_apply_ok (attempt_ok ends)]
    refine .inl ⟨.inr ⟨_, arrives, fun call => plain (call ▸ arrives), vacant, ?_⟩, rfl⟩
    exact fun irq known placed =>
      off irq ⟨known, _, placed, Frame.vector?_eq_some_iff.mp arrives⟩

end Interrupts

/-! ### Handlers a system call does not heed -/

/-- The machine with other handlers registered. -/
def withHandlers (handlers : Vector (Option Handler) 256) (machine : Machine C) : Machine C :=
  { machine with dispatcher := { machine.dispatcher with handlers } }

/-- **The same happens whatever handlers are registered**, and they are left as they were. -/
def Heedless (action : Action (Machine C) ε α) : Prop :=
  ∀ handlers machine, action (withHandlers handlers machine) =
    ⟨(action machine).result, (action machine).state.withHandlers handlers,
      (action machine).effects⟩

section Heeding

variable {β δ : Type} {action : Action (Machine C) ε α}

theorem heedless_pure (value : α) : Heedless (pure value : Action (Machine C) ε α) := fun _ _ => rfl

theorem heedless_ask (answer : Answer ε α) : Heedless (ask answer : Action (Machine C) ε α) :=
  fun _ _ => rfl

theorem heedless_onCpu (action : Action Processor ε α) :
    Heedless (onCpu action : Action (Machine C) ε α) := fun _ _ => rfl

/-- A question that the handlers have no part in. -/
theorem heedless_get {next : Machine C → Action (Machine C) ε α}
    (same : ∀ handlers machine, next (withHandlers handlers machine) = next machine)
    (later : ∀ machine, Heedless (next machine)) : Heedless (get >>= next) := by
  intro handlers machine
  rw [bind_quiet (get_apply _), bind_quiet (get_apply _), same]
  exact later machine handlers machine

theorem Heedless.bind {next : α → Action (Machine C) ε β} (here : Heedless action)
    (later : ∀ value, Heedless (next value)) : Heedless (action >>= next) := by
  intro handlers machine
  rw [bind_apply, bind_apply, here]
  cases (action machine).result with
  | error failure => rfl
  | ok value => simp only [later value handlers]

theorem Heedless.attempt (heedless : Heedless action) :
    Heedless (action.attempt : Action (Machine C) δ (Except ε α)) := by
  intro handlers machine
  have here := heedless handlers machine
  cases ends : action machine with
  | mk result after effects =>
    rw [ends] at here
    cases result with
    | ok value => rw [attempt_ok here, attempt_ok ends]
    | error failure =>
      cases failure with
      | refused cause => rw [attempt_refused here, attempt_refused ends]
      | aborted cause => rw [attempt_aborted here, attempt_aborted ends]

theorem heedless_lockCore (work : Action Core ε α) :
    Heedless (lockCore work : Action (Machine C) ε (Option α)) := by
  rintro handlers ⟨_, _, _ | core, _, _, _⟩
  · rfl
  · unfold lockCore withHandlers
    simp only [map_apply]
    unfold locked
    split <;> rfl

theorem Heedless.masked (heedless : Heedless action) : Heedless (masked action) := by
  refine (heedless_onCpu _).bind fun enabled => ?_
  cases enabled with
  | false => exact heedless
  | true =>
    refine (heedless_onCpu _).bind fun _ => heedless.attempt.bind fun answer => ?_
    refine (heedless_onCpu _).bind fun _ => ?_
    cases answer with
    | ok value => exact heedless_pure value
    | error cause => exact heedless_ask _

theorem heedless_guardCore (work : Action Core ε α) :
    Heedless (guardCore work : Action (Machine C) ε (Option α)) := by
  intro handlers machine
  have same : (machine.withHandlers handlers).core.isSome = machine.core.isSome := rfl
  unfold guardCore
  rw [same]
  split
  · exact (heedless_lockCore work).masked handlers machine
  · rfl

variable {halt : Action (Machine C) ε Unit}

theorem Heedless.reachWithin (halts : Heedless halt) (target limit : Nat) :
    Heedless (Wait.reachWithin Machine.timer halt target limit) := by
  induction limit with
  | zero =>
    refine heedless_get (fun _ _ => rfl) fun machine => ?_
    split
    · exact heedless_ask _
    · exact heedless_pure _
  | succ limit ih =>
    refine heedless_get (fun _ _ => rfl) fun machine => ?_
    split
    · exact halts.bind fun _ => ih
    · exact heedless_pure _

/-- A wait heeds what its halts do. -/
theorem Heedless.sleep (halts : Heedless halt) (milliseconds : Nat) :
    Heedless (sleep halt milliseconds) := by
  refine heedless_get (fun _ _ => rfl) fun _ => (heedless_ask _).bind fun _ => ?_
  refine heedless_get (fun _ _ => rfl) fun _ => (heedless_ask _).bind fun _ => ?_
  exact heedless_get (fun _ _ => rfl) fun _ => halts.reachWithin _ _

/-- **A system call heeds no handler**, but for what its halts do. -/
theorem serve_heedless (halts : Heedless halt) (frame : Frame) : Heedless (serve halt frame) := by
  refine heedless_get (fun _ _ => rfl) fun machine => ?_
  refine (heedless_guardCore _).attempt.bind fun answer => ?_
  dsimp only
  split
  · exact (halts.sleep _).bind fun _ => heedless_pure _
  · exact heedless_pure _

/-- Nor does a halt that lasts until the next tick. -/
theorem heedless_tickHalt : Heedless (tickHalt : Action (Machine C) ε Unit) := fun _ _ => rfl

end Heeding

/-! ### One system call -/

/-- **A machine that a system call may find as well**: its timer counts, and its counters and its
core, if it has one, are as a system call needs them. -/
structure Ready [Controller C] (machine : Machine C) : Prop extends Found machine where
  runs : machine.timer.frequency ≠ 0
  small : machine.timer.frequency < wordLimit
  early : machine.timer.ticks < longLimit / 2
  core : ∀ core, machine.core = some core → core.Sane ∧ core.heap.Countable

section Calls

variable {halt : Action (Machine C) DispatchRefusal Unit}

/-- Without a core a system call is answered that its argument is wrong. -/
theorem serve_coreless (missing : machine.core = none) (frame : Frame) :
    serve halt frame machine =
      ⟨.ok (SystemCall.encode (.error .invalidArgument)), machine, []⟩ := by
  have idle : ∀ work : Action Core KernelRefusal SystemCall.Reply,
      guardCore work machine = ⟨.ok none, machine, []⟩ := by
    intro work
    unfold guardCore
    rw [missing, Option.isSome_none, if_neg Bool.false_ne_true]
  unfold serve
  rw [bind_quiet (get_apply machine), bind_quiet (attempt_ok (idle _))]
  rfl

variable [Controller C]

/-- **A system call is served to its end**, with or without a core. -/
theorem serve_returns (ready : machine.Ready) (halting : Wait.Halting Machine.timer halt Goes)
    (frame : Frame) : ∃ eax after effects,
      serve halt frame machine = ⟨.ok eax, after, effects⟩ ∧ Quiet halt effects := by
  cases there : machine.core with
  | none => exact ⟨_, _, _, serve_coreless there frame, .nothing⟩
  | some core =>
    have up : machine.Up :=
      ⟨ready.free, ready.runs, ready.small, core, there, (ready.core core there).1⟩
    obtain ⟨eax, after, effects, served, _, quiet⟩ :=
      serve_ends up halting ready.early (fun core there => (ready.core core there).2) frame
    exact ⟨eax, after, effects, served, quiet⟩

/-- **Entry stops the machine or hands an image back**, and which of the two the input decides. -/
theorem entry_either (ready : machine.Ready) (halting : Wait.Halting Machine.timer halt Goes)
    (words : List UInt32) :
    (Unrecoverable machine.dispatcher words ∧
      (entry halt words machine).result = .error (.aborted .halted)) ∨
    (¬ Unrecoverable machine.dispatcher words ∧
      ∃ image, (entry halt words machine).result = .ok image) := by
  cases read : Frame.ofWords words with
  | error cause =>
    have short : Frame.Short words := by
      by_contra long
      obtain ⟨frame, found⟩ := Frame.ofWords_of_long long
      rw [read] at found
      cases found
    refine .inl ⟨.inl short, ?_⟩
    unfold entry entryWith
    rw [read]
    rfl
  | ok frame =>
    by_cases call : frame.vector? = some systemCallVector
    · obtain ⟨eax, after, effects, served, _⟩ := serve_returns ready halting frame
      refine .inr ⟨fun unrecoverable => ?_, words.set Frame.eaxPosition eax, ?_⟩
      · rcases (unrecoverable_iff read).mp unrecoverable with large | ⟨vector, same, other, _⟩
        · rw [large] at call
          cases call
        · rw [same] at call
          exact other (Option.some.inj call)
      · rw [entry_apply read call, served]
        rfl
    · exact (entry_plain halt ready.toFound read call).imp id fun ⟨goes_on, same⟩ =>
        ⟨goes_on, words, same⟩

/-- **Entry stops the machine exactly where it cannot go on**: where the image is short, its number
is no vector, or nobody answers for the vector. It hands an image back in every other case.

An interrupt other than a system call is dealt with as a dispatch does it, with at most one handler.
Handlers may do anything: the one on the vector is run from the machine as the routing has left it,
on which the lock of the dispatcher is free, and nothing is done after it; no word of the image
changes. A system call changes the saved `eax` alone, leaves only reports, writes of the interrupt
flag, and what its halts leave, and goes the same whatever handlers would do, and whatever handlers
are registered, if the halts do. -/
theorem entry_stops (ready : machine.Ready) (halting : Wait.Halting Machine.timer halt Goes)
    (words : List UInt32) :
    ((entry halt words machine).result = .error (.aborted .halted) ↔
      Unrecoverable machine.dispatcher words) ∧
    (¬ Unrecoverable machine.dispatcher words →
      ∃ image, (entry halt words machine).result = .ok image) ∧
    (∀ frame, Frame.ofWords words = .ok frame → frame.vector? ≠ some systemCallVector →
      entry halt words machine = (do conclude words (← (dispatch frame).attempt)) machine ∧
      Handling machine frame (dispatch frame machine) ∧
      HandsOver halt words frame machine ∧
      ∀ image, (entry halt words machine).result = .ok image → image = words) ∧
    (∀ frame, Frame.ofWords words = .ok frame → frame.vector? = some systemCallVector →
      (∀ run, entryWith run halt words machine = entry halt words machine) ∧
      ∃ eax after effects,
        entry halt words machine = ⟨.ok (words.set Frame.eaxPosition eax), after, effects⟩ ∧
        Quiet halt effects ∧
        (Heedless halt → ∀ handlers, entry halt words (machine.withHandlers handlers) =
          ⟨.ok (words.set Frame.eaxPosition eax), after.withHandlers handlers, effects⟩)) := by
  refine ⟨?_, ?_, fun frame read plain => ?_, fun frame read call => ?_⟩
  · rcases entry_either ready halting words with ⟨unrecoverable, halted⟩ | ⟨goes_on, _, ends⟩
    · exact iff_of_true halted unrecoverable
    · refine iff_of_false (fun halted => ?_) goes_on
      rw [ends] at halted
      cases halted
  · intro goes_on
    exact (entry_either ready halting words).elim (fun stops => absurd stops.1 goes_on) And.right
  · refine ⟨entry_dispatch halt ready.toFound read plain, dispatch_handling ready.toFound frame,
      handsOver halt ready.toFound read plain, fun image ends => ?_⟩
    rcases entry_plain halt ready.toFound read plain with ⟨_, same⟩ | ⟨_, same⟩
    · rw [ends] at same
      cases same
    · rw [ends] at same
      exact Except.ok.inj same
  · obtain ⟨eax, after, effects, served, quiet⟩ := serve_returns ready halting frame
    refine ⟨fun run => congrFun (entryWith_call run invoke read call) machine, eax, after, effects, ?_,
      quiet, fun halts handlers => ?_⟩
    · rw [entry_apply read call, served]
      rfl
    · rw [entry_apply read call, serve_heedless halts frame handlers machine, served]
      rfl

/-- The machine whose chips were moved up, with a core. -/
def coredMachine : Machine ChipPair :=
  { diskMachine with core := some ⟨Heap.smallHeap, (ProcessTable.create 16 0).started⟩ }

theorem ready_coredMachine : coredMachine.Ready where
  fits := by decide +kernel
  heeds := ChipPair.heeds _
  free := rfl
  counts := by decide +kernel
  charges core there := by
    cases there
    decide
  runs := by decide +kernel
  small := by decide +kernel
  early := by decide +kernel
  core core there := by
    cases there
    exact ⟨Core.sane_ofArena _ _ _, by decide +kernel⟩

/-- A handler that takes the lock of the dispatcher to unregister itself. -/
def unregistering (_ : Handler) (_ : Frame) : Action (Machine ChipPair) DispatchRefusal Unit := do
  let _ ← lockDispatcher (Dispatcher.unregister 0x49)

/-- The interrupt on line 9 goes on, also if its handler takes the lock of the dispatcher itself, and
so does a system call, whatever handlers there are. A short image stops the machine, and so does the
interrupt on the vector that line 9 arrived on before. -/
theorem entry_stops_coredMachine : coredMachine.Ready ∧
    (entry (ε := DispatchRefusal) tickHalt diskFrame.toWords coredMachine).result =
      .ok diskFrame.toWords ∧
    (entryWith unregistering tickHalt diskFrame.toWords coredMachine).result =
      .ok diskFrame.toWords ∧
    (∃ eax, ∀ handlers, (entry (ε := DispatchRefusal) tickHalt
      (idleFrame systemCallVector).toWords (coredMachine.withHandlers handlers)).result =
        .ok ((idleFrame systemCallVector).toWords.set Frame.eaxPosition eax)) ∧
    (entry (ε := DispatchRefusal) tickHalt [0x10, 0, 0] coredMachine).result =
      .error (.aborted .halted) ∧
    (entry (ε := DispatchRefusal) tickHalt (idleFrame 0x29).toWords coredMachine).result =
      .error (.aborted .halted) := by
  have ready := ready_coredMachine
  have windows : coredMachine.dispatcher.windows = ⟨0x40, 0x48⟩ := by
    decide +kernel
  have registered : coredMachine.dispatcher.handler? 0x49 = some (.client "disk") := by
    decide +kernel
  have vacant : coredMachine.dispatcher.handler? 0x29 = none := by
    decide +kernel
  have read : Frame.ofWords diskFrame.toWords = .ok diskFrame := rfl
  obtain ⟨_, goes_on, interrupts, _⟩ := entry_stops ready halting_tickHalt diskFrame.toWords
  obtain ⟨_, _, hands, same⟩ := interrupts _ read (by decide)
  refine ⟨ready, ?_, ?_, ?_, ?_, ?_⟩
  · have claimed : ¬ Unrecoverable coredMachine.dispatcher diskFrame.toWords := by
      intro unrecoverable
      rcases (unrecoverable_iff read).mp unrecoverable with large | ⟨vector, same, _, free, _⟩
      · cases large
      · have there : some 0x49 = some vector := same
        rw [← Option.some.inj there, registered] at free
        cases free
    obtain ⟨image, ends⟩ := goes_on claimed
    rw [ends, same image ends]
  · rw [hands.enters unregistering registered]
    decide +kernel
  · obtain ⟨_, eax, _, _, _, _, heedless⟩ := (entry_stops ready halting_tickHalt
      (idleFrame systemCallVector).toWords).2.2.2 _ rfl rfl
    exact ⟨eax, fun handlers => congrArg Outcome.result (heedless heedless_tickHalt handlers)⟩
  · exact (entry_stops ready halting_tickHalt [0x10, 0, 0]).1.mpr (.inl (.inl (by decide)))
  · have off : coredMachine.dispatcher.windows.lineAt 0x29 = none := by
      rw [windows]
      decide
    exact (entry_stops ready halting_tickHalt (idleFrame 0x29).toWords).1.mpr (.inr ⟨0x29, rfl,
      .inr ⟨0x29, rfl, by decide, vacant, (Windows.lineAt_eq_none_iff ready.fits).mp off⟩⟩)

end Calls

end Machine

end MiniKernel
