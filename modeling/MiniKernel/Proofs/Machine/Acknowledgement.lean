/-
**The end of an interrupt.**

* `NoCommand` — nothing was written to the command port of either chip.
* `Machine.Steady` — whatever comes of it, a computation leaves the offsets and the locks as they
  were, and only what is allowed behind; with one lemma for each way to put computations together.
* `Machine.serve_steady` — a system call leaves reports, writes of the interrupt flag, and what
  whole halts leave, also when it stops midway.
* `Machine.Delivery` — a frame that comes in; `Machine.Delivery.deliver_line` and
  `Machine.Delivery.deliver_plain` — what comes of one on a line, and of any other.
* `Machine.Serving` — the machines met while frames come in and the dispatcher is asked things.
* `Machine.acknowledgement` — **every interrupt on a line is acknowledged once, before its handler
  runs, and nothing else is acknowledged.**
-/

import MiniKernel.Proofs.Interrupt.Routing
import MiniKernel.Proofs.Machine.Calls

namespace MiniKernel

open MiniKernel.Action

variable {C ε δ α β : Type}

/-! ### Command ports -/

/-- A write to the command port of one of the chips. -/
def Effect.IsCommand : Effect → Prop
  | .portWrite port _ => port = masterCommand ∨ port = slaveCommand
  | _ => False

/-- **Nothing was written to a command port.** -/
def NoCommand (effects : List Effect) : Prop := ∀ effect ∈ effects, ¬ effect.IsCommand

instance : Sequential NoCommand where
  nil := nofun
  append one others := List.forall_mem_append.mpr ⟨one, others⟩

theorem noCommand_singleton {effect : Effect} (other : ¬ effect.IsCommand) : NoCommand [effect] :=
  List.forall_mem_singleton.mpr other

theorem OnlyReports.noCommand {effects : List Effect} (only : OnlyReports effects) :
    NoCommand effects := by
  intro effect member
  obtain ⟨notice, rfl⟩ := only effect member
  exact id

namespace Action.Keeps

variable {σ τ : Type} {part : σ → τ} {action : Action σ ε α}

theorem attempt (keeps : action.Keeps part) :
    (action.attempt : Action σ δ (Except ε α)).Keeps part := by
  intro state
  rw [← keeps state]
  cases ends : action state with
  | mk result after effects =>
    cases result with
    | ok value => rw [attempt_ok ends]
    | error failure =>
      cases failure with
      | refused cause => rw [attempt_refused ends]
      | aborted cause => rw [attempt_aborted ends]

end Action.Keeps

/-- An outcome with what had been left before. -/
def Outcome.preceded {σ : Type} (outcome : Outcome σ ε α) (effects : List Effect) : Outcome σ ε α :=
  { outcome with effects := effects ++ outcome.effects }

namespace Machine

variable {halt : Action (Machine C) ε Unit} {action : Action (Machine C) ε α}
  {allowed : List Effect → Prop}

instance : Sequential (Quiet halt) where
  nil := .nothing
  append := .append

/-- What whole halts leave is all a system call may write to the command ports. -/
theorem Quiet.noCommand {effects : List Effect} (quiet : Quiet halt effects)
    (halts : ∀ machine, NoCommand (halt machine).effects) : NoCommand effects := by
  induction quiet with
  | nothing => exact Sequential.nil
  | report notice _ ih => exact Sequential.append (noCommand_singleton id) ih
  | flag enabled _ ih => exact Sequential.append (noCommand_singleton id) ih
  | halted machine _ ih => exact Sequential.append (halts machine) ih

/-! ### Offsets and locks -/

/-- What decides where the lines arrive and who may route. -/
def bearing (machine : Machine C) : Windows × Locks := (machine.dispatcher.windows, machine.held)

/-- **Offsets and locks are left as they were**, and only what is allowed is left behind. -/
structure Steady (allowed : List Effect → Prop) (action : Action (Machine C) ε α) : Prop where
  keeps : action.Keeps bearing
  leaves : Leaves allowed action

namespace Steady

theorem attempt (steady : Steady allowed action) :
    Steady allowed (action.attempt : Action (Machine C) δ (Except ε α)) :=
  ⟨steady.keeps.attempt, steady.leaves.attempt⟩

theorem map (steady : Steady allowed action) (rename : α → β) :
    Steady allowed (rename <$> action) := by
  refine ⟨fun machine => ?_, fun machine => ?_⟩ <;> rw [map_apply]
  · exact steady.keeps machine
  · exact steady.leaves machine

theorem bind [Sequential allowed] {next : α → Action (Machine C) ε β}
    (here : Steady allowed action) (later : ∀ value, Steady allowed (next value)) :
    Steady allowed (action >>= next) :=
  ⟨here.keeps.bind fun value => (later value).keeps,
    here.leaves.bind fun value => (later value).leaves⟩

end Steady

theorem steady_emit {effect : Effect} (may : allowed [effect]) :
    Steady allowed (emit effect : Action (Machine C) ε Unit) :=
  ⟨keeps_emit effect, leaves_emit may⟩

theorem steady_onCpu {action : Action Processor ε α} (leaves : Leaves allowed action) :
    Steady allowed (onCpu action : Action (Machine C) ε α) :=
  ⟨fun _ => rfl, leaves.within⟩

section Sequences

variable [Sequential allowed]

theorem steady_pure (value : α) : Steady allowed (pure value : Action (Machine C) ε α) :=
  ⟨fun _ => rfl, leaves_pure value⟩

theorem steady_ask (answer : Answer ε α) : Steady allowed (ask answer : Action (Machine C) ε α) :=
  ⟨keeps_ask answer, leaves_ask answer⟩

theorem steady_get : Steady allowed (get : Action (Machine C) ε (Machine C)) :=
  ⟨fun _ => rfl, leaves_get⟩

theorem steady_setFlag (may : ∀ enabled, allowed [.interruptFlag enabled]) (enabled : Bool) :
    Steady allowed (onCpu (Processor.setFlag enabled) : Action (Machine C) ε Unit) :=
  steady_onCpu ((leaves_emit (may enabled)).bind fun _ => leaves_modify _)

/-- Work on the core leaves its lock as it was, whether it was free or held. -/
theorem steady_lockCore {work : Action Core ε α} (leaves : Leaves allowed work) :
    Steady allowed (lockCore work : Action (Machine C) ε (Option α)) := by
  refine ⟨fun machine => ?_, fun machine => ?_⟩
  · unfold lockCore
    split
    · rfl
    · rw [map_apply]
      unfold locked
      split
      · rfl
      · rename_i free
        rcases machine with ⟨_, _, _, _, _, dispatcher, core⟩
        cases core with
        | false => rfl
        | true => exact absurd rfl free
  · unfold lockCore
    split
    · exact Sequential.nil
    · rename_i core there
      rw [map_apply]
      unfold locked
      split
      · exact Sequential.nil
      · exact leaves core

theorem Steady.masked (may : ∀ enabled, allowed [.interruptFlag enabled])
    (steady : Steady allowed action) : Steady allowed (masked action) := by
  refine (steady_onCpu (leaves_get.bind fun _ => leaves_pure _)).bind fun enabled => ?_
  cases enabled with
  | false => exact steady
  | true =>
    refine (steady_setFlag may false).bind fun _ => steady.attempt.bind fun answer => ?_
    refine (steady_setFlag may true).bind fun _ => ?_
    cases answer with
    | ok value => exact steady_pure value
    | error cause => exact steady_ask _

theorem steady_guardCore (may : ∀ enabled, allowed [.interruptFlag enabled])
    {work : Action Core ε α} (leaves : Leaves allowed work) :
    Steady allowed (guardCore work : Action (Machine C) ε (Option α)) := by
  have steady : Steady allowed (Machine.masked (lockCore work : Action (Machine C) ε (Option α))) :=
    (steady_lockCore leaves).masked may
  refine ⟨fun machine => ?_, fun machine => ?_⟩ <;> unfold guardCore <;> split
  · exact steady.keeps machine
  · rfl
  · exact steady.leaves machine
  · exact Sequential.nil

theorem Steady.reachWithin (steady : Steady allowed halt) (target limit : Nat) :
    Steady allowed (Wait.reachWithin Machine.timer halt target limit) := by
  induction limit with
  | zero =>
    refine steady_get.bind fun machine => ?_
    split
    · exact steady_ask _
    · exact steady_pure _
  | succ limit ih =>
    refine steady_get.bind fun machine => ?_
    split
    · exact steady.bind fun _ => ih
    · exact steady_pure _

/-- A wait leaves what its halts leave. -/
theorem Steady.sleep (steady : Steady allowed halt) (milliseconds : Nat) :
    Steady allowed (sleep halt milliseconds) := by
  refine steady_get.bind fun _ => (steady_ask _).bind fun _ => ?_
  refine steady_get.bind fun _ => (steady_ask _).bind fun _ => ?_
  exact steady_get.bind fun _ => steady.reachWithin _ _

end Sequences

/-- **A system call leaves only reports, writes of the interrupt flag, and what whole halts leave**,
whatever comes of it. -/
theorem serve_steady (keeps : halt.Keeps bearing) (frame : Frame) :
    Steady (Quiet halt) (serve halt frame) := by
  have halts : Steady (Quiet halt) halt := by
    refine ⟨keeps, fun machine => ?_⟩
    have whole : Quiet halt ((halt machine).effects ++ []) := .halted machine .nothing
    rwa [List.append_nil] at whole
  have flags : ∀ enabled, Quiet halt [.interruptFlag enabled] :=
    fun enabled => .flag enabled .nothing
  refine steady_get.bind fun machine => ?_
  refine ((steady_guardCore flags ?_).attempt).bind fun answer => ?_
  · exact (SystemCall.perform_reports _ _).mono fun _ => .of_reports
  · dsimp only
    split
    · exact (halts.sleep _).bind fun _ => steady_pure _
    · exact steady_pure _

/-! ### What interrupts run -/

theorem leaves_advance [Sequential allowed] : Leaves allowed (Timer.advance : Action Timer ε Nat) :=
  leaves_get.bind fun _ => (leaves_modify _).bind fun _ => leaves_ask _

theorem countTick_steady : Steady NoCommand (countTick : Action (Machine C) ε Unit) := by
  have charges : Leaves NoCommand (Core.tick : Action Core ε Unit) :=
    ProcessTable.tick_reports.within.mono fun _ only => only.noCommand
  have counted : Steady NoCommand (onTimer Timer.advance : Action (Machine C) ε Nat) :=
    ⟨fun _ => rfl, leaves_advance.within⟩
  refine counted.bind fun _ => steady_get.bind fun machine => ?_
  split
  · exact steady_pure _
  · exact (steady_lockCore charges).bind fun _ => steady_pure _

theorem invoke_steady (handler : Handler) (frame : Frame) :
    Steady NoCommand (invoke handler frame : Action (Machine C) ε Unit) := by
  cases handler with
  | tick => exact countTick_steady
  | client name => exact steady_emit (noCommand_singleton id)

theorem stop_steady : Steady NoCommand (stop : Action (Machine C) ε α) :=
  (steady_setFlag (fun _ => noCommand_singleton id) _).bind fun _ => steady_ask _

theorem crash_steady (report : CrashReport) :
    Steady NoCommand (crash report : Action (Machine C) ε α) :=
  (steady_emit (noCommand_singleton id)).bind fun _ => stop_steady

/-! ### Interrupts -/

variable {machine : Machine C} {frame : Frame} {irq vector : UInt8} {controller : C}
  {effects : List Effect}

/-- The machine with its controller as it is after work. -/
def withController (machine : Machine C) (controller : C) : Machine C :=
  { machine with dispatcher := { machine.dispatcher with controller } }

/-- Run the handler on a frame's vector, if there is one. -/
def handle (frame : Frame) : Action (Machine C) ε Unit := do
  match frame.vector?.bind (← get).dispatcher.handler? with
  | some handler => invoke handler frame
  | none => return ()

theorem handle_apply (arrives : frame.vector? = some vector) (machine : Machine C) :
    (handle frame machine : Outcome (Machine C) ε Unit) =
      (machine.dispatcher.handler? vector).elim (pure ()) (invoke · frame) machine := by
  unfold handle
  rw [bind_quiet (get_apply machine), arrives, Option.bind_some]
  cases machine.dispatcher.handler? vector <;> rfl

theorem handle_steady (frame : Frame) :
    Steady NoCommand (handle frame : Action (Machine C) ε Unit) := by
  refine steady_get.bind fun machine => ?_
  cases frame.vector?.bind machine.dispatcher.handler? with
  | none => exact steady_pure _
  | some handler => exact invoke_steady handler frame

/-- Work on the dispatcher under a lock that is free leaves the lock free. -/
theorem lockDispatcher_apply (free : machine.held.dispatcher = false)
    {work : Action (Dispatcher C) ε α} {result : Answer ε α} {dispatcher : Dispatcher C}
    (run : work machine.dispatcher = ⟨result, dispatcher, effects⟩) :
    lockDispatcher work machine = ⟨result, { machine with dispatcher }, effects⟩ := by
  rcases machine with ⟨_, _, _, _, _, held, _⟩
  cases free
  unfold lockDispatcher locked onDispatcher
  rw [if_neg Bool.false_ne_true, within_apply, run]

/-- Whatever the lock is, the offsets and the locks are as they were if the work leaves the
offsets. -/
theorem keeps_lockDispatcher {work : Action (Dispatcher C) ε α}
    (keeps : work.Keeps Dispatcher.windows) :
    (lockDispatcher work : Action (Machine C) ε α).Keeps bearing := by
  intro machine
  by_cases free : machine.held.dispatcher = false
  · cases run : work machine.dispatcher with
    | mk result dispatcher effects =>
      have same := keeps machine.dispatcher
      rw [run] at same
      rw [lockDispatcher_apply free run]
      exact Prod.ext same rfl
  · unfold lockDispatcher locked
    rw [if_pos (Bool.eq_true_of_not_eq_false free)]
    rfl

/-- A halt that lasts until the next tick leaves nothing. -/
theorem tickHalt_steady : Steady NoCommand (tickHalt : Action (Machine C) ε Unit) := by
  refine ⟨fun _ => rfl, Leaves.within ?_⟩
  exact (leaves_modify _).bind fun _ => leaves_advance.within.bind fun _ => leaves_pure _

/-- What a route calls for writes to no command port. -/
theorem routed_steady (frame : Frame) (answer : Except DispatchRefusal Route) :
    Steady NoCommand (match answer with
      | .ok (.invoke handler) => invoke handler frame
      | .ok .ignore => pure ()
      | .ok (.fatal report) => crash report
      | .error cause => do
        Action.report (.interruptRejected cause)
        stop : Action (Machine C) ε Unit) := by
  rcases answer with cause | handler | _ | report
  · exact (steady_emit (noCommand_singleton id)).bind fun _ => stop_steady
  · exact invoke_steady handler frame
  · exact steady_pure _
  · exact crash_steady report

variable [Controller C]

theorem keeps_route (frame : Frame) :
    (Dispatcher.route frame : Action (Dispatcher C) DispatchRefusal Route).Keeps
      Dispatcher.windows := by
  unfold Dispatcher.route
  split
  · exact keeps_ask _
  · refine Keeps.bind (fun _ => rfl) fun self => (keeps_ask _).bind fun line => ?_
    cases line with
    | none => exact fun _ => rfl
    | some irq => exact Keeps.bind (fun _ => rfl) fun _ => fun _ => rfl

theorem keeps_interrupt (frame : Frame) :
    (interrupt frame : Action (Machine C) ε Unit).Keeps bearing :=
  (keeps_lockDispatcher (keeps_route frame)).attempt.bind fun answer =>
    (routed_steady frame answer).keeps

/-- **An image that is read and is no system call is an interrupt**, whatever handlers do. -/
theorem entryWith_plain {halt : Action (Machine C) ε Unit} {words : List UInt32} {frame : Frame}
    (run : Handler → Frame → Action (Machine C) ε Unit) (read : Frame.ofWords words = .ok frame)
    (plain : frame.vector? ≠ some systemCallVector) :
    entryWith run halt words = (do interruptWith run frame; return words) := by
  unfold entryWith
  simp only [read]
  rw [if_neg plain]

/-! ### Deliveries -/

/-- A frame of the interrupt on a line, at some offsets. -/
def ArrivesOn (windows : Windows) (irq : UInt8) (frame : Frame) : Prop :=
  irq.toNat < lineCount ∧ ∃ vector,
    (windows.vector irq : Answer DispatchRefusal UInt8) = .ok vector ∧
      frame.number.toNat = vector.toNat

theorem arrivesOn_iff {windows : Windows} (fits : windows.acceptable = true) :
    ArrivesOn windows irq frame ↔ frame.vector?.bind windows.lineAt = some irq := by
  unfold ArrivesOn
  constructor
  · rintro ⟨known, vector, placed, number⟩
    rw [Frame.vector?_eq_some_iff.mpr number, Option.bind_some]
    exact (Windows.lineAt_eq_some_iff_vector fits).mpr ⟨known, placed⟩
  · intro found
    obtain ⟨vector, arrives, line⟩ := Option.bind_eq_some_iff.mp found
    obtain ⟨known, placed⟩ := (Windows.lineAt_eq_some_iff_vector fits).mp line
    exact ⟨known, _, placed, Frame.vector?_eq_some_iff.mp arrives⟩

/-- **A frame on its way in**: as a stub's stack image, or to one who owns the dispatcher. -/
inductive Delivery
  | entry (words : List UInt32)
  | dispatch (frame : Frame)

namespace Delivery

/-- The frame that is delivered; none when the image is refused. -/
def frame? : Delivery → Option Frame
  | entry words => (Frame.ofWords words).toOption
  | dispatch frame => some frame

/-- Whether a system call comes in. -/
def IsCall : Delivery → Prop
  | entry words => ∃ frame, Frame.ofWords words = .ok frame ∧
    frame.number.toNat = systemCallVector.toNat
  | dispatch _ => False

/-- Handle what is delivered. -/
def deliver (halt : Action (Machine C) DispatchRefusal Unit) :
    Delivery → Action (Machine C) DispatchRefusal Unit
  | entry words => (fun _ => ()) <$> Machine.entry halt words
  | dispatch frame => (fun _ => ()) <$> Machine.dispatch frame

variable {halt : Action (Machine C) DispatchRefusal Unit} {delivery : Delivery}

/-- One who owns the dispatcher has it route the frame, and runs the handler it answers. -/
theorem deliver_dispatch (frame : Frame) :
    deliver halt (dispatch frame) = (do
      match ← onDispatcher (Dispatcher.route frame) with
      | .invoke handler => invoke handler frame
      | _ => return ()) := by
  simp only [deliver, Machine.dispatch, Machine.dispatchWith, map_bind]
  refine congrArg _ (funext fun route => ?_)
  cases route with
  | invoke handler => simp
  | ignore => rfl
  | fatal report => rfl

/-- An image of anything but a system call is an interrupt. -/
theorem deliver_entry {words : List UInt32} (read : Frame.ofWords words = .ok frame)
    (plain : ¬ (entry words).IsCall) : deliver halt (entry words) = interrupt frame := by
  have other : frame.vector? ≠ some systemCallVector := fun call =>
    plain ⟨frame, read, Frame.vector?_eq_some_iff.mp call⟩
  rw [deliver, Machine.entry, entryWith_plain invoke read other, map_bind]
  simp only [map_pure]
  exact bind_pure_unit

/-- An image that is refused stops the machine. -/
theorem deliver_refused {words : List UInt32} {cause : FrameRefusal}
    (read : Frame.ofWords words = .error cause) :
    Steady NoCommand (deliver halt (entry words)) := by
  have stops : Steady NoCommand (do
      Action.report (.frameRejected cause)
      stop : Action (Machine C) DispatchRefusal (List UInt32)) :=
    (steady_emit (noCommand_singleton id)).bind fun _ => stop_steady
  simp only [deliver, Machine.entry, Machine.entryWith, read]
  exact stops.map _

/-- An image of a system call has it served. -/
theorem deliver_call (keeps : halt.Keeps bearing) (call : delivery.IsCall) :
    Steady (Quiet halt) (delivery.deliver halt) := by
  cases delivery with
  | dispatch frame => exact absurd call id
  | entry words =>
    obtain ⟨frame, read, number⟩ := call
    simp only [deliver, Machine.entry, Machine.entryWith, read]
    rw [if_pos (Frame.vector?_eq_some_iff.mpr number)]
    exact ((serve_steady keeps frame).bind fun _ => steady_pure _).map _

theorem keeps_deliver (keeps : halt.Keeps bearing) (delivery : Delivery) :
    (delivery.deliver halt).Keeps bearing := by
  by_cases call : delivery.IsCall
  · exact (deliver_call keeps call).keeps
  cases delivery with
  | entry words =>
    cases read : Frame.ofWords words with
    | error cause => exact (deliver_refused read).keeps
    | ok frame =>
      rw [deliver_entry read call]
      exact keeps_interrupt frame
  | dispatch frame =>
    rw [deliver_dispatch]
    have routes : (onDispatcher (Dispatcher.route frame) :
        Action (Machine C) DispatchRefusal Route).Keeps bearing :=
      fun machine => Prod.ext (keeps_route frame machine.dispatcher) rfl
    refine routes.bind fun route => ?_
    cases route with
    | invoke handler => exact (invoke_steady handler frame).keeps
    | ignore => exact fun _ => rfl
    | fatal report => exact fun _ => rfl

/-! ### Lines -/

/-- **An interrupt on a line is acknowledged, and then its handler runs.** -/
theorem deliver_line (fits : machine.dispatcher.windows.acceptable = true)
    (free : machine.held.dispatcher = false) (framed : delivery.frame? = some frame)
    (found : frame.vector?.bind machine.dispatcher.windows.lineAt = some irq)
    (driven : (Controller.acknowledge irq : Action C DispatchRefusal Unit)
      machine.dispatcher.controller = ⟨.ok (), controller, effects⟩) :
    delivery.deliver halt machine =
      (handle frame (machine.withController controller)).preceded effects := by
  obtain ⟨vector, arrives, line⟩ := Option.bind_eq_some_iff.mp found
  obtain ⟨known, rfl⟩ := (Windows.lineAt_eq_some_iff fits).mp line
  have routed := Dispatcher.route_line fits known arrives driven
  have same : (machine.withController controller).dispatcher.handler?
      (machine.dispatcher.windows.place irq) =
        machine.dispatcher.handler? (machine.dispatcher.windows.place irq) := rfl
  rw [handle_apply arrives, same]
  cases delivery with
  | entry words =>
    cases read : Frame.ofWords words with
    | error cause =>
      rw [frame?, read] at framed
      cases framed
    | ok other =>
      rw [frame?, read] at framed
      cases framed
      have plain : ¬ (entry words).IsCall := by
        rintro ⟨other, again, number⟩
        rw [read] at again
        cases again
        rw [Frame.vector?_eq_some_iff.mpr number] at arrives
        exact (Windows.place_apart fits known).2 (Option.some.inj arrives).symm
      rw [deliver_entry read plain]
      refine (bind_apply_ok (attempt_ok (lockDispatcher_apply free routed))).trans ?_
      cases machine.dispatcher.handler? (machine.dispatcher.windows.place irq) <;> rfl
  | dispatch other =>
    cases framed
    rw [deliver_dispatch, bind_apply, onDispatcher, within_apply, routed]
    cases machine.dispatcher.handler? (machine.dispatcher.windows.place irq) <;> rfl

/-- **Any other frame writes to no command port**, unless it is a system call. -/
theorem deliver_plain (fits : machine.dispatcher.windows.acceptable = true)
    (free : machine.held.dispatcher = false) (plain : ¬ delivery.IsCall)
    (off : ∀ frame, delivery.frame? = some frame →
      frame.vector?.bind machine.dispatcher.windows.lineAt = none) :
    NoCommand (delivery.deliver halt machine).effects := by
  have silent : ∀ frame, delivery.frame? = some frame →
      (Dispatcher.route frame machine.dispatcher).effects = [] := by
    intro frame framed
    have plain := off frame framed
    cases arrives : frame.vector? with
    | none => rw [Dispatcher.route_large arrives]
    | some vector =>
      rw [arrives, Option.bind_some] at plain
      rw [Dispatcher.route_plain fits arrives plain]
  cases delivery with
  | entry words =>
    cases read : Frame.ofWords words with
    | error cause => exact (deliver_refused read).leaves machine
    | ok frame =>
      rw [deliver_entry read plain]
      have quiet := silent frame (by rw [frame?, read]; rfl)
      refine effects_bind ?_ fun answer => (routed_steady frame answer).leaves
      cases run : Dispatcher.route frame machine.dispatcher with
      | mk result dispatcher effects =>
        rw [run] at quiet
        rw [attempt_effects, lockDispatcher_apply free run, show effects = [] from quiet]
        exact Sequential.nil
  | dispatch frame =>
    rw [deliver_dispatch]
    refine effects_bind ?_ fun route => ?_
    · show NoCommand (Dispatcher.route frame machine.dispatcher).effects
      rw [silent frame rfl]
      exact Sequential.nil
    · cases route with
      | invoke handler => exact (invoke_steady handler frame).leaves
      | ignore => exact leaves_pure _
      | fatal report => exact leaves_pure _

end Delivery

/-! ### Runs -/

/-- **The machines met while frames come in** and the dispatcher is asked things, from any run of
requests to a fresh dispatcher. What else is on the machine may change at any time. -/
inductive Serving (halt : Action (Machine C) DispatchRefusal Unit) : Machine C → Prop
  | begun {machine : Machine C} {history : List Dispatcher.Event}
    (ran : Dispatcher.Ran machine.dispatcher history) (free : machine.held.dispatcher = false) :
    Serving halt machine
  | asked {machine : Machine C} (serving : Serving halt machine) (request : Dispatcher.Request) :
    Serving halt { machine with dispatcher := (request.perform machine.dispatcher).state }
  | delivered {machine : Machine C} (serving : Serving halt machine) (delivery : Delivery) :
    Serving halt (delivery.deliver halt machine).state
  | elsewhere {machine after : Machine C} (serving : Serving halt machine)
    (dispatcher : after.dispatcher = machine.dispatcher) (held : after.held = machine.held) :
    Serving halt after

variable {halt : Action (Machine C) DispatchRefusal Unit}

theorem Serving.ready (serving : Serving halt machine) (keeps : halt.Keeps bearing) :
    machine.dispatcher.windows.acceptable = true ∧ machine.held.dispatcher = false := by
  induction serving with
  | begun ran free => exact ⟨ran.acceptable, free⟩
  | asked _ request ih =>
    exact ⟨(Dispatcher.perform_course ih.1 request).acceptable ih.1, ih.2⟩
  | @delivered machine _ delivery ih =>
    have same := Delivery.keeps_deliver keeps delivery machine
    have windows := congrArg Prod.fst same
    have held := congrArg Prod.snd same
    dsimp only [bearing] at windows held
    rw [windows, held]
    exact ih
  | elsewhere _ dispatcher held ih =>
    rw [dispatcher, held]
    exact ih

/-- **Every interrupt on a line is acknowledged once, before its handler runs, and nothing else is
acknowledged.** Wherever requests and earlier frames have left the offsets: a frame of the interrupt
on a line leaves the writes that end it, a word to the slave first if the line is the slave's, and
after them the handler runs, if there is one, and writes to no command port. Any other frame writes
to no command port; a system call that sleeps may find that its halts do. -/
theorem acknowledgement {halt : Action (Machine ChipPair) DispatchRefusal Unit}
    {machine : Machine ChipPair} (keeps : halt.Keeps bearing) (serving : Serving halt machine)
    (delivery : Delivery) :
    (∀ frame irq, delivery.frame? = some frame → ArrivesOn machine.dispatcher.windows irq frame →
      ∃ controller,
        (Controller.acknowledge irq : Action ChipPair DispatchRefusal Unit)
          machine.dispatcher.controller = ⟨.ok (), controller, ChipPair.endings irq⟩ ∧
        delivery.deliver halt machine = (handle frame (machine.withController controller)).preceded
          (ChipPair.endings irq) ∧
        NoCommand (handle frame (machine.withController controller) :
          Outcome (Machine ChipPair) DispatchRefusal Unit).effects) ∧
    ((∀ frame irq, delivery.frame? = some frame →
        ¬ ArrivesOn machine.dispatcher.windows irq frame) → ¬ delivery.IsCall →
      NoCommand (delivery.deliver halt machine).effects) ∧
    (delivery.IsCall → Quiet halt (delivery.deliver halt machine).effects ∧
      ((∀ machine, NoCommand (halt machine).effects) →
        NoCommand (delivery.deliver halt machine).effects)) := by
  obtain ⟨fits, free⟩ := serving.ready keeps
  refine ⟨fun frame irq framed arrives => ?_, fun off plain => ?_, fun call => ?_⟩
  · have found := (arrivesOn_iff fits).mp arrives
    obtain ⟨controller, driven⟩ := ChipPair.acknowledge_apply irq machine.dispatcher.controller
    exact ⟨controller, driven, Delivery.deliver_line fits free framed found driven,
      (handle_steady frame).leaves _⟩
  · refine Delivery.deliver_plain fits free plain fun frame framed => ?_
    exact Option.eq_none_iff_forall_ne_some.mpr fun irq found =>
      off frame irq framed ((arrivesOn_iff fits).mpr found)
  · have quiet := (Delivery.deliver_call keeps call).leaves machine
    exact ⟨quiet, quiet.noCommand⟩

/-- A machine whose chips were moved up, with a handler registered on line 9. -/
def diskMachine : Machine ChipPair where
  dispatcher := ((Dispatcher.Request.registerLine 9 (.client "disk")).perform
    ((Dispatcher.Request.remap 0x40 0x48).perform { controller := {} }).state).state

theorem serving_diskMachine (halt : Action (Machine ChipPair) DispatchRefusal Unit) :
    Serving halt diskMachine :=
  .begun (((Dispatcher.Ran.fresh ({} : ChipPair)).asked (.remap 0x40 0x48)).asked
    (.registerLine 9 (.client "disk"))) (by decide +kernel)

/-- The interrupt on line 9, as the processor found the kernel. -/
def diskFrame : Frame := { ds := 0x10, number := 0x49, cs := 0x08, eflags := 0x202 }

/-- The interrupt on line 9 is ended on both chips before its handler runs; the vector the line
arrived on before, and a system call, end nothing. -/
theorem acknowledgement_diskMachine :
    (tickHalt : Action (Machine ChipPair) DispatchRefusal Unit).Keeps bearing ∧
    Serving tickHalt diskMachine ∧
    ((Delivery.entry diskFrame.toWords).deliver tickHalt diskMachine).effects =
      [.portWrite slaveCommand endOfInterrupt, .portWrite masterCommand endOfInterrupt,
        .handlerRun "disk" diskFrame] ∧
    NoCommand ((Delivery.dispatch { number := 0x29 }).deliver tickHalt diskMachine).effects ∧
    NoCommand ((Delivery.entry (idleFrame systemCallVector).toWords).deliver tickHalt
      diskMachine).effects := by
  have serving := serving_diskMachine tickHalt
  have placed : (diskMachine.dispatcher.windows.vector 9 : Answer DispatchRefusal UInt8) =
      .ok 0x49 := by
    decide +kernel
  have registered : diskMachine.dispatcher.handler? 0x49 = some (.client "disk") := by
    decide +kernel
  have windows : diskMachine.dispatcher.windows = ⟨0x40, 0x48⟩ := by
    decide +kernel
  have keeps : (tickHalt : Action (Machine ChipPair) DispatchRefusal Unit).Keeps bearing :=
    tickHalt_steady.keeps
  refine ⟨keeps, serving, ?_, ?_, ?_⟩
  · obtain ⟨controller, _, all, _⟩ := (acknowledgement keeps serving (.entry diskFrame.toWords)).1
      diskFrame 9 rfl ⟨by decide, 0x49, placed, rfl⟩
    have same : (diskMachine.withController controller).dispatcher.handler? 0x49 =
        some (.client "disk") := registered
    have vector : diskFrame.vector? = some 0x49 := rfl
    rw [all, handle_apply vector, same]
    rfl
  · refine (acknowledgement keeps serving (.dispatch { number := 0x29 })).2.1
      (fun frame irq framed arrives => ?_) id
    cases framed
    rw [windows] at arrives
    exact absurd ((arrivesOn_iff (by decide)).mp arrives) (by simp [Frame.vector?, Windows.lineAt])
  · exact ((acknowledgement keeps serving (.entry _)).2.2 ⟨_, rfl, rfl⟩).2
      tickHalt_steady.leaves

end Machine

end MiniKernel
