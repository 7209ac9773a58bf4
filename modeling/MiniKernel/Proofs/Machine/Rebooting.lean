/-
**A machine that has a core cannot be booted again.**

* `Machine.standing` — whether a core was published and the console attached. Nothing a running
  machine does takes either back; one lemma for each of its computations.
* `Machine.Event` — what can happen to a running machine, and `Machine.Running` — the machines met
  from a boot that published a core on. `Machine.Running.stands`: they have a core and a console.
* `Machine.boot_again` — **every further boot of such a machine is refused and leaves only reports.
  All it changes is the level of the log.**
* `Machine.boot_again_louder` — that does change.
-/

import MiniKernel.Machine.Boot
import MiniKernel.Proofs.Machine.Acknowledgement

namespace MiniKernel.Machine

open MiniKernel.Action

variable {C ε α τ : Type} {machine : Machine C} {halt : Action (Machine C) ε Unit}

/-! ### What no computation takes back -/

/-- Whether a core was published and the console attached. -/
def standing (machine : Machine C) : Bool × Bool :=
  (machine.core.isSome, machine.console.attached)

/-- Taking a lock leaves what the computation under it leaves, unless that is about locks. -/
theorem keeps_locked {part : Machine C → τ} {action : Action (Machine C) ε α}
    (unheld : ∀ (machine : Machine C) held, part { machine with held } = part machine)
    (keeps : action.Keeps part) (isHeld : Locks → Bool) (mark : Bool → Locks → Locks) :
    (locked isHeld mark action).Keeps part := by
  intro machine
  unfold locked
  split
  · rfl
  · exact (unheld _ _).trans ((keeps _).trans (unheld _ _))

theorem standing_lockDispatcher (work : Action (Dispatcher C) ε α) :
    (lockDispatcher work : Action (Machine C) ε α).Keeps standing :=
  keeps_locked (fun _ _ => rfl) (fun _ => rfl) _ _

/-- Work on the core leaves a core. -/
theorem standing_lockCore (work : Action Core ε α) :
    (lockCore work : Action (Machine C) ε (Option α)).Keeps standing := by
  intro machine
  unfold lockCore
  split
  · rfl
  · rename_i core there
    rw [map_apply]
    unfold locked
    split
    · rfl
    · exact Prod.ext (congrArg Option.isSome there).symm rfl

theorem standing_masked {action : Action (Machine C) ε α} (keeps : action.Keeps standing) :
    (masked action).Keeps standing := by
  refine Keeps.bind (fun _ => rfl) fun enabled => ?_
  cases enabled with
  | false => exact keeps
  | true =>
    refine Keeps.bind (fun _ => rfl) fun _ => keeps.attempt.bind fun answer => ?_
    refine Keeps.bind (fun _ => rfl) fun _ => ?_
    cases answer with
    | ok value => exact fun _ => rfl
    | error cause => exact keeps_ask _

theorem standing_guardCore (work : Action Core ε α) :
    (guardCore work : Action (Machine C) ε (Option α)).Keeps standing := by
  intro machine
  unfold guardCore
  split
  · exact standing_masked (standing_lockCore work) machine
  · rfl

theorem standing_reachWithin (halts : halt.Keeps standing) (target limit : Nat) :
    (Wait.reachWithin Machine.timer halt target limit).Keeps standing := by
  induction limit with
  | zero =>
    refine Keeps.bind (fun _ => rfl) fun machine => ?_
    split
    · exact keeps_ask _
    · exact fun _ => rfl
  | succ limit ih =>
    refine Keeps.bind (fun _ => rfl) fun machine => ?_
    split
    · exact halts.bind fun _ => ih
    · exact fun _ => rfl

theorem standing_sleep (halts : halt.Keeps standing) (milliseconds : Nat) :
    (sleep halt milliseconds).Keeps standing := by
  refine Keeps.bind (fun _ => rfl) fun _ => (keeps_ask _).bind fun _ => ?_
  refine Keeps.bind (fun _ => rfl) fun _ => (keeps_ask _).bind fun _ => ?_
  exact Keeps.bind (fun _ => rfl) fun _ => standing_reachWithin halts _ _

theorem standing_serve (halts : halt.Keeps standing) (frame : Frame) :
    (serve halt frame).Keeps standing := by
  refine Keeps.bind (fun _ => rfl) fun machine => ?_
  refine (standing_guardCore _).attempt.bind fun answer => ?_
  dsimp only
  split
  · exact (standing_sleep halts _).bind fun _ => fun _ => rfl
  · exact fun _ => rfl

/-! ### Interrupts -/

theorem standing_countTick : (countTick : Action (Machine C) ε Unit).Keeps standing := by
  refine Keeps.bind (fun _ => rfl) fun _ => Keeps.bind (fun _ => rfl) fun machine => ?_
  split
  · exact fun _ => rfl
  · exact (standing_lockCore _).bind fun _ => fun _ => rfl

theorem standing_invoke (handler : Handler) (frame : Frame) :
    (invoke handler frame : Action (Machine C) ε Unit).Keeps standing := by
  cases handler with
  | tick => exact standing_countTick
  | client name => exact keeps_emit _

theorem standing_stop : (stop : Action (Machine C) ε α).Keeps standing :=
  Keeps.bind (fun _ => rfl) fun _ => keeps_ask _

theorem standing_crash (report : CrashReport) :
    (crash report : Action (Machine C) ε α).Keeps standing :=
  (keeps_emit _).bind fun _ => standing_stop

variable [Controller C]

theorem standing_dispatch (frame : Frame) :
    (dispatch frame : Action (Machine C) DispatchRefusal Dispatched).Keeps standing := by
  refine Keeps.bind (fun _ => rfl) fun route => ?_
  cases route with
  | invoke handler => exact (standing_invoke handler frame).bind fun _ => fun _ => rfl
  | ignore => exact fun _ => rfl
  | fatal report => exact fun _ => rfl

theorem standing_interrupt (frame : Frame) :
    (interrupt frame : Action (Machine C) ε Unit).Keeps standing := by
  refine (standing_lockDispatcher _).attempt.bind fun answer => ?_
  rcases answer with cause | handler | _ | report
  · exact (keeps_emit _).bind fun _ => standing_stop
  · exact standing_invoke handler frame
  · exact fun _ => rfl
  · exact standing_crash report

theorem standing_entry (halts : halt.Keeps standing) (words : List UInt32) :
    (entry halt words).Keeps standing := by
  unfold entry entryWith
  split
  · exact (keeps_emit _).bind fun _ => standing_stop
  · split
    · exact (standing_serve halts _).bind fun _ => fun _ => rfl
    · exact (standing_interrupt _).bind fun _ => fun _ => rfl

theorem standing_trap (halts : halt.Keeps standing) (words : List UInt32) :
    (trap halt words).Keeps standing :=
  (standing_entry halts _).bind fun _ => fun _ => rfl

/-- A halt that ends with the timer's interrupt is one of those that may be waited with. -/
theorem standing_lineHalt : (lineHalt : Action (Machine C) ε Unit).Keeps standing :=
  Keeps.bind (fun _ => rfl) fun _ => Keeps.bind (fun _ => rfl) fun _ =>
    (keeps_ask _).bind fun _ => standing_interrupt _

/-! ### Boots -/

/-- The console is attached before anything else, whatever comes of the boot. -/
theorem boot_attaches (region : Region) (stubs : Stubs) (config : Config) (machine : Machine C) :
    (boot region stubs config machine).state.console.attached = true := by
  have under_lock : ∀ {α : Type} (action : Action (Startup C) KernelRefusal α),
      (lockStartup action : Action (Machine C) KernelRefusal α).Keeps Machine.console :=
    fun _ => keeps_locked (fun _ _ => rfl) (fun _ => rfl) _ _
  have last : (goLive : Action (Machine C) KernelRefusal Unit).Keeps Machine.console := by
    refine Keeps.bind (fun _ => rfl) fun _ => (keeps_emit _).bind fun _ => ?_
    refine ((under_lock _).bind fun _ => fun _ => rfl).attempt.bind fun answer => ?_
    cases answer with
    | ok _ => exact fun _ => rfl
    | error cause => exact fun _ => rfl
  have phases : (do assemble region stubs config .tick; goLive :
      Action (Machine C) KernelRefusal Unit).Keeps Machine.console := by
    refine Keeps.bind ?_ fun _ => last
    exact Keeps.bind (fun _ => rfl) fun _ => (under_lock _).bind fun _ => fun _ => rfl
  unfold boot
  rw [bind_quiet (modify_apply _ _), bind_apply_ok (report_apply _ _), bind_quiet (get_apply _)]
  split
  · rfl
  · refine congrArg Console.attached ((?_ : Keeps Machine.console _) _)
    refine Keeps.bind (fun _ => rfl) fun _ => phases.attempt.bind fun answer => ?_
    cases answer with
    | ok _ => exact keeps_emit _
    | error cause => exact (keeps_emit _).bind fun _ => keeps_ask _

/-- A boot of a machine that has a core attaches the console, sets the level, and is refused. -/
theorem boot_refused (there : machine.core.isSome = true) (region : Region) (stubs : Stubs)
    (config : Config) :
    boot region stubs config machine =
      ⟨.error (.refused .invalidArgument),
        { machine with console := { attached := true, level := config.verbosity } },
        [.report (.bootStarted systemName systemVersion), .report .alreadyRunning]⟩ := by
  unfold boot
  rw [bind_quiet (modify_apply _ _), bind_apply_ok (report_apply _ _), bind_quiet (get_apply _),
    if_pos there]
  rfl

/-! ### Running machines -/

/-- **What can happen to a running machine.** The work on a part of it may be any at all. -/
inductive Event (C : Type)
  | boot (region : Region) (stubs : Stubs) (config : Config)
  /-- An interrupt or a system call, given the words in memory. -/
  | trap (words : List UInt32)
  | dispatch (frame : Frame)
  | core (work : Action Core KernelRefusal Unit)
  | dispatcher (work : Action (Dispatcher C) KernelRefusal Unit)
  | tick
  /-- A tick while the core is being worked on. -/
  | tickBusy
  | sleep (milliseconds : Nat)
  | setLevel (level : Level)
  | crash (report : CrashReport)

variable {halt : Action (Machine C) KernelRefusal Unit}

/-- What the machine does about it. -/
def Event.perform (halt : Action (Machine C) KernelRefusal Unit) :
    Event C → Action (Machine C) KernelRefusal Unit
  | boot region stubs config => Machine.boot region stubs config
  | trap words => do let _ ← Machine.trap halt words
  | dispatch frame => do let _ ← (dispatchLocked frame).relabel KernelRefusal.ofDispatch
  | core work => do let _ ← guardCore work
  | dispatcher work => guardDispatcher work
  | tick => countTick
  | tickBusy => countTickBusy
  | sleep milliseconds => Machine.sleep halt milliseconds
  | setLevel level => modify fun self => { self with console := { self.console with level } }
  | crash report => Machine.crash report

/-- **The machines met from a boot that published a core on.** The boot may have failed after
that. -/
inductive Running (halt : Action (Machine C) KernelRefusal Unit) : Machine C → Prop
  | published {machine : Machine C} {region : Region} {stubs : Stubs} {config : Config}
      (made : (boot region stubs config machine).state.core.isSome = true) :
      Running halt (boot region stubs config machine).state
  | step {machine : Machine C} (event : Event C) (running : Running halt machine) :
      Running halt (event.perform halt machine).state

/-- **No event takes core or console back.** -/
theorem Event.perform_stands (halts : halt.Keeps standing) (event : Event C)
    (stands : standing machine = (true, true)) :
    standing (event.perform halt machine).state = (true, true) := by
  -- all but a boot leave both as they are, core or not
  have left : ∀ {action : Action (Machine C) KernelRefusal Unit}, action.Keeps standing →
      standing (action machine).state = (true, true) :=
    fun keeps => (keeps machine).trans stands
  cases event with
  | boot region stubs config =>
    have there : machine.core.isSome = true := congrArg Prod.fst stands
    show standing (Machine.boot region stubs config machine).state = _
    rw [boot_refused there]
    exact Prod.ext there rfl
  | trap words => exact left ((standing_trap halts words).bind fun _ => fun _ => rfl)
  | dispatch frame =>
    have keeps : (dispatchLocked frame : Action (Machine C) DispatchRefusal Dispatched).Keeps
        standing :=
      standing_masked (keeps_locked (fun _ _ => rfl) (standing_dispatch frame) _ _)
    exact left (Keeps.bind (fun machine => keeps machine) fun _ => fun _ => rfl)
  | core work => exact left ((standing_guardCore work).bind fun _ => fun _ => rfl)
  | dispatcher work => exact left (standing_masked (standing_lockDispatcher work))
  | tick => exact left standing_countTick
  | tickBusy => exact left (keeps_locked (fun _ _ => rfl) standing_countTick _ _)
  | sleep milliseconds => exact left (standing_sleep halts milliseconds)
  | setLevel level => exact left fun _ => rfl
  | crash report => exact left (standing_crash report)

/-- **A running machine has a core and a console.** -/
theorem Running.stands (running : Running halt machine) (halts : halt.Keeps standing) :
    standing machine = (true, true) := by
  induction running with
  | published made => exact Prod.ext made (boot_attaches ..)
  | step event _ ih => exact event.perform_stands halts ih

/-- **A running machine cannot be booted again.** Whatever region, stubs and configuration it is
given, and whatever happened since its core was published, the boot is refused for its argument,
leaves two reports and no traffic on the ports and no write of the interrupt flag, and changes the
level of the log to the one it was given; nothing else of the machine changes. So it changes
nothing if and only if that is the level already. -/
theorem boot_again (running : Running halt machine) (halts : halt.Keeps standing)
    (region : Region) (stubs : Stubs) (config : Config) :
    boot region stubs config machine =
        ⟨.error (.refused .invalidArgument),
          { machine with console := { machine.console with level := config.verbosity } },
          [.report (.bootStarted systemName systemVersion), .report .alreadyRunning]⟩ ∧
      ((boot region stubs config machine).state = machine ↔
        config.verbosity = machine.console.level) := by
  have stands := running.stands halts
  have there : machine.core.isSome = true := congrArg Prod.fst stands
  have attached : machine.console.attached = true := congrArg Prod.snd stands
  have refused := boot_refused there region stubs config
  rw [← attached] at refused
  refine ⟨refused, ?_⟩
  rw [refused]
  constructor
  · exact fun same => congrArg (fun self : Machine C => self.console.level) same
  · intro same
    rw [same]

/-- A machine that has given memory to a caller, counted two ticks and shown less of its log. -/
def pacedMachine : Machine StoredMask :=
  [Event.trap [0x10, 0, 0, 0, 0, 8, 0, 0, 11, 0x80, 0, 0, 0x08, 0x202], .tick, .tickBusy,
    .setLevel .warn].foldl (fun machine event => (event.perform lineHalt machine).state)
    bootedMachine

theorem running_bootedMachine : Running lineHalt bootedMachine :=
  .published (by decide +kernel)

theorem running_pacedMachine : Running lineHalt pacedMachine :=
  (((running_bootedMachine.step _).step _).step _).step _

/-- Booted again with its own level it stays as it is, with two ticks counted. -/
theorem boot_again_pacedMachine :
    Running lineHalt pacedMachine ∧
      (lineHalt : Action (Machine StoredMask) KernelRefusal Unit).Keeps standing ∧
      pacedMachine.timer.ticks = 2 ∧
      (boot Heap.smallRegion someStubs { verbosity := .warn } pacedMachine).result =
        .error (.refused .invalidArgument) ∧
      (boot Heap.smallRegion someStubs { verbosity := .warn } pacedMachine).state =
        pacedMachine := by
  have again := boot_again running_pacedMachine standing_lineHalt Heap.smallRegion someStubs
    { verbosity := .warn }
  refine ⟨running_pacedMachine, standing_lineHalt, by decide +kernel, ?_, ?_⟩
  · rw [again.1]
  · exact again.2.mpr (by decide +kernel)

/-- **A boot that is refused shows more of the log than before.** -/
theorem boot_again_louder :
    Running lineHalt bootedMachine ∧
      (boot Heap.smallRegion someStubs { verbosity := .debug } bootedMachine).result =
        .error (.refused .invalidArgument) ∧
      bootedMachine.console.level = .info ∧
      (boot Heap.smallRegion someStubs { verbosity := .debug } bootedMachine).state.console.level =
        .debug ∧
      (boot Heap.smallRegion someStubs { verbosity := .debug } bootedMachine).state ≠
        bootedMachine := by
  have before : bootedMachine.console.level = .info := by decide +kernel
  have after : (boot Heap.smallRegion someStubs { verbosity := .debug }
      bootedMachine).state.console.level = .debug := by decide +kernel
  refine ⟨running_bootedMachine, by decide +kernel, before, after, fun same => ?_⟩
  rw [same, before] at after
  cases after

end MiniKernel.Machine
