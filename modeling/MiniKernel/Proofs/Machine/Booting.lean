/-
**What a boot leaves.**

* `Startup.during_ok` — a phase that completes did its work.
* `Startup.run_ok` — the phases of a boot but the last make a core of the region and set the timer.
* `Machine.Up` — a machine with a sane core, no lock held, and a timer that counts.
* `Machine.goLive_apply` — the last phase, which gives the dispatcher's lock back before it sets the
  interrupt flag, comes to what it does for one who owns the dispatcher.
* `Machine.boot_ok`, `Machine.up_boot` — **what a boot that succeeds publishes**, and that it leaves
  such a machine.
-/

import MiniKernel.Machine.Boot
import MiniKernel.Proofs.SystemCall.Safety

namespace MiniKernel

variable {C ε α : Type}

/-! ### Phases -/

namespace Startup

variable {startup : Startup C} {phase : Phase} {work : Action (Startup C) KernelRefusal α}
  {value : α}

/-- The board as a phase starts. -/
def begun (startup : Startup C) (phase : Phase) : Startup C :=
  { startup with board := startup.board.update phase.name .inProgress }

/-- **A phase that completes did its work**, and leaves the timer as the work did. -/
theorem during_ok (answers : (during phase work startup).result = .ok value) :
    (work (startup.begun phase)).result = .ok value ∧
      (during phase work startup).state.timer = (work (startup.begun phase)).state.timer := by
  have marks : (mark phase .inProgress : Action (Startup C) KernelRefusal PUnit) startup =
      ⟨.ok ⟨⟩, startup.begun phase, []⟩ := rfl
  unfold during Phase.carryOut at answers ⊢
  rw [Action.bind_quiet marks] at answers ⊢
  rw [Action.bind_apply_ok (Action.report_apply _ _)] at answers ⊢
  obtain ⟨found, done, answers, same⟩ :=
    Action.ok_of_attempt (fun _ _ answered => by cases answered) answers
  cases answers
  refine ⟨done, ?_⟩
  rw [same]
  rfl

/-- A computation on the dispatcher leaves the timer alone. -/
theorem keeps_onDispatcher (action : Action (Dispatcher C) DispatchRefusal α) :
    (onDispatcher action).Keeps Startup.timer := fun _ => rfl

/-- So does making a heap. -/
theorem keeps_create (region : Region) :
    (Heap.create region : Action (Startup C) HeapRefusal Heap).Keeps Startup.timer := by
  unfold Heap.create
  split
  · exact Action.keeps_ask _
  · exact Action.Keeps.bind (Action.keeps_emit _) fun _ => fun _ => rfl

variable {config : Config}

theorem heapPhase_ok {region : Region} {heap : Heap}
    (answers : (heapPhase region startup).result = .ok heap) :
    (∃ arena, Arena.ofRegion? region = some arena ∧ heap = Heap.ofArena arena) ∧
      (heapPhase region startup).state.timer = startup.timer := by
  obtain ⟨made, same⟩ := during_ok answers
  exact ⟨Heap.create_eq_ok_iff.mp (Action.ok_of_relabel made), same.trans (keeps_create region _)⟩

/-- **A phase of two computations on the dispatcher** leaves the timer alone. -/
theorem dispatcherPhase_ok {β : Type} {first : Action (Dispatcher C) DispatchRefusal β}
    {next : Action (Dispatcher C) DispatchRefusal α}
    (answers : (during phase (onDispatcher first >>= fun _ => onDispatcher next) startup).result =
      .ok value) :
    (during phase (onDispatcher first >>= fun _ => onDispatcher next) startup).state.timer =
      startup.timer := by
  obtain ⟨_, same⟩ := during_ok answers
  have alone : (onDispatcher first >>= fun _ => onDispatcher next).Keeps Startup.timer :=
    Action.Keeps.bind (keeps_onDispatcher first) fun _ => keeps_onDispatcher next
  exact same.trans (alone (startup.begun phase))

theorem controllerPhase_ok [Controller C]
    (answers : (controllerPhase config startup).result = .ok ()) :
    (controllerPhase config startup).state.timer = startup.timer :=
  dispatcherPhase_ok answers

theorem tablePhase_ok {stubs : Stubs} (answers : (tablePhase stubs startup).result = .ok ()) :
    (tablePhase stubs startup).state.timer = startup.timer :=
  dispatcherPhase_ok answers

theorem goLive_ok (answers : (goLive startup).result = .ok ()) :
    (goLive startup).state.timer = startup.timer :=
  dispatcherPhase_ok answers

theorem timerPhase_ok [Controller C] {handler : Handler}
    (answers : (timerPhase config handler startup).result = .ok ()) :
    (timerPhase config handler startup).state.timer =
      startup.timer.withFrequency config.tickRate := by
  obtain ⟨done, same⟩ := during_ok answers
  refine same.trans ?_
  by_cases zero : config.tickRate = 0
  · rw [if_pos zero] at done
    cases done
  · rw [if_neg zero]
    rw [Action.bind_quiet (Action.modify_apply _ _)]
    refine Action.Keeps.bind (fun _ => rfl) (fun _ => ?_) _
    refine Action.Keeps.bind (fun _ => rfl) fun _ => ?_
    exact Action.Keeps.bind (keeps_onDispatcher _) fun _ => keeps_onDispatcher _

theorem processPhase_ok {heap : Heap} {core : Core}
    (answers : (processPhase heap config startup).result = .ok core) :
    (∃ now, core = ⟨heap, (ProcessTable.create config.stackBytes now).started⟩) ∧
      (processPhase heap config startup).state.timer = startup.timer := by
  obtain ⟨done, same⟩ := during_ok answers
  by_cases zero : config.stackBytes = 0
  · rw [if_pos zero] at done
    cases done
  · rw [if_neg zero, Action.bind_quiet (Action.get_apply _)] at done
    obtain ⟨now, _, made, kept⟩ := Action.ok_of_bind done
    cases made
    refine ⟨⟨now, rfl⟩, same.trans ?_⟩
    rw [if_neg zero, Action.bind_quiet (Action.get_apply _), kept]
    rfl

/-- **The phases of a boot but the last** make a core over a fresh heap and set the timer. -/
theorem run_ok [Controller C] {region : Region} {stubs : Stubs} {handler : Handler} {core : Core}
    (answers : (run region stubs config handler startup).result = .ok core) :
    (∃ arena now, Arena.ofRegion? region = some arena ∧
        core = ⟨Heap.ofArena arena, (ProcessTable.create config.stackBytes now).started⟩) ∧
      (run region stubs config handler startup).state.timer =
        startup.timer.withFrequency config.tickRate := by
  obtain ⟨heap, made, answers, to_controller⟩ := Action.ok_of_bind answers
  obtain ⟨⟨arena, placed, rfl⟩, made_timer⟩ := heapPhase_ok made
  obtain ⟨_, moved, answers, to_table⟩ := Action.ok_of_bind answers
  obtain ⟨_, loaded, answers, to_timer⟩ := Action.ok_of_bind answers
  obtain ⟨_, set, answers, to_processes⟩ := Action.ok_of_bind answers
  obtain ⟨⟨now, rfl⟩, last⟩ := processPhase_ok answers
  refine ⟨⟨arena, now, placed, rfl⟩, ?_⟩
  rw [run, to_controller, to_table, to_timer, to_processes, last, timerPhase_ok set,
    tablePhase_ok loaded, controllerPhase_ok moved, made_timer]

end Startup

/-! ### Machines that are up -/

namespace Machine

variable {machine : Machine C}

/-- **A machine with a sane core, no lock held, and a timer that counts.** -/
structure Up (machine : Machine C) : Prop where
  free : machine.held = {}
  counts : machine.timer.frequency ≠ 0
  small : machine.timer.frequency < wordLimit
  core : ∃ core, machine.core = some core ∧ core.Sane

/-- What a boot works on, as it finds it in a machine. -/
def startup (machine : Machine C) : Startup C := ⟨machine.dispatcher, machine.timer, machine.board⟩

theorem lockStartup_apply (free : machine.held = {}) (action : Action (Startup C) ε α) :
    lockStartup action machine =
      ⟨(action machine.startup).result,
        { machine with
          dispatcher := (action machine.startup).state.dispatcher
          timer := (action machine.startup).state.timer
          board := (action machine.startup).state.board },
        (action machine.startup).effects⟩ := by
  unfold lockStartup locked
  rw [free]
  rfl

/-- The phases but the last publish a core over the region and set the timer. -/
theorem assemble_ok [Controller C] {region : Region} {stubs : Stubs} {config : Config}
    {handler : Handler} (free : machine.held = {})
    (answers : (assemble region stubs config handler machine).result = .ok ()) :
    (assemble region stubs config handler machine).state.held = {} ∧
      (assemble region stubs config handler machine).state.timer =
        machine.timer.withFrequency config.tickRate ∧
      ∃ arena now, Arena.ofRegion? region = some arena ∧
        (assemble region stubs config handler machine).state.core =
          some ⟨Heap.ofArena arena, (ProcessTable.create config.stackBytes now).started⟩ := by
  have blank : ({ machine with board := Board.ofNames (Phase.all.map Phase.name) } :
      Machine C).held = {} := free
  unfold assemble at answers ⊢
  rw [Action.bind_quiet (Action.modify_apply _ _)] at answers ⊢
  obtain ⟨core, runs, _, same⟩ := Action.ok_of_bind answers
  rw [same, lockStartup_apply blank]
  rw [lockStartup_apply blank] at runs
  obtain ⟨⟨arena, now, placed, rfl⟩, timer⟩ := Startup.run_ok runs
  exact ⟨free, timer, arena, now, placed, rfl⟩

/-- A phase of the machine does what it does on the parts a boot works on, if its work does. -/
theorem carryOut_onStartup {phase : Phase} {work : Action (Machine C) KernelRefusal α}
    {part : Action (Startup C) KernelRefusal α}
    (same : ∀ board, work { machine with board } = onStartup part { machine with board }) :
    phase.carryOut (fun progress => onStartup (Startup.mark phase progress)) work machine =
      onStartup (Startup.during phase part) machine := by
  have begins : (onStartup (Startup.mark phase .inProgress) : Action (Machine C) KernelRefusal Unit)
      machine = ⟨.ok (), { machine with board := machine.board.update phase.name .inProgress }, []⟩ :=
    rfl
  have marks : (Startup.mark phase .inProgress : Action (Startup C) KernelRefusal Unit)
      ⟨machine.dispatcher, machine.timer, machine.board⟩ = ⟨.ok (),
        ⟨machine.dispatcher, machine.timer, machine.board.update phase.name .inProgress⟩, []⟩ := rfl
  have whole : (onStartup (Startup.during phase part) : Action (Machine C) KernelRefusal α) machine =
      _ := Action.within_apply _ _ _ machine
  rw [whole]
  unfold Startup.during Phase.carryOut
  rw [Action.bind_quiet begins, Action.bind_apply_ok (Action.report_apply _ _),
    Action.bind_quiet marks, Action.bind_apply_ok (Action.report_apply _ _)]
  cases ends : part ⟨machine.dispatcher, machine.timer,
    machine.board.update phase.name .inProgress⟩ with
  | mk result after effects =>
    have worked : work { machine with board := machine.board.update phase.name .inProgress } =
        ⟨result, { machine with
          dispatcher := after.dispatcher, timer := after.timer, board := after.board }, effects⟩ := by
      rw [same, onStartup, Action.within_apply, ends]
    cases result with
    | ok value =>
      rw [Action.bind_apply_ok (Action.attempt_ok worked),
        Action.bind_apply_ok (Action.attempt_ok ends)]
      rfl
    | error failure =>
      cases failure with
      | refused cause =>
        rw [Action.bind_apply_ok (Action.attempt_refused worked),
          Action.bind_apply_ok (Action.attempt_refused ends)]
        rfl
      | aborted cause =>
        rw [Action.bind_apply_error (Action.attempt_aborted worked),
          Action.bind_apply_error (Action.attempt_aborted ends)]

/-- **The last phase is that of one who owns the dispatcher**, though the lock is given back before the
flag is set. -/
theorem goLive_apply (free : machine.held = {}) :
    goLive machine = onStartup Startup.goLive machine := by
  refine carryOut_onStartup fun board => ?_
  rw [onStartup, Action.within_apply]
  cases armed : Startup.onDispatcher Dispatcher.arm ⟨machine.dispatcher, machine.timer, board⟩ with
  | mk result after effects =>
    have locked : (lockStartup (Startup.onDispatcher Dispatcher.arm) :
        Action (Machine C) KernelRefusal Unit) { machine with board } =
        ⟨result, { machine with
          dispatcher := after.dispatcher, timer := after.timer, board := after.board }, effects⟩ := by
      have unheld : ({ machine with board } : Machine C).held = {} := free
      rw [lockStartup_apply unheld, startup, armed]
    cases result with
    | ok value =>
      rw [Action.bind_apply_ok locked, Action.bind_apply_ok armed]
      rfl
    | error failure => rw [Action.bind_apply_error locked, Action.bind_apply_error armed]

/-- The last phase leaves core and timer as they are. -/
theorem goLive_ok (free : machine.held = {}) (answers : (goLive machine).result = .ok ()) :
    (goLive machine).state.held = {} ∧ (goLive machine).state.timer = machine.timer ∧
      (goLive machine).state.core = machine.core := by
  rw [goLive_apply free] at answers ⊢
  exact ⟨free, Startup.goLive_ok answers, rfl⟩

/-- **A boot that succeeds** publishes a core over the region and sets the timer. -/
theorem boot_ok [Controller C] {region : Region} {stubs : Stubs} {config : Config}
    (free : machine.held = {}) (boots : (boot region stubs config machine).result = .ok ()) :
    (boot region stubs config machine).state.held = {} ∧
      (boot region stubs config machine).state.timer =
        machine.timer.withFrequency config.tickRate ∧
      ∃ arena now, Arena.ofRegion? region = some arena ∧
        (boot region stubs config machine).state.core =
          some ⟨Heap.ofArena arena, (ProcessTable.create config.stackBytes now).started⟩ := by
  unfold boot at boots ⊢
  rw [Action.bind_quiet (Action.modify_apply _ _)] at boots ⊢
  rw [Action.bind_apply_ok (Action.report_apply _ _)] at boots ⊢
  rw [Action.bind_quiet (Action.get_apply _)] at boots ⊢
  split at boots
  · rw [Action.bind_apply_ok (Action.report_apply _ _)] at boots
    cases boots
  · rename_i bare
    rw [if_neg bare]
    obtain ⟨_, _, boots, same⟩ := Action.ok_of_bind boots
    rw [same]
    have masked : (onCpu (ε := KernelRefusal) (Processor.setFlag false) { machine with
        console := { attached := true, level := config.verbosity } }).state.held = {} := free
    have clock : (onCpu (ε := KernelRefusal) (Processor.setFlag false) { machine with
        console := { attached := true, level := config.verbosity } }).state.timer =
          machine.timer := rfl
    generalize (onCpu (ε := KernelRefusal) (Processor.setFlag false) { machine with
        console := { attached := true, level := config.verbosity } }).state = begun
      at masked clock boots ⊢
    obtain ⟨_, phases, _, there⟩ :=
      Action.ok_of_attempt (fun _ _ answered => by cases answered) boots
    rw [there]
    obtain ⟨_, first, last, further⟩ := Action.ok_of_bind phases
    obtain ⟨unheld, timer, published⟩ := assemble_ok masked first
    obtain ⟨unheld, same_timer, same_core⟩ := goLive_ok unheld last
    dsimp only
    rw [Action.report_apply, further, same_timer, same_core, timer, clock]
    exact ⟨unheld, rfl, published⟩

/-- **A boot that succeeds leaves a machine that is up.** -/
theorem up_boot [Controller C] {region : Region} {stubs : Stubs} {config : Config}
    (free : machine.held = {}) (small : config.tickRate < wordLimit)
    (boots : (boot region stubs config machine).result = .ok ()) :
    Up (boot region stubs config machine).state := by
  obtain ⟨unheld, timer, arena, now, _, published⟩ := boot_ok free boots
  have rate : max config.tickRate 1 < wordLimit := max_lt small (by decide)
  refine ⟨unheld, ?_, ?_, _, published, Core.sane_ofArena ..⟩
  · rw [timer]
    exact Nat.ne_of_gt (lt_of_lt_of_le Nat.zero_lt_one (le_max_right _ _))
  · rw [timer]
    exact rate

end Machine

end MiniKernel
