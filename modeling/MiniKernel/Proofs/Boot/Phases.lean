/-
**What a run of the phases can come to.**

* `Phase.Provided` — what a phase needs of the region and the configuration; `Phase.Touches` — what
  it may touch.
* `Startup.during_completes`, `Startup.during_refused` — a phase whose work answers, and one whose
  work refuses.
* `Startup.heapPhase_made` and its siblings — each phase with what it needs, and without.
* `Startup.Course`, `Startup.run_course` — **every run of the phases goes one of five ways**, over
  any lawful controller.
-/

import MiniKernel.Proofs.Interrupt.Bindings
import MiniKernel.Proofs.Interrupt.Controllers
import MiniKernel.Proofs.Interrupt.Placement
import MiniKernel.Proofs.Machine.Booting

namespace MiniKernel

/-! ### What phases need and touch -/

/-- A line of the log. -/
def Effect.IsReport : Effect → Prop
  | .report _ => True
  | _ => False

/-- A gate, or the vector table as a whole. -/
def Effect.IsTable : Effect → Prop
  | .gateWrite _ | .tableLoad _ => True
  | _ => False

/-- A write to the interval timer chip. -/
def Effect.IsDivider : Effect → Prop
  | .portWrite port _ => port = Divider.commandPort ∨ port = Divider.channelPort
  | _ => False

namespace Divider

/-- The writes that program the timer chip: its mode, and the reload value low byte first. -/
def writes (frequency : Nat) : List Effect :=
  [.portWrite commandPort squareWave,
    .portWrite channelPort (UInt8.ofNat (reload frequency)),
    .portWrite channelPort (UInt8.ofNat (reload frequency / 256))]

theorem program_apply {σ ε : Type} (frequency : Nat) (state : σ) :
    (program frequency : Action σ ε Nat) state =
      ⟨.ok (reload frequency), state, writes frequency⟩ := rfl

theorem isDivider_of_mem_writes {frequency : Nat} {effect : Effect}
    (member : effect ∈ writes frequency) : effect.IsDivider := by
  unfold writes at member
  simp only [List.mem_cons, List.not_mem_nil, or_false] at member
  rcases member with rfl | rfl | rfl
  · exact Or.inl rfl
  · exact Or.inr rfl
  · exact Or.inr rfl

end Divider

namespace Phase

/-- **What a phase needs**: room for a smallest block from an aligned address on, acceptable
offsets, a tick rate, and stacks. The table and the interrupts need nothing of their own. -/
def Provided (region : Region) (config : Config) : Phase → Prop
  | heap => ∃ start, start % alignment = 0 ∧ region.address ≤ start ∧
      start + 32 ≤ region.address + region.bytes.size
  | controller => Windows.Suits config.windows.master ∧ Windows.Suits config.windows.slave ∧
      config.windows.master ≠ config.windows.slave
  | timer => config.tickRate ≠ 0
  | processes => config.stackBytes ≠ 0
  | table | interrupts => True

/-- What a phase may touch besides the log. -/
def Touches : Phase → Effect → Prop
  | heap, effect | processes, effect => effect.IsReport
  | controller, effect => effect.IsReport ∨ effect.IsLine
  | table, effect => effect.IsReport ∨ effect.IsTable
  | timer, effect => effect.IsReport ∨ effect.IsDivider ∨ effect.IsLine
  | interrupts, effect => effect.IsReport ∨ ∃ enabled, effect = .interruptFlag enabled

/-- How the log tells that a phase starts. -/
def opening (phase : Phase) : Effect := .report (.phaseStarted phase.number all.length phase.name)

/-- What a phase leaves that does its work. -/
def completing (phase : Phase) (work : List Effect) : List Effect :=
  phase.opening :: (work ++ [.report (.phaseDone phase.name)])

/-- What a phase leaves that refuses before it touches anything. -/
def failing (phase : Phase) : List Effect :=
  [phase.opening, .report (.phaseFailed phase.name .invalidArgument)]

/-- **A phase that had what it needs**, and touched no more than it may. -/
def Completes (region : Region) (config : Config) (phase : Phase) (span : List Effect) : Prop :=
  phase.Provided region config ∧
    ∃ work, (∀ effect ∈ work, phase.Touches effect) ∧ span = phase.completing work

theorem provided_controller_iff {region : Region} {config : Config} :
    Phase.controller.Provided region config ↔ config.windows.acceptable = true :=
  Windows.acceptable_iff.symm

/-- **There is an arena in a region that has room for a smallest block.** -/
theorem provided_heap_iff {region : Region} {config : Config} :
    Phase.heap.Provided region config ↔ ∃ arena, Arena.ofRegion? region = some arena := by
  unfold Provided Arena.ofRegion? alignment
  dsimp only
  split
  · rename_i room
    refine iff_of_true ⟨region.address + (8 - region.address % 8) % 8, ?_, ?_, ?_⟩ ⟨_, rfl⟩ <;>
      unfold roundDown at room <;> omega
  · rename_i room
    refine iff_of_false ?_ nofun
    rintro ⟨start, aligned, above, inside⟩
    unfold roundDown longestArena at room
    omega

end Phase

/-! ### One phase -/

/-- The board after a phase was started and its progress marked. -/
def Board.passed (board : Board) (phase : Phase) (progress : Progress) : Board :=
  (board.update phase.name .inProgress).update phase.name progress

/-- The board after some phases were completed. -/
def Board.through (board : Board) (phases : List Phase) : Board :=
  phases.foldl (fun board phase => board.passed phase .completed) board

namespace Startup

variable {C α : Type} {dispatcher after : Dispatcher C} {timer later : Timer} {board : Board}
  {phase : Phase} {region : Region} {config : Config} {stubs : Stubs} {handler : Handler}
  {work : Action (Startup C) KernelRefusal α} {value : α} {effects : List Effect}

/-- A phase is marked as started before its work. -/
theorem mark_begun :
    (mark phase .inProgress : Action (Startup C) KernelRefusal PUnit) ⟨dispatcher, timer, board⟩ =
      ⟨.ok ⟨⟩, ⟨dispatcher, timer, board.update phase.name .inProgress⟩, []⟩ := rfl

/-- **A phase whose work answers is completed.** -/
theorem during_completes
    (ends : work ⟨dispatcher, timer, board.update phase.name .inProgress⟩ =
      ⟨.ok value, ⟨after, later, board.update phase.name .inProgress⟩, effects⟩) :
    during phase work ⟨dispatcher, timer, board⟩ =
      ⟨.ok value, ⟨after, later, board.passed phase .completed⟩, phase.completing effects⟩ := by
  unfold during Phase.carryOut
  rw [Action.bind_quiet mark_begun]
  exact Action.bind_steps (Action.report_apply _ _) <|
    Action.bind_steps (Action.attempt_ok ends) rfl

/-- **A phase whose work refuses before it touches anything has failed.** -/
theorem during_refused
    (refuses : work ⟨dispatcher, timer, board.update phase.name .inProgress⟩ =
      ⟨.error (.refused .invalidArgument),
        ⟨dispatcher, timer, board.update phase.name .inProgress⟩, []⟩) :
    during phase work ⟨dispatcher, timer, board⟩ =
      ⟨.error (.refused .invalidArgument),
        ⟨dispatcher, timer, board.passed phase (.failed .invalidArgument)⟩, phase.failing⟩ := by
  unfold during Phase.carryOut
  rw [Action.bind_quiet mark_begun]
  exact Action.bind_steps (Action.report_apply _ _) <|
    Action.bind_steps (Action.attempt_refused refuses) rfl

/-- A dispatcher that answers, within a boot. -/
theorem onDispatcher_ok {action : Action (Dispatcher C) DispatchRefusal α}
    (ends : action dispatcher = ⟨.ok value, after, effects⟩) :
    onDispatcher action ⟨dispatcher, timer, board⟩ =
      ⟨.ok value, ⟨after, timer, board⟩, effects⟩ := by
  unfold onDispatcher
  rw [Action.relabel_apply, Action.within_apply, ends]
  rfl

end Startup

/-! ### Loaded tables -/

/-- **A dispatcher with its table loaded**: stubs bound where the lines arrive, the processor
pointed at the table and otherwise as it was, and a moved controller that lets every line through.
-/
structure Dispatcher.Loaded {C : Type} [Controller C] (dispatcher : Dispatcher C) (cpu : Processor)
    (stubs : Stubs) (windows : Windows) : Prop where
  bound : dispatcher.Bound stubs
  placed : dispatcher.windows = windows
  stage : dispatcher.stage = .loaded
  pointed : dispatcher.cpu = { cpu with table := some GateTable.pointer }
  moved : Controller.Moved dispatcher.controller
  shows : Controller.Shows dispatcher.controller 0

-- Gates written in order are known by their lemmas only.
seal Stubs.gates Dispatcher.withGates

namespace Dispatcher

variable {C : Type} [Controller C] {cpu : Processor} {self : Dispatcher C} {stubs : Stubs}
  {windows : Windows} {controller : C}

/-- A table whose stubs are bound, loaded. -/
theorem Bound.loaded (bound : self.Bound stubs) (moved : Controller.Moved self.controller)
    (shows : Controller.Shows self.controller 0) :
    self.withTable.Loaded self.cpu stubs self.windows :=
  ⟨⟨bound.exceptions, bound.lines, bound.systemCall⟩, rfl, rfl, rfl, moved, shows⟩

theorem loaded_withGates (fits : self.windows.acceptable = true)
    (moved : Controller.Moved self.controller) (shows : Controller.Shows self.controller 0)
    (stubs : Stubs) :
    (self.withGates (stubs.gates self.windows)).withTable.Loaded self.cpu stubs self.windows := by
  have frame := withGates_frame (stubs.gates self.windows) self
  have driven : (self.withGates (stubs.gates self.windows)).controller = self.controller := by
    rw [frame]
  have cpu : (self.withGates (stubs.gates self.windows)).cpu = self.cpu := by
    rw [frame]
  have placed : (self.withGates (stubs.gates self.windows)).windows = self.windows := by
    rw [frame]
  have loaded := (bound_withGates fits stubs).loaded (driven ▸ moved) (driven ▸ shows)
  rwa [cpu, placed] at loaded

/-- A handler on some vector changes nothing of that, nor does work on the controller. -/
theorem Loaded.handled (loaded : self.Loaded cpu stubs windows) (moved : Controller.Moved controller)
    (shows : Controller.Shows controller 0) (vector : UInt8) (handler : Option Handler) :
    Loaded { self.withHandler vector handler with controller } cpu stubs windows :=
  ⟨⟨loaded.bound.exceptions, loaded.bound.lines, loaded.bound.systemCall⟩, loaded.placed,
    loaded.stage, loaded.pointed, moved, shows⟩

theorem isTable_of_mem_gateWrites {gates : List (UInt8 × Gate)} {effect : Effect}
    (member : effect ∈ gateWrites gates) : effect.IsTable := by
  obtain ⟨bound, _, rfl⟩ := List.mem_map.mp member
  exact True.intro

end Dispatcher

/-! ### Each phase -/

namespace Startup

variable {C : Type} {dispatcher : Dispatcher C} {timer : Timer} {board : Board} {region : Region}
  {config : Config} {stubs : Stubs} {handler : Handler}

theorem heapPhase_made {arena : Arena} (made : Arena.ofRegion? region = some arena)
    (config : Config) (dispatcher : Dispatcher C) (timer : Timer) (board : Board) :
    ∃ span, Phase.heap.Completes region config span ∧
      heapPhase region ⟨dispatcher, timer, board⟩ =
        ⟨.ok (Heap.ofArena arena), ⟨dispatcher, timer, board.passed .heap .completed⟩, span⟩ := by
  refine ⟨_, ⟨Phase.provided_heap_iff.mpr ⟨arena, made⟩, [.report (.heapReady arena.size arena.base)],
    List.forall_mem_singleton.mpr True.intro, rfl⟩, during_completes ?_⟩
  unfold Heap.create
  rw [made]
  rfl

theorem heapPhase_refused (none : Arena.ofRegion? region = none) :
    heapPhase region ⟨dispatcher, timer, board⟩ =
      ⟨.error (.refused .invalidArgument),
        ⟨dispatcher, timer, board.passed .heap (.failed .invalidArgument)⟩,
        Phase.heap.failing⟩ := by
  refine during_refused ?_
  unfold Heap.create
  rw [none]
  rfl

theorem controllerPhase_refused [Controller C] (unfit : config.windows.acceptable = false) :
    controllerPhase config ⟨dispatcher, timer, board⟩ =
      ⟨.error (.refused .invalidArgument),
        ⟨dispatcher, timer, board.passed .controller (.failed .invalidArgument)⟩,
        Phase.controller.failing⟩ := by
  refine during_refused (Action.bind_apply_error ?_)
  unfold onDispatcher
  rw [Action.relabel_apply, Action.within_apply, Dispatcher.remap_refused unfit]
  rfl

/-- **The table is loaded whatever the stubs are**, if it is not in use. -/
theorem tablePhase_loaded [Controller C] (dispatcher : Dispatcher C)
    (fits : dispatcher.windows.acceptable = true) (idle : dispatcher.stage ≠ .live)
    (moved : Controller.Moved dispatcher.controller)
    (shown : Controller.Shows dispatcher.controller 0) (stubs : Stubs) (region : Region)
    (config : Config) (timer : Timer) (board : Board) :
    ∃ after span, Phase.table.Completes region config span ∧
      tablePhase stubs ⟨dispatcher, timer, board⟩ =
        ⟨.ok (), ⟨after, timer, board.passed .table .completed⟩, span⟩ ∧
      after.Loaded dispatcher.cpu stubs dispatcher.windows ∧
      after.handlers = dispatcher.handlers := by
  have bound := Dispatcher.bound_withGates fits stubs
  have frame := Dispatcher.withGates_frame (stubs.gates dispatcher.windows) dispatcher
  have loads := Dispatcher.loadGates_covered (by rwa [frame]) (by rwa [frame])
    (Dispatcher.covered_iff_firstUnbound.mp bound.covered)
  refine ⟨_, _, ⟨True.intro, _, ?_, rfl⟩, during_completes <|
    Action.bind_steps (onDispatcher_ok (Dispatcher.bindStubs_idle fits idle stubs)) <|
    onDispatcher_ok loads, Dispatcher.loaded_withGates fits moved shown stubs, ?_⟩
  · intro effect member
    rcases List.mem_append.mp member with gate | last
    · exact Or.inr (Dispatcher.isTable_of_mem_gateWrites gate)
    · cases last with
      | head => exact Or.inr True.intro
      | tail _ told =>
        cases List.mem_singleton.mp told
        exact Or.inl True.intro
  · show (dispatcher.withGates (stubs.gates dispatcher.windows)).handlers = _
    rw [frame]

theorem timerPhase_refused [Controller C] (still : config.tickRate = 0) (handler : Handler) :
    timerPhase config handler ⟨dispatcher, timer, board⟩ =
      ⟨.error (.refused .invalidArgument),
        ⟨dispatcher, timer, board.passed .timer (.failed .invalidArgument)⟩,
        Phase.timer.failing⟩ := by
  refine during_refused ?_
  rw [if_pos still]
  rfl

theorem processPhase_made (bytes : config.stackBytes ≠ 0) (counts : timer.frequency ≠ 0)
    (heap : Heap) (region : Region) (dispatcher : Dispatcher C) (board : Board) :
    ∃ span, Phase.processes.Completes region config span ∧
      processPhase heap config ⟨dispatcher, timer, board⟩ =
        ⟨.ok ⟨heap, (ProcessTable.create config.stackBytes
            (timer.ticks / timer.frequency)).started⟩,
          ⟨dispatcher, timer, board.passed .processes .completed⟩, span⟩ := by
  refine ⟨_, ⟨bytes, [], List.forall_mem_nil _, rfl⟩, during_completes ?_⟩
  have now : (timer.seconds : Answer KernelRefusal Nat) = .ok (timer.ticks / timer.frequency) :=
    Checked.div_eq_ok counts
  rw [if_neg bytes, Action.bind_quiet (Action.get_apply _)]
  show (Action.ask timer.seconds >>= _) _ = _
  rw [now, Action.bind_quiet (Action.ask_apply _ _)]
  rfl

theorem processPhase_refused (none : config.stackBytes = 0) (heap : Heap) :
    processPhase heap config ⟨dispatcher, timer, board⟩ =
      ⟨.error (.refused .invalidArgument),
        ⟨dispatcher, timer, board.passed .processes (.failed .invalidArgument)⟩,
        Phase.processes.failing⟩ := by
  refine during_refused ?_
  rw [if_pos none]
  rfl

section Controllers

variable [Controller C] [LawfulController C]

/-- **The controller is moved and lets every line through.** -/
theorem controllerPhase_moved (fits : config.windows.acceptable = true) (region : Region)
    (dispatcher : Dispatcher C) (timer : Timer) (board : Board) :
    ∃ controller span, Phase.controller.Completes region config span ∧
      controllerPhase config ⟨dispatcher, timer, board⟩ =
        ⟨.ok (),
          ⟨{ dispatcher with controller, windows := config.windows }, timer,
            board.passed .controller .completed⟩,
          span⟩ ∧
      Controller.Moved controller ∧ Controller.Shows controller 0 := by
  obtain ⟨middle, last, moves, masks, remaps, sets, moved, shown, quiet, quiet'⟩ :=
    LawfulController.moved dispatcher.controller fits 0
  have cleared : (Dispatcher.onController (Controller.setMask 0) :
      Action (Dispatcher C) DispatchRefusal Unit)
        { dispatcher with controller := middle, windows := config.windows } =
          ⟨.ok (), { dispatcher with controller := last, windows := config.windows }, masks⟩ := by
    unfold Dispatcher.onController
    rw [Action.within_apply, sets]
  refine ⟨last, _, ⟨Phase.provided_controller_iff.mpr fits, _, ?_, rfl⟩, during_completes <|
    Action.bind_steps (onDispatcher_ok (Dispatcher.remap_accepted fits remaps)) <|
    onDispatcher_ok cleared, moved, shown⟩
  intro effect member
  rcases List.mem_append.mp member with front | last
  · rcases List.mem_append.mp front with line | told
    · exact Or.inr (quiet effect line)
    · cases List.mem_singleton.mp told
      exact Or.inl True.intro
  · exact Or.inr (quiet' effect last)

/-- **The timer counts at its new rate, and its handler is on the vector line 0 arrives on.** -/
theorem timerPhase_set {cpu : Processor} {windows : Windows}
    (loaded : dispatcher.Loaded cpu stubs windows) (fits : windows.acceptable = true)
    (counts : config.tickRate ≠ 0) (handler : Handler) (region : Region) (timer : Timer)
    (board : Board) :
    ∃ after span, Phase.timer.Completes region config span ∧
      timerPhase config handler ⟨dispatcher, timer, board⟩ =
        ⟨.ok (),
          ⟨after, timer.withFrequency config.tickRate, board.passed .timer .completed⟩, span⟩ ∧
      after.Loaded cpu stubs windows ∧ after.handler? (windows.place 0) = some handler := by
  have known : (0 : UInt8).toNat < lineCount := by decide
  obtain ⟨last, effects, opens, moved, shown, quiet⟩ :=
    LawfulController.opened loaded.shows loaded.moved known
  have clear : clearBit 0 (Controller.lineBit 0) = 0 := by decide
  rw [clear] at shown
  have there : (Controller.enableLine 0 : Action C DispatchRefusal Unit)
      (dispatcher.withHandler (windows.place 0) (some handler)).controller =
        ⟨.ok (), last, effects⟩ := opens
  have enables := (Dispatcher.onLine_apply there).trans (if_pos known)
  have placed : dispatcher.windows.acceptable = true := by rwa [loaded.placed]
  have registers := Dispatcher.registerLine_known placed known handler
  rw [loaded.placed] at registers
  refine ⟨_, _, ⟨counts, Divider.writes config.tickRate ++
    ([.report (.timerProgrammed config.tickRate (Divider.reload config.tickRate))] ++
      ([] ++ effects)), ?_, rfl⟩, during_completes ?_,
    loaded.handled moved shown (windows.place 0) (some handler), ?_⟩
  · intro effect member
    rcases List.mem_append.mp member with chip | rest
    · exact Or.inr (Or.inl (Divider.isDivider_of_mem_writes chip))
    · cases rest with
      | head => exact Or.inl True.intro
      | tail _ line => exact Or.inr (Or.inr (quiet effect line))
  · rw [if_neg counts, Action.bind_quiet (Action.modify_apply _ _)]
    exact Action.bind_steps (Divider.program_apply _ _) <|
      Action.bind_steps (Action.report_apply _ _) <|
      Action.bind_steps (onDispatcher_ok registers) <| onDispatcher_ok enables
  · exact (Dispatcher.handler?_withHandler dispatcher ..).trans (if_pos rfl)

end Controllers

end Startup

/-! ### Every run -/

namespace Startup

variable {C : Type} [Controller C] {region : Region} {stubs : Stubs} {config : Config}
  {handler : Handler} {before : Startup C}

/-- **All that can come of a run of the phases**: it ends with the first phase that lacks what it
needs, or comes up. -/
inductive Course (region : Region) (stubs : Stubs) (config : Config) (handler : Handler)
    (before : Startup C) : Outcome (Startup C) KernelRefusal Core → Prop
  | noHeap (lacking : ¬Phase.heap.Provided region config) :
    Course region stubs config handler before
      ⟨.error (.refused .invalidArgument),
        ⟨before.dispatcher, before.timer,
          before.board.passed .heap (.failed .invalidArgument)⟩,
        Phase.heap.failing⟩
  | noOffsets {heap : List Effect} (made : Phase.heap.Completes region config heap)
    (lacking : ¬Phase.controller.Provided region config) :
    Course region stubs config handler before
      ⟨.error (.refused .invalidArgument),
        ⟨before.dispatcher, before.timer,
          (before.board.through [.heap]).passed .controller (.failed .invalidArgument)⟩,
        heap ++ Phase.controller.failing⟩
  | noRate {heap controller table : List Effect} {dispatcher : Dispatcher C}
    (made : Phase.heap.Completes region config heap)
    (moved : Phase.controller.Completes region config controller)
    (bound : Phase.table.Completes region config table)
    (loaded : dispatcher.Loaded before.dispatcher.cpu stubs config.windows)
    (handlers : dispatcher.handlers = before.dispatcher.handlers)
    (lacking : ¬Phase.timer.Provided region config) :
    Course region stubs config handler before
      ⟨.error (.refused .invalidArgument),
        ⟨dispatcher, before.timer,
          (before.board.through [.heap, .controller, .table]).passed .timer
            (.failed .invalidArgument)⟩,
        heap ++ (controller ++ (table ++ Phase.timer.failing))⟩
  | noStack {heap controller table timer : List Effect} {dispatcher : Dispatcher C}
    (made : Phase.heap.Completes region config heap)
    (moved : Phase.controller.Completes region config controller)
    (bound : Phase.table.Completes region config table)
    (loaded : dispatcher.Loaded before.dispatcher.cpu stubs config.windows)
    (counts : Phase.timer.Completes region config timer)
    (lacking : ¬Phase.processes.Provided region config) :
    Course region stubs config handler before
      ⟨.error (.refused .invalidArgument),
        ⟨dispatcher, before.timer.withFrequency config.tickRate,
          (before.board.through [.heap, .controller, .table, .timer]).passed .processes
            (.failed .invalidArgument)⟩,
        heap ++ (controller ++ (table ++ (timer ++ Phase.processes.failing)))⟩
  | up {heap controller table timer processes : List Effect} {dispatcher : Dispatcher C}
    {arena : Arena} (now : Nat) (inside : Arena.ofRegion? region = some arena)
    (made : Phase.heap.Completes region config heap)
    (moved : Phase.controller.Completes region config controller)
    (bound : Phase.table.Completes region config table)
    (loaded : dispatcher.Loaded before.dispatcher.cpu stubs config.windows)
    (counts : Phase.timer.Completes region config timer)
    (handles : dispatcher.handler? (config.windows.place 0) = some handler)
    (enlists : Phase.processes.Completes region config processes) :
    Course region stubs config handler before
      ⟨.ok ⟨Heap.ofArena arena, (ProcessTable.create config.stackBytes now).started⟩,
        ⟨dispatcher, before.timer.withFrequency config.tickRate,
          before.board.through [.heap, .controller, .table, .timer, .processes]⟩,
        heap ++ (controller ++ (table ++ (timer ++ processes)))⟩

/-- **Every run of the phases goes one of these ways**, from a table that is not in use. -/
theorem run_course [LawfulController C] (idle : before.dispatcher.stage ≠ .live) (region : Region)
    (stubs : Stubs) (config : Config) (handler : Handler) :
    Course region stubs config handler before (run region stubs config handler before) := by
  obtain ⟨dispatcher, timer, board⟩ := before
  cases made : Arena.ofRegion? region with
  | none =>
    have lacking : ¬Phase.heap.Provided region config := by
      rw [Phase.provided_heap_iff, made]
      exact nofun
    have ran : run region stubs config handler ⟨dispatcher, timer, board⟩ = _ :=
      Action.bind_apply_error (heapPhase_refused made)
    rw [ran]
    exact .noHeap lacking
  | some arena =>
    obtain ⟨heap, heaped, heap_run⟩ := heapPhase_made made config dispatcher timer board
    by_cases unfit : config.windows.acceptable = false
    · have ran : run region stubs config handler ⟨dispatcher, timer, board⟩ = _ :=
        Action.bind_steps heap_run <| Action.bind_apply_error (controllerPhase_refused unfit)
      rw [ran]
      refine .noOffsets heaped fun suits => ?_
      rw [Phase.provided_controller_iff.mp suits] at unfit
      cases unfit
    have fits : config.windows.acceptable = true := Bool.eq_true_of_not_eq_false unfit
    obtain ⟨driven, lines, moves, move_run, moved, shown⟩ :=
      controllerPhase_moved fits region dispatcher timer (board.through [.heap])
    obtain ⟨bound, gates, binds, table_run, loaded, handlers⟩ :=
      tablePhase_loaded { dispatcher with controller := driven, windows := config.windows } fits idle
        moved shown stubs region config timer (board.through [.heap, .controller])
    by_cases still : config.tickRate = 0
    · have ran : run region stubs config handler ⟨dispatcher, timer, board⟩ = _ :=
        Action.bind_steps heap_run <| Action.bind_steps move_run <| Action.bind_steps table_run <|
          Action.bind_apply_error (timerPhase_refused still handler)
      rw [ran]
      exact .noRate heaped moves binds loaded handlers (absurd still)
    obtain ⟨set, ticks, counts, timer_run, loaded, handles⟩ := timerPhase_set loaded fits still
      handler region timer (board.through [.heap, .controller, .table])
    by_cases none : config.stackBytes = 0
    · have ran : run region stubs config handler ⟨dispatcher, timer, board⟩ = _ :=
        Action.bind_steps heap_run <| Action.bind_steps move_run <| Action.bind_steps table_run <|
          Action.bind_steps timer_run <| processPhase_refused none (Heap.ofArena arena)
      rw [ran]
      exact .noStack heaped moves binds loaded counts (absurd none)
    have rate : (timer.withFrequency config.tickRate).frequency ≠ 0 :=
      Nat.ne_of_gt (lt_of_lt_of_le Nat.zero_lt_one (le_max_right _ _))
    obtain ⟨last, enlists, process_run⟩ := processPhase_made none rate (Heap.ofArena arena) region
      set (board.through [.heap, .controller, .table, .timer])
    have ran : run region stubs config handler ⟨dispatcher, timer, board⟩ = _ :=
      Action.bind_steps heap_run <| Action.bind_steps move_run <| Action.bind_steps table_run <|
        Action.bind_steps timer_run process_run
    rw [ran]
    exact .up _ made heaped moves binds loaded counts handles enlists

end Startup

end MiniKernel
