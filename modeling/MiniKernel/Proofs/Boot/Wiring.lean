/-
**A machine that came up is fully wired.**

* `Board.get?_through`, `Board.isUp_through` — a board on which every listed phase was completed is
  up.
* `Startup.goLive_loaded` — the last phase of a boot with its table loaded: the dispatcher first,
  and then the interrupt flag.
* `Startup.Wired` — the board, the processor, the gates, the controller and the timer as a boot is
  to leave them, and where the first interrupt of line 0 goes.
* `Startup.boot_wired` — **what a boot that succeeds leaves**, over any lawful controller.
-/

import MiniKernel.Proofs.Boot.Record

namespace MiniKernel

/-! ### Boards that are up -/

namespace Board

variable {board : Board} {name : String} {phases : List Phase} {phase : Phase}

theorem names_update (board : Board) (name : String) (progress : Progress) :
    (board.update name progress).components.map Component.name =
      board.components.map Component.name := by
  obtain ⟨components⟩ := board
  show (updateFirst name progress components).map Component.name = components.map Component.name
  induction components with
  | nil => rfl
  | cons component rest ih =>
    rw [updateFirst]
    split
    · rfl
    · rw [List.map_cons, List.map_cons, ih]

/-- What becomes of phases does not change what is listed. -/
theorem names_through (board : Board) (phases : List Phase) :
    (board.through phases).components.map Component.name =
      board.components.map Component.name := by
  induction phases generalizing board with
  | nil => rfl
  | cons phase rest ih =>
    refine (ih (board.passed phase .completed)).trans ?_
    rw [passed, names_update, names_update]

theorem exists_get?_of_mem (listed : name ∈ board.components.map Component.name) :
    ∃ progress, board.get? name = some progress := by
  obtain ⟨component, member, rfl⟩ := List.mem_map.mp listed
  have found : (board.components.find? (·.name == component.name)).isSome :=
    List.find?_isSome.mpr ⟨component, member, beq_self_eq_true _⟩
  obtain ⟨first, here⟩ := Option.isSome_iff_exists.mp found
  exact ⟨first.progress, congrArg (Option.map Component.progress) here⟩

/-- With every name listed once, what is told of a name is told of its component. -/
theorem get?_of_mem (once : (board.components.map Component.name).Nodup) {component : Component}
    (member : component ∈ board.components) :
    board.get? component.name = some component.progress := by
  obtain ⟨components⟩ := board
  unfold get?
  dsimp only at once member ⊢
  induction components with
  | nil => cases member
  | cons first rest ih =>
    rw [List.map_cons, List.nodup_cons] at once
    rw [List.find?_cons]
    cases member with
    | head => rw [beq_self_eq_true]; rfl
    | tail _ later =>
      have differ : first.name ≠ component.name := fun same =>
        once.1 (List.mem_map.mpr ⟨component, later, same.symm⟩)
      rw [beq_eq_false_iff_ne.mpr differ]
      exact ih once.2 later

/-- A completed phase stays so. -/
theorem get?_through_of_completed (done : board.get? phase.name = some .completed)
    (phases : List Phase) : (board.through phases).get? phase.name = some .completed := by
  induction phases generalizing board with
  | nil => exact done
  | cons first rest ih =>
    show ((board.passed first .completed).through rest).get? phase.name = _
    refine ih ?_
    rw [get?_passed, done]
    split <;> rfl

/-- **A listed phase is completed by a run through it.** -/
theorem get?_through (listed : phase.name ∈ board.components.map Component.name)
    (member : phase ∈ phases) : (board.through phases).get? phase.name = some .completed := by
  induction member generalizing board with
  | head rest =>
    refine get?_through_of_completed ?_ rest
    obtain ⟨progress, found⟩ := exists_get?_of_mem listed
    rw [get?_passed, if_pos rfl, found]
    rfl
  | tail first _ ih =>
    show ((board.passed first .completed).through _).get? phase.name = _
    refine ih ?_
    rw [passed, names_update, names_update]
    exact listed

/-- **A board that lists each phase once, and nothing else, is up once they are completed.** -/
theorem isUp_through
    (listed : (board.components.map Component.name).Perm (Phase.all.map Phase.name)) :
    (board.through Phase.all).isUp = true := by
  have names := names_through board Phase.all
  have once : (board.components.map Component.name).Nodup :=
    listed.nodup_iff.mpr (by decide)
  unfold isUp
  rw [Bool.and_eq_true, Bool.not_eq_true', List.isEmpty_eq_false_iff, List.all_eq_true]
  constructor
  · intro empty
    rw [empty] at names
    rw [← names] at listed
    exact absurd listed.length_eq (by decide)
  · intro component member
    have told := get?_of_mem (by rwa [names]) member
    have among : component.name ∈ Phase.all.map Phase.name := by
      rw [← listed.mem_iff, ← names]
      exact List.mem_map_of_mem member
    obtain ⟨phase, inside, same⟩ := List.mem_map.mp among
    rw [← same, get?_through (listed.mem_iff.mpr (List.mem_map_of_mem inside)) inside,
      Option.some_inj] at told
    rw [Component.isUp, ← told]
    rfl

end Board

/-! ### The last phase -/

namespace Startup

variable {C : Type} {dispatcher : Dispatcher C} {timer : Timer} {board : Board}

/-- **The dispatcher lets interrupts in before the flag is set.** -/
theorem goLive_loaded (loaded : dispatcher.stage = .loaded) (timer : Timer) (board : Board) :
    goLive ⟨dispatcher, timer, board⟩ =
      ⟨.ok (),
        ⟨{ dispatcher with stage := .live, cpu := dispatcher.cpu.written true }, timer,
          board.passed .interrupts .completed⟩,
        Phase.interrupts.completing ([.report .interruptsOn] ++ [.interruptFlag true])⟩ :=
  during_completes <| Action.bind_steps (onDispatcher_ok (Dispatcher.arm_loaded loaded)) <|
    onDispatcher_ok rfl

/-- **Everything a boot wires.** -/
structure Wired [Controller C] (stubs : Stubs) (config : Config) (handler : Handler)
    (up : Startup C) : Prop where
  phases (phase : Phase) : up.board.get? phase.name = some .completed
  ready : up.board.isUp = true
  live : up.dispatcher.stage = .live
  flag : up.dispatcher.cpu.flag = true
  /-- The processor was pointed at a table of 256 gates. -/
  table : ∃ pointer, up.dispatcher.cpu.table = some pointer ∧ pointer.first = 0 ∧
    pointer.limit.toNat + 1 = 256 * gateBytes
  offsets : up.dispatcher.windows = config.windows
  exceptions (vector : Fin 32) : up.dispatcher.table.gate (UInt8.ofNat vector) =
    ⟨stubs.exceptions.get vector, kernelSelector, kernelGate⟩
  lines (irq : Fin 16) : ∃ vector,
    (config.windows.vector (UInt8.ofNat irq) : Answer DispatchRefusal UInt8) = .ok vector ∧
    up.dispatcher.table.gate vector = ⟨stubs.lines.get irq, kernelSelector, kernelGate⟩
  systemCall (address : UInt32) (given : stubs.systemCall = some address) :
    up.dispatcher.table.gate 0x80 = ⟨address, kernelSelector, 0xEF⟩
  unmasked : ((Controller.mask : Action C DispatchRefusal UInt16) up.dispatcher.controller).result =
    .ok 0
  rate : up.timer.frequency = config.tickRate
  /-- An interrupt on line 0 is acknowledged and goes to the handler. -/
  ticks (frame : Frame) {vector : UInt8}
    (placed : (config.windows.vector 0 : Answer DispatchRefusal UInt8) = .ok vector)
    (arrives : frame.vector? = some vector) : ∃ controller effects,
      (Controller.acknowledge 0 : Action C DispatchRefusal Unit) up.dispatcher.controller =
        ⟨.ok (), controller, effects⟩ ∧
      Dispatcher.route frame up.dispatcher =
        ⟨.ok (.invoke handler), { up.dispatcher with controller }, effects⟩

variable [Controller C] [LawfulController C] {stubs : Stubs} {config : Config} {handler : Handler}
  {cpu : Processor}

/-- **A dispatcher with its table loaded and the handler on line 0 is wired once it is live.** -/
theorem wired_live
    (listed : (board.components.map Component.name).Perm (Phase.all.map Phase.name))
    (fits : config.windows.acceptable = true)
    (loaded : dispatcher.Loaded cpu stubs config.windows)
    (handles : dispatcher.handler? (config.windows.place 0) = some handler)
    (rate : timer.frequency = config.tickRate) :
    Wired stubs config handler
      ⟨{ dispatcher with stage := .live, cpu := dispatcher.cpu.written true }, timer,
        board.through Phase.all⟩ where
  phases phase := Board.get?_through
    (listed.mem_iff.mpr (List.mem_map_of_mem (Phase.mem_all phase))) (Phase.mem_all phase)
  ready := Board.isUp_through listed
  live := rfl
  flag := rfl
  table := by
    refine ⟨GateTable.pointer, ?_, rfl, by decide⟩
    show dispatcher.cpu.table = _
    rw [loaded.pointed]
  offsets := loaded.placed
  exceptions := loaded.bound.exceptions
  lines irq := by
    refine ⟨_, Windows.vector_eq_ok fits (Dispatcher.known_ofNat irq.isLt), ?_⟩
    rw [← loaded.placed]
    exact loaded.bound.lines irq
  systemCall := loaded.bound.systemCall
  unmasked := loaded.shows
  rate := rate
  ticks frame vector placed arrives := by
    have known : (0 : UInt8).toNat < lineCount := by decide
    rw [Windows.vector_eq_ok fits known] at placed
    cases placed
    obtain ⟨after, effects, acknowledges, _⟩ := LawfulController.acknowledged loaded.moved known
    rw [← loaded.placed] at fits handles arrives
    refine ⟨after, effects, acknowledges, ?_⟩
    have routed := Dispatcher.route_line
      (show ({ dispatcher with stage := .live, cpu := dispatcher.cpu.written true } :
        Dispatcher C).windows.acceptable = true from fits) known arrives acknowledges
    rw [routed]
    show (⟨.ok ((dispatcher.handler? (dispatcher.windows.place 0)).elim .ignore .invoke), _, _⟩ :
      Outcome (Dispatcher C) DispatchRefusal Route) = _
    rw [handles]
    rfl

variable {startup : Startup C} {region : Region} {core : Core}

/-- A fresh process table has the kernel's own process and no other. -/
theorem live_create (stackBytes now : Nat) :
    (ProcessTable.create stackBytes now).started.live.map ProcessEntry.pid = [0] := rfl

/-- A fresh heap is one free block. -/
theorem chain_ofArena (arena : Arena) : ∃ block,
    (Heap.ofArena arena).arena.chain = ⟨[block], none⟩ ∧ block.isFree = true ∧ block.offset = 0 ∧
      block.stop = (Heap.ofArena arena).total := by
  have large : 32 ≤ arena.size := arena.size_ge
  refine ⟨arena.whole, (Heap.regular_whole arena).tiled.chain_eq, rfl, rfl, ?_⟩
  show _ = (arena.setHeader 0 _).size
  rw [Arena.size_setHeader, Block.stop_eq]
  show 0 + 16 + (arena.size - 16) = arena.size
  omega

/-- **A boot that succeeds is fully wired.** The last phase succeeds too: the dispatcher lets
interrupts in, with the interrupt flag as it was found, and only then is the flag set. What is left
is up in every respect (`Wired`), selection is on with the kernel's own process alone, and the heap
is one free block. -/
theorem boot_wired (idle : startup.dispatcher.stage ≠ .live)
    (listed : (startup.board.components.map Component.name).Perm (Phase.all.map Phase.name))
    (answers : (run region stubs config handler startup).result = .ok core) :
    (∃ armed,
      (∀ enabled, .interruptFlag enabled ∉ (run region stubs config handler startup).effects) ∧
      Dispatcher.arm (run region stubs config handler startup).state.dispatcher =
        ⟨.ok (), armed, [.report .interruptsOn]⟩ ∧
      armed.stage = .live ∧ armed.cpu.flag = startup.dispatcher.cpu.flag) ∧
    (∃ up,
      goLive (run region stubs config handler startup).state =
        ⟨.ok (), up,
          Phase.interrupts.completing ([.report .interruptsOn] ++ [.interruptFlag true])⟩ ∧
      up.Wired stubs config handler) ∧
    (core.processes.enabled = true ∧ core.processes.live.map ProcessEntry.pid = [0]) ∧
    ∃ block, core.heap.arena.chain = ⟨[block], none⟩ ∧ block.isFree = true ∧ block.offset = 0 ∧
      block.stop = core.heap.total := by
  have course := run_course idle region stubs config handler
  have unflagged := course.unflagged
  have kept := course.flag_kept.1
  generalize run region stubs config handler startup = outcome at answers course unflagged kept
  cases course with
  | noHeap | noOffsets | noRate | noStack => cases answers
  | up now inside made moved bound loaded counts handles enlists =>
    cases answers
    have fits := Phase.provided_controller_iff.mp moved.1
    have rate : (startup.timer.withFrequency config.tickRate).frequency = config.tickRate :=
      max_eq_left (Nat.one_le_iff_ne_zero.mpr counts.1)
    exact ⟨⟨_, unflagged, Dispatcher.arm_loaded loaded.stage, rfl, kept⟩,
      ⟨_, goLive_loaded loaded.stage _ _, wired_live listed fits loaded handles rate⟩,
      ⟨rfl, live_create _ _⟩, chain_ofArena _⟩

/-- A boot with the lines at 0x30 and 0x38. -/
def shiftedConfig : Config := { windows := ⟨0x30, 0x38⟩ }

/-- With the lines moved the last one has its stub on vector 0x3F, and an interrupt on vector 0x30
goes to the tick. -/
theorem boot_wired_shifted :
    (listedStartup.dispatcher.stage ≠ .live ∧
      (listedStartup.board.components.map Component.name).Perm (Phase.all.map Phase.name) ∧
      ∃ core, (run Heap.smallRegion sampleStubs shiftedConfig .tick listedStartup).result =
        .ok core) ∧
    ∃ up controller effects,
      (goLive (run Heap.smallRegion sampleStubs shiftedConfig .tick listedStartup).state).state =
        up ∧
      up.dispatcher.table.gate 0x3F = ⟨0x2000, kernelSelector, kernelGate⟩ ∧
      Dispatcher.route { number := 0x30 } up.dispatcher =
        ⟨.ok (.invoke .tick), { up.dispatcher with controller }, effects⟩ := by
  have idle : listedStartup.dispatcher.stage ≠ .live := nofun
  have listed : (listedStartup.board.components.map Component.name).Perm
      (Phase.all.map Phase.name) := List.Perm.refl _
  have course := run_course idle Heap.smallRegion sampleStubs shiftedConfig .tick
  obtain ⟨core, answers⟩ := course.answers_iff.mpr fun phase => by
    cases phase with
    | heap => exact ⟨0, by decide, by decide, by decide⟩
    | controller => exact Phase.provided_controller_iff.mpr (by decide)
    | timer => exact (by decide : shiftedConfig.tickRate ≠ 0)
    | processes => exact (by decide : shiftedConfig.stackBytes ≠ 0)
    | table | interrupts => exact True.intro
  obtain ⟨-, ⟨up, lives, wired⟩, -⟩ := boot_wired idle listed answers
  have zero : (shiftedConfig.windows.vector 0 : Answer DispatchRefusal UInt8) = .ok 0x30 := rfl
  obtain ⟨controller, effects, _, routed⟩ := wired.ticks { number := 0x30 } zero rfl
  obtain ⟨vector, placed, bound⟩ := wired.lines 15
  cases placed
  exact ⟨⟨idle, listed, core, answers⟩, up, controller, effects, by rw [lives], bound, routed⟩

end Startup

end MiniKernel
