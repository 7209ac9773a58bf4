/-
**The timer tells time at the rate its chip ticks at, if the chip can tick at that rate.**

A boot is given one frequency. The chip gets a reload value for it, which has 16 bits; the timer
keeps the frequency itself and turns ticks into time with it.

* `Divider.Divides` — a reload value is the divisor of the input clock for a frequency;
  `Divider.divides_reload_iff` — the reload value for a frequency is, from 19 Hz to the input
  clock's own frequency and nowhere else.
* `Timer.TellsAt` — the frequency a timer tells time at.
* `Untimed` — the timer chip was left alone; `Startup.run_programs` — a boot that succeeds leaves it
  alone but for the three writes that program it.
* `Startup.rate_agrees` — **what a boot sets chip and timer to**, and when the two agree;
  `Startup.rate_departs` — one frequency at which they do not.
-/

import MiniKernel.Proofs.Boot.Wiring
import MiniKernel.Proofs.Effects

namespace MiniKernel

open MiniKernel.Action

/-! ### Reload values -/

namespace Divider

variable {value frequency : Nat}

/-- **The reload value is the divisor of the input clock for a frequency**: with that many input
cycles to a tick there are no fewer ticks a second than the frequency says, and with one cycle more
there would be. -/
def Divides (value frequency : Nat) : Prop :=
  value * frequency ≤ inputFrequency ∧ inputFrequency < (value + 1) * frequency

instance (value frequency : Nat) : Decidable (Divides value frequency) :=
  inferInstanceAs (Decidable (_ ∧ _))

theorem divides_iff : Divides value frequency ↔
    frequency ≠ 0 ∧ inputFrequency / frequency = value := by
  by_cases still : frequency = 0
  · subst still
    exact iff_of_false (fun divides => Nat.not_lt_zero _ divides.2) fun counts => counts.1 rfl
  · rw [Nat.div_eq_iff (Nat.pos_of_ne_zero still), Divides]
    have next : (value + 1) * frequency = value * frequency + frequency := Nat.succ_mul _ _
    omega

/-- **The reload value for a frequency is its divisor**, as far as 16 bits hold that and it is not
zero. -/
theorem divides_reload_iff :
    Divides (reload frequency) frequency ↔ 19 ≤ frequency ∧ frequency ≤ inputFrequency := by
  rw [divides_iff]
  by_cases still : frequency = 0
  · subst still
    exact iff_of_false (fun counts => counts.1 rfl) fun range => by omega
  have positive : 0 < frequency := Nat.pos_of_ne_zero still
  have some_cycle : 1 ≤ inputFrequency / frequency ↔ frequency ≤ inputFrequency := by
    rw [Nat.le_div_iff_mul_le positive, Nat.one_mul]
  have fits : inputFrequency / frequency < 65536 ↔ inputFrequency < 65536 * frequency :=
    Nat.div_lt_iff_lt_mul positive
  have slowest : inputFrequency < 65536 * frequency ↔ 19 ≤ frequency := by
    unfold inputFrequency
    omega
  -- The clamp leaves the quotient alone just where it is neither zero nor above 16 bits.
  rw [reload, Nat.max_eq_left (Nat.one_le_iff_ne_zero.mpr still)]
  omega

/-- **Slower than that the counter holds too few cycles**, and the chip ticks faster than asked. -/
theorem reload_slow (slow : frequency < 19) : reload frequency = 65535 := by
  have every : max frequency 1 ≤ 18 := by omega
  have cycles : 65535 ≤ inputFrequency / max frequency 1 := by
    rw [Nat.le_div_iff_mul_le (by omega)]
    unfold inputFrequency
    omega
  rw [reload]
  omega

/-- **Faster than that a tick would be less than a cycle**, and the chip ticks slower than asked. -/
theorem reload_fast (fast : inputFrequency < frequency) : reload frequency = 1 := by
  have none_left : inputFrequency / max frequency 1 = 0 := Nat.div_eq_of_lt (by omega)
  rw [reload, none_left]
  rfl

/-- The two bytes of a reload value. -/
theorem toNat_bytes (frequency : Nat) :
    (UInt8.ofNat (reload frequency)).toNat + 256 * (UInt8.ofNat (reload frequency / 256)).toNat =
      reload frequency := by
  have fits := reload_lt frequency
  simp only [UInt8.toNat_ofNat']
  omega

end Divider

/-! ### Telling time -/

/-- **The timer tells time at a frequency**, whatever its count: whole seconds and milliseconds, and
the ticks in some milliseconds. -/
structure Timer.TellsAt (timer : Timer) (frequency : Nat) : Prop where
  seconds (ticks : Nat) :
    ({ timer with ticks }.seconds : Answer Empty Nat) = .ok (ticks / frequency)
  uptime (ticks : Nat) (fits : ticks * 1000 < longLimit) :
    ({ timer with ticks }.uptime : Answer Empty Nat) = .ok (ticks * 1000 / frequency)
  ticksFor (milliseconds : Nat) (fits : milliseconds * frequency < longLimit) :
    (timer.ticksFor milliseconds : Answer Empty Nat) = .ok (milliseconds * frequency / 1000)

theorem Timer.tellsAt (timer : Timer) (counts : timer.frequency ≠ 0) :
    timer.TellsAt timer.frequency where
  seconds _ := Checked.div_eq_ok counts
  uptime ticks fits := by
    rw [Timer.uptime, Checked.mul_eq_ok fits]
    exact Checked.div_eq_ok counts
  ticksFor milliseconds fits := by
    rw [Timer.ticksFor, Checked.mul_eq_ok fits]
    rfl

/-! ### The writes to the timer chip -/

instance : DecidablePred Effect.IsDivider
  | .portWrite port _ =>
    inferInstanceAs (Decidable (port = Divider.commandPort ∨ port = Divider.channelPort))
  | .portRead _ | .tableLoad _ | .interruptFlag _ | .gateWrite _ | .lineRequest _
  | .handlerRun _ _ | .report _ => inferInstanceAs (Decidable False)

/-- **The writes to the timer chip**, in order. -/
def chipWrites (effects : List Effect) : List Effect := effects.filter (Effect.IsDivider ·)

theorem chipWrites_append (first rest : List Effect) :
    chipWrites (first ++ rest) = chipWrites first ++ chipWrites rest :=
  List.filter_append ..

theorem chipWrites_writes (frequency : Nat) :
    chipWrites (Divider.writes frequency) = Divider.writes frequency :=
  List.filter_eq_self.mpr fun _ member => decide_eq_true (Divider.isDivider_of_mem_writes member)

/-- **The timer chip was left alone.** -/
def Untimed (effects : List Effect) : Prop := chipWrites effects = []

/-- What leaves the timer chip alone leaves no write to it. -/
theorem chipWrites_of_leaves {σ ε α : Type} {action : Action σ ε α} (leaves : Leaves Untimed action)
    (state : σ) : chipWrites (action state).effects = [] :=
  leaves state

instance : Sequential Untimed where
  nil := rfl
  append first rest := by
    unfold Untimed at *
    rw [chipWrites_append, first, rest, List.append_nil]

theorem untimed_singleton {effect : Effect} (other : ¬effect.IsDivider) : Untimed [effect] := by
  unfold Untimed chipWrites
  rw [List.filter_singleton, decide_eq_false other]
  rfl

/-- The two chips of the interrupt lines have ports of their own. -/
theorem LineTraffic.untimed {effects : List Effect} (traffic : LineTraffic effects) :
    Untimed effects := by
  refine List.filter_eq_nil_iff.mpr fun effect member => ?_
  have line := traffic effect member
  cases effect with
  | portWrite port value =>
    intro divider
    rcases of_decide_eq_true divider with rfl | rfl
    · exact absurd line (by decide : Divider.commandPort ∉ chipPorts)
    · exact absurd line (by decide : Divider.channelPort ∉ chipPorts)
  | _ => exact Bool.false_ne_true

/-! ### Each phase -/

namespace Startup

variable {C α : Type} {startup : Startup C} {phase : Phase} {config : Config} {handler : Handler}
  {work : Action (Startup C) KernelRefusal α} {value : α}

/-- A phase leaves what its work leaves, and reports. -/
theorem during_leaves {allowed : List Effect → Prop} [Sequential allowed]
    (reports : ∀ notice, allowed [.report notice]) (phase : Phase) (leaves : Leaves allowed work) :
    Leaves allowed (during phase work) := by
  refine (leaves_modify _).bind fun _ => (leaves_emit (reports _)).bind fun _ => ?_
  refine leaves.attempt.bind fun answer => ?_
  cases answer with
  | ok value =>
    exact (leaves_modify _).bind fun _ => (leaves_emit (reports _)).bind fun _ => leaves_pure _
  | error cause =>
    exact (leaves_modify _).bind fun _ => (leaves_emit (reports _)).bind fun _ => leaves_ask _

/-- **What a phase leaves that is completed.** -/
theorem during_effects (done : (work (startup.begun phase)).result = .ok value) :
    (during phase work startup).effects =
      phase.completing (work (startup.begun phase)).effects := by
  have marks : (mark phase .inProgress : Action (Startup C) KernelRefusal PUnit) startup =
      ⟨.ok ⟨⟩, startup.begun phase, []⟩ := rfl
  cases ends : work (startup.begun phase) with
  | mk result after effects =>
    rw [ends] at done
    cases done
    unfold during Phase.carryOut
    rw [bind_quiet marks, bind_apply_ok (report_apply _ _), bind_apply_ok (attempt_ok ends)]
    rfl

theorem untimed_report (notice : Notice) : Untimed [.report notice] := untimed_singleton nofun

theorem chipWrites_completing (phase : Phase) (effects : List Effect) :
    chipWrites (phase.completing effects) = chipWrites effects := by
  have start : Untimed [phase.opening] := untimed_report _
  have stop : Untimed [.report (.phaseDone phase.name)] := untimed_report _
  have split : phase.completing effects =
      [phase.opening] ++ (effects ++ [.report (.phaseDone phase.name)]) := rfl
  rw [split, chipWrites_append, chipWrites_append, start, stop, List.nil_append, List.append_nil]

/-- A first part that leaves the chip alone adds nothing to its writes. -/
theorem chipWrites_bind {σ ε β : Type} {first : Action σ ε α} {next : α → Action σ ε β}
    {state : σ} {value : α} (leaves : Leaves Untimed first)
    (answers : (first state).result = .ok value) :
    chipWrites ((first >>= next) state).effects =
      chipWrites (next value (first state).state).effects := by
  rw [bind_apply, answers, chipWrites_append, chipWrites_of_leaves leaves, List.nil_append]

theorem untimed_onDispatcher {action : Action (Dispatcher C) DispatchRefusal α}
    (leaves : Leaves Untimed action) : Leaves Untimed (onDispatcher action) :=
  leaves.within.relabel _

theorem heapPhase_untimed (region : Region) :
    Leaves Untimed (heapPhase region : Action (Startup C) KernelRefusal Heap) := by
  refine during_leaves untimed_report .heap (Leaves.relabel ?_ _)
  unfold Heap.create
  split
  · exact leaves_ask _
  · exact (leaves_emit (untimed_report _)).bind fun _ => leaves_pure _

theorem writeGate_untimed (vector : UInt8) (gate : Gate) :
    Leaves Untimed (Dispatcher.writeGate vector gate :
      Action (Dispatcher C) DispatchRefusal Unit) := by
  have gate_write : Untimed [.gateWrite vector] := untimed_singleton nofun
  exact (leaves_emit gate_write).bind fun _ => leaves_modify _

theorem bindGate_untimed (vector : UInt8) (gate : Gate) :
    Leaves Untimed (Dispatcher.bindGate vector gate : Action (Dispatcher C) DispatchRefusal Unit) :=
  leaves_get.bind fun _ => (leaves_ask _).ite (writeGate_untimed vector gate)

theorem bindStubs_untimed (stubs : Stubs) :
    Leaves Untimed (Dispatcher.bindStubs stubs : Action (Dispatcher C) DispatchRefusal Unit) := by
  refine Leaves.bind ?_ fun _ => Leaves.bind ?_ fun _ => ?_
  · exact .forM (fun vector => bindGate_untimed _ _) _
  · refine .forM (fun irq => ?_) _
    exact leaves_get.bind fun _ => (leaves_ask _).bind fun _ => bindGate_untimed _ _
  · cases stubs.systemCall with
    | some address => exact bindGate_untimed _ _
    | none => exact leaves_pure _

theorem loadGates_untimed :
    Leaves Untimed (Dispatcher.loadGates : Action (Dispatcher C) DispatchRefusal Unit) := by
  refine leaves_get.bind fun self => (leaves_ask _).ite ?_
  cases self.table.firstUnbound Dispatcher.exceptionRange with
  | some vector => exact leaves_ask _
  | none =>
    refine (leaves_ask _).bind fun lines => ?_
    cases self.table.firstUnbound lines with
    | some vector => exact leaves_ask _
    | none =>
      have load : Untimed [.tableLoad GateTable.pointer] := untimed_singleton nofun
      refine Leaves.bind (Leaves.within ?_) fun _ => (leaves_modify _).bind fun _ => ?_
      · exact (leaves_emit load).bind fun _ => leaves_modify _
      · exact leaves_emit (untimed_report _)

theorem tablePhase_untimed (stubs : Stubs) :
    Leaves Untimed (tablePhase stubs : Action (Startup C) KernelRefusal Unit) :=
  during_leaves untimed_report .table <|
    (untimed_onDispatcher (bindStubs_untimed stubs)).bind fun _ =>
      untimed_onDispatcher loadGates_untimed

theorem processPhase_untimed (heap : Heap) (config : Config) :
    Leaves Untimed (processPhase heap config : Action (Startup C) KernelRefusal Core) :=
  during_leaves untimed_report .processes <| (leaves_ask _).ite <|
    leaves_get.bind fun _ => (leaves_ask _).bind fun _ => leaves_pure _

section Controllers

variable [Controller C] [LawfulController C]

/-- What a lawful controller does on a request is off the timer chip. -/
theorem untimed_of_request {β : Type} {action : Action C DispatchRefusal β}
    {rename : β → Controller.Reply} (request : Controller.Request)
    (performs : request.perform = rename <$> action) (fits : request.Fits) (calm : ¬request.Ends) :
    Leaves Untimed action := by
  intro controller
  have traffic := LawfulController.traffic controller fits fun ends => absurd ends calm
  rw [performs, map_apply] at traffic
  exact traffic.untimed

theorem remap_untimed (master slave : UInt8) :
    Leaves Untimed (Dispatcher.remap master slave :
      Action (Dispatcher C) DispatchRefusal Unit) := by
  unfold Dispatcher.remap
  split
  · rename_i fits
    have moves : Leaves Untimed (Controller.remap master slave : Action C DispatchRefusal Unit) :=
      untimed_of_request (.remap master slave) rfl fits nofun
    exact moves.within.bind fun _ => (leaves_modify _).bind fun _ => leaves_emit (untimed_report _)
  · exact leaves_ask _

theorem controllerPhase_untimed (config : Config) :
    Leaves Untimed (controllerPhase config : Action (Startup C) KernelRefusal Unit) := by
  have opens : Leaves Untimed (Controller.setMask 0 : Action C DispatchRefusal Unit) :=
    untimed_of_request (.setMask 0) rfl True.intro nofun
  exact during_leaves untimed_report .controller <|
    (untimed_onDispatcher (remap_untimed _ _)).bind fun _ => untimed_onDispatcher opens.within

/-- The first line's handler is put in its place, and the line let through. -/
theorem firstLine_untimed (handler : Handler) :
    Leaves Untimed (onDispatcher (Dispatcher.registerLine 0 handler) >>= fun _ =>
      onDispatcher (Dispatcher.enableLine 0) : Action (Startup C) KernelRefusal Unit) := by
  have known : (0 : UInt8).toNat < lineCount := by decide
  have opens : Leaves Untimed (Controller.enableLine 0 : Action C DispatchRefusal Unit) :=
    untimed_of_request (.enableLine 0) rfl known nofun
  have inside : Leaves Untimed (Dispatcher.requireLine 0 :
      Action (Dispatcher C) DispatchRefusal Unit) := (leaves_pure _).ite (leaves_ask _)
  refine (untimed_onDispatcher (inside.bind fun _ => ?_)).bind fun _ =>
    untimed_onDispatcher (inside.bind fun _ => opens.within)
  refine leaves_get.bind fun _ => (leaves_ask _).bind fun _ => ?_
  exact leaves_get.bind fun _ => (leaves_modify _).bind fun _ => leaves_pure _

omit [LawfulController C] in
/-- A timer phase that is completed was given a rate. -/
theorem timerPhase_counts (answers : (timerPhase config handler startup).result = .ok ()) :
    config.tickRate ≠ 0 := by
  intro still
  obtain ⟨done, -⟩ := during_ok answers
  rw [if_pos still] at done
  cases done

/-- **A timer phase that is completed programs the chip**, and leaves it alone otherwise. -/
theorem timerPhase_programs (answers : (timerPhase config handler startup).result = .ok ()) :
    chipWrites (timerPhase config handler startup).effects = Divider.writes config.tickRate := by
  have counts := timerPhase_counts answers
  obtain ⟨done, -⟩ := during_ok answers
  unfold timerPhase
  rw [during_effects done]
  have rest : Leaves Untimed (do
      report (.timerProgrammed config.tickRate (Divider.reload config.tickRate))
      let _ ← onDispatcher (Dispatcher.registerLine 0 handler)
      onDispatcher (Dispatcher.enableLine 0) : Action (Startup C) KernelRefusal Unit) :=
    (leaves_emit (untimed_report _)).bind fun _ => firstLine_untimed handler
  rw [chipWrites_completing, if_neg counts, bind_quiet (modify_apply _ _),
    bind_apply_ok (Divider.program_apply _ _), chipWrites_append, chipWrites_writes,
    chipWrites_of_leaves rest, List.append_nil]

/-- **A boot that succeeds programs the timer chip**, and leaves it alone otherwise. -/
theorem run_programs {region : Region} {stubs : Stubs} {core : Core}
    (answers : (run region stubs config handler startup).result = .ok core) :
    chipWrites (run region stubs config handler startup).effects =
      Divider.writes config.tickRate := by
  unfold run at answers ⊢
  obtain ⟨heap, made, toController, -⟩ := ok_of_bind answers
  obtain ⟨_, moved, toTable, -⟩ := ok_of_bind toController
  obtain ⟨_, loaded, toTimer, -⟩ := ok_of_bind toTable
  obtain ⟨_, set, -, -⟩ := ok_of_bind toTimer
  have quiet : Leaves Untimed (processPhase heap config : Action (Startup C) KernelRefusal Core) :=
    processPhase_untimed heap config
  -- Nothing is put in front of the timer phase's writes, and nothing behind them.
  rw [chipWrites_bind (heapPhase_untimed region) made,
    chipWrites_bind (controllerPhase_untimed config) moved,
    chipWrites_bind (tablePhase_untimed stubs) loaded, bind_apply, set, chipWrites_append,
    timerPhase_programs set, chipWrites_of_leaves quiet, List.append_nil]

end Controllers

/-! ### What a boot sets chip and timer to -/

/-- A boot that succeeds was given a rate, and leaves it to the timer. -/
theorem run_counts [Controller C] {region : Region} {stubs : Stubs} {core : Core}
    (answers : (run region stubs config handler startup).result = .ok core) :
    config.tickRate ≠ 0 ∧
      (run region stubs config handler startup).state.timer.frequency = config.tickRate := by
  obtain ⟨_, -, toController, -⟩ := ok_of_bind answers
  obtain ⟨_, -, toTable, -⟩ := ok_of_bind toController
  obtain ⟨_, -, toTimer, -⟩ := ok_of_bind toTable
  obtain ⟨_, set, -, -⟩ := ok_of_bind toTimer
  have counts := timerPhase_counts set
  refine ⟨counts, ?_⟩
  rw [(run_ok answers).2]
  exact max_eq_left (Nat.one_le_iff_ne_zero.mpr counts)

/-- **What a boot that succeeds sets the timer chip and the timer to.** The chip is written a mode
and the two bytes of one reload value, and nothing else; the timer tells time at the frequency that
was asked for. The reload value is the divisor for that frequency just when it is at least 19 Hz and
at most the input clock's: below that the counter is as full as it gets, and above it divides by
one, while the timer keeps to the frequency it was given. -/
theorem rate_agrees [Controller C] [LawfulController C] {region : Region} {stubs : Stubs}
    {core : Core}
    (answers : (run region stubs config handler startup).result = .ok core) :
    ∃ low high : UInt8,
      chipWrites (run region stubs config handler startup).effects =
        [.portWrite Divider.commandPort Divider.squareWave, .portWrite Divider.channelPort low,
          .portWrite Divider.channelPort high] ∧
      (run region stubs config handler startup).state.timer.TellsAt config.tickRate ∧
      (Divider.Divides (low.toNat + 256 * high.toNat) config.tickRate ↔
        19 ≤ config.tickRate ∧ config.tickRate ≤ Divider.inputFrequency) ∧
      (config.tickRate < 19 → low.toNat + 256 * high.toNat = 65535) ∧
      (Divider.inputFrequency < config.tickRate → low.toNat + 256 * high.toNat = 1) := by
  obtain ⟨counts, rate⟩ := run_counts answers
  have tells : (run region stubs config handler startup).state.timer.TellsAt config.tickRate := by
    have own := Timer.tellsAt (run region stubs config handler startup).state.timer (rate ▸ counts)
    rwa [rate] at own
  refine ⟨_, _, run_programs answers, tells, ?_⟩
  rw [Divider.toNat_bytes]
  exact ⟨Divider.divides_reload_iff, Divider.reload_slow, Divider.reload_fast⟩

/-- A boot with everything as it should be. -/
theorem run_sample (tickRate : Nat) (counts : tickRate ≠ 0) :
    ∃ core, (run Heap.smallRegion sampleStubs { tickRate } .tick listedStartup).result =
      .ok core := by
  have idle : listedStartup.dispatcher.stage ≠ .live := nofun
  have course := run_course idle Heap.smallRegion sampleStubs { tickRate } .tick
  refine course.answers_iff.mpr fun phase => ?_
  cases phase with
  | heap => exact ⟨0, by decide, by decide, by decide⟩
  | controller =>
    have fits : Windows.standard.acceptable = true := by decide
    exact Phase.provided_controller_iff.mpr fits
  | timer => exact counts
  | processes => exact (by decide : (4096 : Nat) ≠ 0)
  | table | interrupts => exact True.intro

/-- At 1000 Hz a tick is 1193 cycles of the input clock. -/
theorem rate_agrees_thousand :
    (∃ core, (run Heap.smallRegion sampleStubs { tickRate := 1000 } .tick listedStartup).result =
      .ok core) ∧
    ∃ low high : UInt8,
      chipWrites
          (run Heap.smallRegion sampleStubs { tickRate := 1000 } .tick listedStartup).effects =
        [.portWrite Divider.commandPort Divider.squareWave, .portWrite Divider.channelPort low,
          .portWrite Divider.channelPort high] ∧
      Divider.Divides (low.toNat + 256 * high.toNat) 1000 := by
  obtain ⟨core, answers⟩ := run_sample 1000 (by decide)
  obtain ⟨low, high, programs, -, divides, -⟩ := rate_agrees answers
  exact ⟨⟨core, answers⟩, low, high, programs, divides.mpr (by decide)⟩

/-- **At 10 Hz the chip ticks more than 18 times a second**, and the timer takes ten ticks for
one. -/
theorem rate_departs :
    ∃ core, (run Heap.smallRegion sampleStubs { tickRate := 10 } .tick listedStartup).result =
        .ok core ∧
      chipWrites
          (run Heap.smallRegion sampleStubs { tickRate := 10 } .tick listedStartup).effects =
        [.portWrite 0x43 0x36, .portWrite 0x40 0xFF, .portWrite 0x40 0xFF] ∧
      (run Heap.smallRegion sampleStubs { tickRate := 10 } .tick
        listedStartup).state.timer.frequency = 10 ∧
      ¬Divider.Divides ((0xFF : UInt8).toNat + 256 * (0xFF : UInt8).toNat) 10 := by
  obtain ⟨core, answers⟩ := run_sample 10 (by decide)
  refine ⟨core, answers, ?_, (run_counts answers).2, by decide⟩
  rw [run_programs answers]
  decide

end Startup

end MiniKernel
