/-
**System calls from any caller.**

* `Machine.Goes` — what an interrupt never does: turn the counter back, or change the timer's
  frequency, the interrupt flag, the locks, or the core other than by operations on it.
* `Machine.Reached` — the machines met in runs from a boot; all of them are up
  (`Machine.Reached.up`).
* `Machine.serve_ends`, `Machine.entry_call` — one system call ends, and the words of the image but
  the saved `eax` are as they were.
* `Machine.calls_end` — **so do any number of them in a row**, whatever the callers ask.
-/

import MiniKernel.Proofs.Interrupt.Images
import MiniKernel.Proofs.Machine.Booting
import MiniKernel.Proofs.Timer.Waiting

namespace MiniKernel

variable {C ε α : Type}

/-! ### Images of system calls -/

/-- **A stack image of a system call**: its vector word tells one, and it has the words that its
`cs` asks for. -/
structure Frame.IsCall (words : List UInt32) : Prop where
  vector : words[9]? = some systemCallVector.toUInt32
  long : ∃ cs, words[csPosition]? = some cs ∧ wordsNeeded cs ≤ words.length

theorem Frame.IsCall.frame {words : List UInt32} (call : Frame.IsCall words) :
    ∃ frame, Frame.ofWords words = .ok frame ∧ frame.vector? = some systemCallVector := by
  obtain ⟨cs, there, long⟩ := call.long
  obtain ⟨frame, read, number⟩ := Frame.ofWords_ok there long
  refine ⟨frame, read, ?_⟩
  rw [call.vector] at number
  rw [vector?, ← Option.some.inj number]
  rfl

namespace Machine

variable {machine middle after : Machine C}

/-! ### What goes on -/

/-- **What an interrupt may do to a machine**: the counter only rises, and the core is worked on by
its operations. -/
structure Goes (before after : Machine C) : Prop where
  ticks : before.timer.ticks ≤ after.timer.ticks
  frequency : after.timer.frequency = before.timer.frequency
  flag : after.cpu.flag = before.cpu.flag
  held : after.held = before.held
  core : ∀ core, before.core = some core →
    ∃ later, after.core = some later ∧ Core.Worked core later

theorem Goes.refl (machine : Machine C) : machine.Goes machine :=
  ⟨le_rfl, rfl, rfl, rfl, fun core there => ⟨core, there, .refl⟩⟩

theorem Goes.trans (first : machine.Goes middle) (second : middle.Goes after) :
    machine.Goes after := by
  refine ⟨first.ticks.trans second.ticks, second.frequency.trans first.frequency,
    second.flag.trans first.flag, second.held.trans first.held, fun core there => ?_⟩
  obtain ⟨between, found, worked⟩ := first.core core there
  obtain ⟨later, last, further⟩ := second.core between found
  exact ⟨later, last, worked.trans further⟩

theorem Goes.of_reflTransGen (goes : Relation.ReflTransGen Goes machine after) :
    machine.Goes after := by
  induction goes with
  | refl => exact .refl machine
  | tail _ step ih => exact ih.trans step

/-- A machine that is up stays so. -/
theorem Up.goes (up : machine.Up) (goes : machine.Goes after) : after.Up := by
  obtain ⟨core, there, sane⟩ := up.core
  refine ⟨goes.held.trans up.free, ?_, ?_, ?_⟩
  · rw [goes.frequency]
    exact up.counts
  · rw [goes.frequency]
    exact up.small
  · obtain ⟨later, last, worked⟩ := goes.core core there
    exact ⟨later, last, sane.worked worked⟩

/-- **The machines met in runs from a boot.** The core changes by its operations; what else is on
the machine may change at any time, but for the frequency of the timer and the locks. -/
inductive Reached [Controller C] : Machine C → Prop
  | booted {machine : Machine C} {region : Region} {stubs : Stubs} {config : Config}
    (free : machine.held = {}) (small : config.tickRate < wordLimit)
    (boots : (boot region stubs config machine).result = .ok ()) :
    Reached (boot region stubs config machine).state
  | worked {machine : Machine C} {core : Core} (reached : Reached machine)
    (there : machine.core = some core) (operation : Core.Operation)
    (returns : (operation.perform core).result.Returns) :
    Reached { machine with core := some (operation.perform core).state }
  | elsewhere {machine after : Machine C} (reached : Reached machine)
    (core : after.core = machine.core) (held : after.held = machine.held)
    (frequency : after.timer.frequency = machine.timer.frequency) : Reached after

theorem Reached.up [Controller C] (reached : Reached machine) : machine.Up := by
  induction reached with
  | booted free small boots => exact up_boot free small boots
  | worked _ there operation returns ih =>
    obtain ⟨core, same, sane⟩ := ih.core
    rw [there] at same
    cases same
    exact ⟨ih.free, ih.counts, ih.small, _, rfl, sane.operation operation returns⟩
  | elsewhere _ core held frequency ih =>
    refine ⟨held.trans ih.free, ?_, ?_, ?_⟩
    · rw [frequency]
      exact ih.counts
    · rw [frequency]
      exact ih.small
    · rw [core]
      exact ih.core

/-! ### The core at work -/

section Work

variable {action : Action Core ε α} {core : Core}

/-- Work on the core under a lock that is free leaves the lock free. -/
theorem lockCore_apply (free : machine.held = {}) (there : machine.core = some core) :
    lockCore action machine =
      ⟨(action core).result.map some, { machine with core := some (action core).state },
        (action core).effects⟩ := by
  unfold lockCore locked
  simp only [there]
  refine (Action.map_apply _ _ _).trans ?_
  cases machine
  cases free
  rfl

/-- The processor is a part of the machine. -/
theorem onCpu_within {β : Type} (action : Action Processor ε β) :
    (onCpu action : Action (Machine C) ε β) =
      Action.within cpu (fun cpu self => self.withCpu cpu) action := rfl

/-- The machine with work done on its core, and the processor as it is then. -/
def afterWork (machine : Machine C) (cpu : Processor) (core : Core) : Machine C :=
  { machine.withCpu cpu with core := some core }

/-- What work on the core leaves beside what it leaves itself: writes of the interrupt flag. -/
def Flagged (own effects : List Effect) : Prop :=
  effects = own ∨ effects = .interruptFlag false :: (own ++ [.interruptFlag true])

/-- **Work on the core with interrupts masked** leaves the interrupt flag as it was. -/
theorem guardCore_apply (free : machine.held = {}) (there : machine.core = some core)
    (returns : (action core).result.Returns) :
    ∃ cpu effects, guardCore action machine = ⟨(action core).result.map some,
        machine.afterWork cpu (action core).state, effects⟩ ∧
      cpu.flag = machine.cpu.flag ∧ Flagged (action core).effects effects := by
  have present : machine.core.isSome := by
    rw [there]
    rfl
  unfold guardCore masked
  rw [if_pos present]
  cases flag : machine.cpu.flag with
  | false =>
    rw [Processor.masked_clear onCpu_within rfl flag, lockCore_apply free there]
    exact ⟨machine.cpu, _, rfl, flag, Or.inl rfl⟩
  | true =>
    have ends : lockCore action (machine.withCpu (machine.cpu.written false)) = _ :=
      lockCore_apply free there
    rw [Processor.masked_set onCpu_within rfl flag ends (Answer.returns_map.mpr returns)]
    exact ⟨_, _, rfl, rfl, Or.inr rfl⟩

/-- Work on the core that comes to its end on the machine does on the core. -/
theorem returns_of_guardCore (free : machine.held = {}) (there : machine.core = some core)
    (returns : (guardCore action machine).result.Returns) : (action core).result.Returns := by
  have present : machine.core.isSome := by
    rw [there]
    rfl
  unfold guardCore masked at returns
  rw [if_pos present] at returns
  cases flag : machine.cpu.flag with
  | false =>
    rw [Processor.masked_clear onCpu_within rfl flag, lockCore_apply free there] at returns
    exact Answer.returns_of_map returns
  | true =>
    have ends : lockCore action (machine.withCpu (machine.cpu.written false)) = _ :=
      lockCore_apply free there
    have inside := Processor.returns_of_masked onCpu_within rfl flag returns
    rw [ends] at inside
    exact Answer.returns_of_map inside

end Work

/-! ### What a call leaves -/

/-- **Nothing but reports, writes of the interrupt flag, and what whole halts leave.** -/
inductive Quiet (halt : Action (Machine C) ε Unit) : List Effect → Prop
  | nothing : Quiet halt []
  | report (notice : Notice) {effects : List Effect} (rest : Quiet halt effects) :
    Quiet halt (.report notice :: effects)
  | flag (enabled : Bool) {effects : List Effect} (rest : Quiet halt effects) :
    Quiet halt (.interruptFlag enabled :: effects)
  | halted (machine : Machine C) {effects : List Effect} (rest : Quiet halt effects) :
    Quiet halt ((halt machine).effects ++ effects)

namespace Quiet

variable {halt : Action (Machine C) ε Unit} {first rest : List Effect}

theorem append (one : Quiet halt first) (others : Quiet halt rest) :
    Quiet halt (first ++ rest) := by
  induction one with
  | nothing => exact others
  | report notice _ ih => exact .report notice ih
  | flag enabled _ ih => exact .flag enabled ih
  | halted machine _ ih =>
    rw [List.append_assoc]
    exact .halted machine ih

theorem of_reports (only : OnlyReports first) : Quiet halt first := by
  induction first with
  | nil => exact .nothing
  | cons effect effects ih =>
    obtain ⟨⟨notice, rfl⟩, others⟩ := List.forall_mem_cons.mp only
    exact .report notice (ih others)

theorem of_flagged (flagged : Flagged first rest) (only : OnlyReports first) : Quiet halt rest := by
  rcases flagged with rfl | rfl
  · exact of_reports only
  · exact .flag false ((of_reports only).append (.flag true .nothing))

theorem of_left (left : Wait.Left halt first) : Quiet halt first := by
  induction left with
  | nothing => exact .nothing
  | halted machine _ ih => exact .halted machine ih

end Quiet

/-! ### One call -/

section Call

variable {halt : Action (Machine C) ε Unit}

/-- The milliseconds a caller may ask for are a wait that fits the counter. -/
theorem sleep_fits {milliseconds frequency ticks : Nat} (short : milliseconds < wordLimit)
    (small : frequency < wordLimit) (early : ticks < longLimit / 2) :
    milliseconds * frequency < longLimit ∧
      ticks + milliseconds * frequency / 1000 < longLimit := by
  have product : milliseconds * frequency < longLimit :=
    Nat.mul_lt_mul_of_lt_of_lt short small
  refine ⟨product, ?_⟩
  rw [longLimit] at product early ⊢
  omega

/-- **A system call is served to its end.** -/
theorem serve_ends (up : machine.Up) (halting : Wait.Halting Machine.timer halt Goes)
    (early : machine.timer.ticks < longLimit / 2)
    (countable : ∀ core, machine.core = some core → core.heap.Countable) (frame : Frame) :
    ∃ eax after effects, serve halt frame machine = ⟨.ok eax, after, effects⟩ ∧
      machine.Goes after ∧ Quiet halt effects := by
  obtain ⟨core, there, sane⟩ := up.core
  obtain ⟨blocks, sound⟩ := sane.sound
  obtain ⟨returns, only⟩ := SystemCall.perform_returns (.ofFrame frame) sound
    (countable core there) up.counts
  obtain ⟨cpu, effects, run, flag, flagged⟩ := guardCore_apply up.free there returns
  have quiet : Quiet halt effects := .of_flagged flagged only
  have goes : machine.Goes (machine.afterWork cpu
      (SystemCall.perform machine.timer (.ofFrame frame) core).state) := by
    refine ⟨le_rfl, rfl, flag, rfl, fun other same => ?_⟩
    rw [there] at same
    cases same
    exact ⟨_, rfl, SystemCall.worked_perform returns⟩
  unfold serve
  rw [Action.bind_quiet (Action.get_apply machine)]
  cases ends : (SystemCall.perform machine.timer (.ofFrame frame) core).result with
  | ok reply =>
    rw [ends] at run
    cases reply with
    | value value =>
      exact ⟨_, _, _, Action.bind_steps (Action.attempt_ok run) rfl, goes, quiet.append .nothing⟩
    | sleep milliseconds =>
      have short : milliseconds < wordLimit := by
        rw [SystemCall.waits_arg0 ends]
        exact frame.ebx.toNat_lt
      obtain ⟨product, room⟩ := sleep_fits short up.small early
      obtain ⟨after, rest, sleeps, -, further, left⟩ :=
        halting.sleep_ends (machine.afterWork cpu _) product room
      have waits : (do
          sleep halt milliseconds
          return SystemCall.encode (.ok (.sleep milliseconds)) : Action (Machine C) ε UInt32)
            (machine.afterWork cpu _) = ⟨.ok _, after, rest ++ []⟩ :=
        Action.bind_steps sleeps (Action.pure_apply _ _)
      exact ⟨_, _, _, Action.bind_steps (Action.attempt_ok run) waits,
        goes.trans (.of_reflTransGen further), quiet.append ((Quiet.of_left left).append .nothing)⟩
  | error failure =>
    cases failure with
    | refused cause =>
      rw [ends] at run
      exact ⟨_, _, _, Action.bind_steps (Action.attempt_refused run) rfl, goes,
        quiet.append .nothing⟩
    | aborted cause => exact absurd ends (returns cause)

/-- The answer of a system call takes the place of the saved `eax`. -/
theorem entry_apply [Controller C] {words : List UInt32} {frame : Frame}
    (read : Frame.ofWords words = .ok frame) (vector : frame.vector? = some systemCallVector) :
    entry halt words machine =
      ⟨(serve halt frame machine).result.map (words.set Frame.eaxPosition),
        (serve halt frame machine).state, (serve halt frame machine).effects⟩ := by
  rw [← Action.map_apply]
  unfold entry entryWith
  rw [read]
  simp only [vector]
  rfl

/-- **A system call ends**, and the words of its image but the saved `eax` are as they were. -/
theorem entry_call [Controller C] (up : machine.Up)
    (halting : Wait.Halting Machine.timer halt Goes) (early : machine.timer.ticks < longLimit / 2)
    (countable : ∀ core, machine.core = some core → core.heap.Countable) {words : List UInt32}
    (call : Frame.IsCall words) :
    ∃ eax after effects,
      entry halt words machine = ⟨.ok (words.set Frame.eaxPosition eax), after, effects⟩ ∧
        machine.Goes after ∧ Quiet halt effects := by
  obtain ⟨frame, read, vector⟩ := call.frame
  obtain ⟨eax, after, effects, served, goes, quiet⟩ :=
    serve_ends up halting early countable frame
  refine ⟨eax, after, effects, ?_, goes, quiet⟩
  rw [entry_apply read vector, served]
  rfl

end Call

/-! ### Halts -/

/-- A halt that lasts until the next tick is one of those. -/
theorem halting_tickHalt :
    Wait.Halting Machine.timer (tickHalt : Action (Machine C) ε Unit) Goes := by
  refine ⟨fun machine room => ?_⟩
  have halts : (tickHalt : Action (Machine C) ε Unit) machine =
      ⟨.ok (), { machine.withCpu { machine.cpu with halts := machine.cpu.halts + 1 } with
        timer := { machine.timer with ticks := machine.timer.ticks + 1 } }, []⟩ := by
    unfold tickHalt
    rw [Action.within_apply, Clock.halt_apply room]
  exact ⟨_, _, halts, Nat.lt_succ_self _, Nat.le_succ _, rfl, rfl, rfl,
    fun core there => ⟨core, there, .refl⟩⟩

/-! ### Any number of calls -/

section Calls

variable [Controller C] {halt : Action (Machine C) ε Unit}

/-- **The counters last for the calls**: as each one starts, fewer than 2^63 ticks were counted, and
the heap can count one more block handed out and one more taken back. -/
def Lasts (halt : Action (Machine C) ε Unit) : List (List UInt32) → Machine C → Prop
  | [], _ => True
  | words :: rest, machine => machine.timer.ticks < longLimit / 2 ∧
    (∀ core, machine.core = some core → core.heap.Countable) ∧
      Lasts halt rest (entry halt words machine).state

theorem entries_end (up : machine.Up) (halting : Wait.Halting Machine.timer halt Goes)
    {images : List (List UInt32)} (calls : ∀ words ∈ images, Frame.IsCall words)
    (lasts : Lasts halt images machine) :
    ∃ answers after effects, images.mapM (entry halt) machine = ⟨.ok answers, after, effects⟩ ∧
      List.Forall₂ (fun words answer => ∃ eax, answer = words.set Frame.eaxPosition eax)
        images answers ∧
      machine.Goes after ∧ Quiet halt effects := by
  induction images generalizing machine with
  | nil => exact ⟨[], machine, [], rfl, .nil, .refl machine, .nothing⟩
  | cons words rest ih =>
    obtain ⟨early, countable, further⟩ := lasts
    obtain ⟨call, others⟩ := List.forall_mem_cons.mp calls
    obtain ⟨eax, middle, effects, first, goes, quiet⟩ :=
      entry_call up halting early countable call
    rw [first] at further
    obtain ⟨answers, after, more, last, each, onward, still⟩ :=
      ih (up.goes goes) others further
    refine ⟨_, after, effects ++ (more ++ []), ?_, .cons ⟨eax, rfl⟩ each, goes.trans onward,
      quiet.append (still.append .nothing)⟩
    rw [List.mapM_cons]
    exact Action.bind_steps first (Action.bind_steps last (Action.pure_apply _ _))

/-- **System calls are safe from any caller.** On any machine met after a boot, any number of stack
images of system calls in a row, whatever their other words, are each handled to the end, as long as
every halt lasts a tick at least and the counters last. No word of an image changes but the saved
`eax`. The calls leave only reports, writes of the interrupt flag, and what the halts leave, and the
interrupt flag as it was; the heap passes its audit, and one process runs, the current one. -/
theorem calls_end (reached : machine.Reached) (halting : Wait.Halting Machine.timer halt Goes)
    {images : List (List UInt32)} (calls : ∀ words ∈ images, Frame.IsCall words)
    (lasts : Lasts halt images machine) :
    ∃ answers after effects, images.mapM (entry halt) machine = ⟨.ok answers, after, effects⟩ ∧
      List.Forall₂ (fun words answer => ∃ eax, answer = words.set Frame.eaxPosition eax)
        images answers ∧
      Quiet halt effects ∧ after.cpu.flag = machine.cpu.flag ∧
      ∃ core, after.core = some core ∧ core.heap.verify = .ok () ∧
        ∀ slot, (core.processes.process slot).state = .running ↔
          slot = core.processes.current := by
  have up := reached.up
  obtain ⟨answers, after, effects, run, each, goes, quiet⟩ := entries_end up halting calls lasts
  obtain ⟨core, there, sane⟩ := (up.goes goes).core
  exact ⟨answers, after, effects, run, each, quiet, goes.flag, core, there,
    Heap.verify_eq_ok_iff.mpr sane.sound, sane.consistent.runs⟩

/-- A machine booted over a small region. -/
def bareMachine : Machine StoredMask := { dispatcher := { controller := ⟨0⟩ } }

/-- Stubs with a gate each. -/
def someStubs : Stubs := ⟨.replicate 32 0x1000, .replicate 16 0x2000, some 0x3000⟩

def bootedMachine : Machine StoredMask :=
  (boot (C := StoredMask) Heap.smallRegion someStubs { stackBytes := 16 } bareMachine).state

theorem reached_bootedMachine : bootedMachine.Reached := by
  have boots : (boot Heap.smallRegion someStubs { stackBytes := 16 } bareMachine).result =
      .ok () := by
    decide +kernel
  exact .booted rfl (by decide) boots

/-- A call for memory from the kernel, and one to sleep from user code. -/
def someImages : List (List UInt32) :=
  [[0x10, 0, 0, 0, 0, 8, 0, 0, 11, 0x80, 0, 0, 0x08, 0x202],
    [0x23, 0, 0, 0, 0, 30, 0, 0, 9, 0x80, 0, 0, 0x1B, 0x202, 0, 0x23]]

theorem lasts_someImages : Lasts (ε := KernelRefusal) tickHalt someImages bootedMachine := by
  have countable : ∀ {machine : Machine StoredMask},
      (machine.core.all fun core => decide core.heap.Countable) = true →
      ∀ core, machine.core = some core → core.heap.Countable := by
    intro machine room core there
    rw [there] at room
    exact of_decide_eq_true room
  refine ⟨?_, countable ?_, ?_, countable ?_, trivial⟩ <;> decide +kernel

/-- A caller is given a block and another one sleeps, and both go on. -/
theorem calls_end_someImages :
    ∃ answers after effects,
      someImages.mapM (entry (ε := KernelRefusal) tickHalt) bootedMachine =
        ⟨.ok answers, after, effects⟩ ∧ after.cpu.flag = bootedMachine.cpu.flag ∧
      ∃ core, after.core = some core ∧ core.heap.verify = .ok () := by
  have calls : ∀ words ∈ someImages, Frame.IsCall words := by
    intro words member
    simp only [someImages, List.mem_cons, List.not_mem_nil, or_false] at member
    rcases member with rfl | rfl
    · exact ⟨rfl, _, rfl, by decide⟩
    · exact ⟨rfl, _, rfl, by decide⟩
  obtain ⟨answers, after, effects, run, _, _, flag, core, there, audit, _⟩ :=
    calls_end reached_bootedMachine halting_tickHalt calls lasts_someImages
  exact ⟨answers, after, effects, run, flag, core, there, audit⟩

end Calls

end Machine

end MiniKernel
