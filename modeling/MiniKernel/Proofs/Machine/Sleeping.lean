/-
**A sleep lasts as long as it was asked to, to within a tick.**

The milliseconds of a sleep become whole ticks, rounded down. So the counter may stop short of them
by less than a tick, and it does where they are no whole ticks and every halt lasts just one.

* `Timer.Waited` — the counter shows that the milliseconds have passed.
* `Wait.Slept` — how much a sleep may lack, and when it lacks nothing.
* `Wait.Halting.sleep_slept` — **every sleep ends, and lasts that long**; `Machine.serve_slept` —
  and so does the system call.
* `Machine.sleep_lasts` — both; `Machine.sleep_ends_early` — a sleep that lacks half a tick.
-/

import MiniKernel.Proofs.Machine.Calls

namespace MiniKernel

/-- **The milliseconds have passed**, told by the counter at the frequency it started with. -/
def Timer.Waited (before : Timer) (milliseconds : Nat) (after : Timer) : Prop :=
  milliseconds * before.frequency ≤ (after.ticks - before.ticks) * 1000

instance (before : Timer) (milliseconds : Nat) (after : Timer) :
    Decidable (before.Waited milliseconds after) :=
  inferInstanceAs (Decidable (_ ≤ _))

namespace Wait

variable {σ ε : Type} {timer : σ → Timer} {halt : Action σ ε Unit} {moves : σ → σ → Prop}
  {state after : σ} {effects : List Effect} {milliseconds : Nat}

/-- Every halt lasts a single tick. -/
def Single (timer : σ → Timer) (moves : σ → σ → Prop) : Prop :=
  ∀ state after, moves state after → (timer after).ticks = (timer state).ticks + 1

/-- **How long a sleep lasted**: less than a tick is missing to the milliseconds, and nothing if
they are whole ticks. With halts of a single tick nothing is missing only then. -/
structure Slept (timer : σ → Timer) (moves : σ → σ → Prop) (milliseconds : Nat)
    (state after : σ) : Prop where
  nearly : milliseconds * (timer state).frequency <
    ((timer after).ticks - (timer state).ticks + 1) * 1000
  whole : 1000 ∣ milliseconds * (timer state).frequency →
    (timer state).Waited milliseconds (timer after)
  only : Single timer moves → (timer state).Waited milliseconds (timer after) →
    1000 ∣ milliseconds * (timer state).frequency

/-- With halts of a single tick a wait ends just when the count is reached. -/
theorem Halting.reachWithin_single (halting : Halting timer halt moves)
    (single : Single timer moves) {target limit : Nat} (room : target < longLimit)
    (exactly : target = (timer state).ticks + limit)
    (run : reachWithin timer halt target limit state = ⟨.ok (), after, effects⟩) :
    (timer after).ticks = target := by
  induction limit generalizing state effects with
  | zero =>
    have reached : ¬ (timer state).ticks < target := by omega
    rw [reachWithin, Action.bind_quiet (Action.get_apply state), if_neg reached] at run
    cases run
    exact exactly.symm
  | succ limit ih =>
    have short : (timer state).ticks < target := by omega
    obtain ⟨middle, first, halts, _, moved⟩ :=
      halting.ends state (Nat.lt_of_le_of_lt short room)
    have closer : target = (timer middle).ticks + limit := by
      rw [single _ _ moved]
      omega
    rw [reachWithin, Action.bind_quiet (Action.get_apply state), if_pos short,
      Action.bind_apply_ok halts] at run
    cases goes_on : reachWithin timer halt target limit middle with
    | mk result last rest =>
      rw [goes_on] at run
      cases run
      exact ih closer goes_on

/-- **A sleep ends, and less than a tick early.** -/
theorem Halting.sleep_slept (halting : Halting timer halt moves) (state : σ)
    (short : milliseconds < wordLimit) (small : (timer state).frequency < wordLimit)
    (early : (timer state).ticks < longLimit / 2) :
    ∃ after effects, sleep timer halt milliseconds state = ⟨.ok (), after, effects⟩ ∧
      Slept timer moves milliseconds state after := by
  obtain ⟨product, room⟩ := Machine.sleep_fits short small early
  obtain ⟨after, effects, sleeps, reached, _⟩ := halting.sleep_ends state product room
  refine ⟨after, effects, sleeps, ?_, ?_, fun single waited => ?_⟩
  · omega
  · rintro ⟨count, exactly⟩
    rw [Timer.Waited]
    omega
  · rw [sleep_apply halt state product room] at sleeps
    have stops := halting.reachWithin_single single room rfl sleeps
    rw [Timer.Waited, stops, Nat.add_sub_cancel_left] at waited
    omega

end Wait

/-- A call to sleep is served without the core. -/
theorem SystemCall.perform_sleep (timer : Timer) (call : Call) (core : Core)
    (number : Number.ofWord call.number = .sleep) :
    perform timer call core = ⟨.ok (.sleep call.arg0), core, [call.notice]⟩ := by
  unfold perform Call.notice
  simp only [number]
  rfl

namespace Machine

variable {C ε : Type} {machine : Machine C} {core : Core} {frame : Frame}
  {halt : Action (Machine C) ε Unit} {moves : Machine C → Machine C → Prop}

/-- **The call to sleep ends with the sleep**, and answers 0. -/
theorem serve_slept (free : machine.held = {}) (there : machine.core = some core)
    (halting : Wait.Halting Machine.timer halt moves)
    (small : machine.timer.frequency < wordLimit) (early : machine.timer.ticks < longLimit / 2)
    (number : SystemCall.Number.ofWord frame.eax.toNat = .sleep) :
    ∃ after effects, serve halt frame machine = ⟨.ok 0, after, effects⟩ ∧
      Wait.Slept Machine.timer moves frame.ebx.toNat machine after := by
  have performs := SystemCall.perform_sleep machine.timer (.ofFrame frame) core number
  have returns : (SystemCall.perform machine.timer (.ofFrame frame) core).result.Returns := by
    rw [performs]
    exact Answer.returns_ok _
  obtain ⟨cpu, effects, run, _⟩ := guardCore_apply free there returns
  rw [performs] at run
  obtain ⟨after, rest, sleeps, slept⟩ :=
    halting.sleep_slept (machine.afterWork cpu core) frame.ebx.toNat_lt small early
  refine ⟨after, effects ++ (rest ++ []), ?_, slept.nearly, slept.whole, slept.only⟩
  unfold serve
  rw [Action.bind_quiet (Action.get_apply machine)]
  exact Action.bind_steps (Action.attempt_ok run)
    (Action.bind_steps sleeps (Action.pure_apply _ _))

/-- **A sleep lasts as long as it was asked to, to within a tick.** Whatever halts a wait is made
of, as long as each raises the counter, a sleep ends, and so does the same request made by a system
call, which answers 0. The ticks that passed fall short of the milliseconds by less than one tick,
and not at all where the milliseconds are whole ticks. With halts of a single tick they do in all
other cases. -/
theorem sleep_lasts {σ ε : Type} {timer : σ → Timer} {halt : Action σ ε Unit}
    {moves : σ → σ → Prop} (halting : Wait.Halting timer halt moves) (state : σ)
    {milliseconds : Nat} (short : milliseconds < wordLimit)
    (small : (timer state).frequency < wordLimit) (early : (timer state).ticks < longLimit / 2) :
    (∃ after effects, Wait.sleep timer halt milliseconds state = ⟨.ok (), after, effects⟩ ∧
      Wait.Slept timer moves milliseconds state after) ∧
    ∀ (C δ : Type) (wait : Action (Machine C) δ Unit) (steps : Machine C → Machine C → Prop)
      (machine : Machine C) (frame : Frame), Wait.Halting Machine.timer wait steps →
      machine.held = {} → machine.core.isSome → machine.timer = timer state →
      SystemCall.Number.ofWord frame.eax.toNat = .sleep → frame.ebx.toNat = milliseconds →
      ∃ after effects, serve wait frame machine = ⟨.ok 0, after, effects⟩ ∧
        Wait.Slept Machine.timer steps milliseconds machine after := by
  refine ⟨halting.sleep_slept state short small early, ?_⟩
  rintro C δ wait steps machine frame waiting free present same number rfl
  obtain ⟨core, there⟩ := Option.isSome_iff_exists.mp present
  rw [← same] at small early
  exact serve_slept free there waiting small early number

/-- The halts of a clock last a single tick. -/
theorem halting_clock {ε : Type} : Wait.Halting Clock.timer (Clock.halt : Action Clock ε Unit)
    fun clock after => after.timer.ticks = clock.timer.ticks + 1 :=
  ⟨fun _ room => ⟨_, _, Clock.halt_apply room, Nat.lt_succ_self _, rfl⟩⟩

/-- At 100 Hz a clock and a machine that is called wait for all of 30 ms. -/
theorem sleep_lasts_calls : ∃ clock effects machine more,
    (Wait.sleep Clock.timer Clock.halt 30 ⟨⟨0, 100⟩, {}⟩ : Outcome Clock KernelRefusal Unit) =
        ⟨.ok (), clock, effects⟩ ∧
      serve (ε := KernelRefusal) tickHalt { eax := 9, ebx := 30 } bootedMachine =
        ⟨.ok 0, machine, more⟩ ∧
      (⟨0, 100⟩ : Timer).Waited 30 clock.timer ∧ bootedMachine.timer.Waited 30 machine.timer := by
  obtain ⟨⟨clock, effects, sleeps, slept⟩, calls⟩ := sleep_lasts (ε := KernelRefusal)
    halting_clock ⟨⟨0, 100⟩, {}⟩ (by decide : 30 < wordLimit) (by decide) (by decide)
  have same : bootedMachine.timer = ⟨0, 100⟩ := by
    decide +kernel
  obtain ⟨machine, more, serves, served⟩ := calls StoredMask KernelRefusal tickHalt _ bootedMachine
    { eax := 9, ebx := 30 } halting_tickHalt (by decide +kernel) (by decide +kernel) same rfl rfl
  refine ⟨clock, effects, machine, more, sleeps, serves, slept.whole (by decide), served.whole ?_⟩
  rw [same]
  decide

/-- **A sleep of 5 ms at 100 Hz does not wait at all.** -/
theorem sleep_ends_early : ∃ after,
    (Wait.sleep Clock.timer Clock.halt 5 ⟨⟨0, 100⟩, {}⟩ : Outcome Clock KernelRefusal Unit) =
      ⟨.ok (), after, []⟩ ∧ ¬ (⟨0, 100⟩ : Timer).Waited 5 after.timer :=
  ⟨⟨⟨0, 100⟩, {}⟩, rfl, by decide⟩

end Machine

end MiniKernel
