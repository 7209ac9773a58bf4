/-
**A table in use is left alone.**

* `Moment` — the stage of the dispatcher and the interrupt flag at one moment of a request;
  `Moment.after` reads it off what the request left until then.
* `Throughout` — each effect is allowed at its moment.
* `Controller.Aloof` — a controller that touches neither the processor nor the gates.
* `Dispatcher.Course.told`, `Dispatcher.Course.allowed` — **one request**: the reading is right, and
  the request leaves nothing but what `Dispatcher.Request.Allows`.
* `Dispatcher.Leads` — the dispatchers that requests lead to; `Dispatcher.Leads.kept` — **the whole
  run**: no stage is left again but upwards, and a gate in use changes only when it is replaced.
* `Dispatcher.discipline` — every dispatcher that is met is `Dispatcher.Disciplined`.
-/

import MiniKernel.Proofs.Effects
import MiniKernel.Proofs.Interrupt.Bindings
import MiniKernel.Proofs.Interrupt.Placement

namespace MiniKernel

open MiniKernel.Action

/-! ### Moments -/

/-- The stage of a dispatcher and the interrupt flag of its processor. -/
structure Moment where
  stage : Stage
  flag : Bool

namespace Moment

/-- The moment after one more effect. A stage is reported as soon as it is reached. -/
def next (moment : Moment) : Effect → Moment
  | .interruptFlag enabled => { moment with flag := enabled }
  | .report (.gatesLoaded _) => { moment with stage := .loaded }
  | .report .interruptsOn => { moment with stage := .live }
  | _ => moment

/-- The moment after some effects. -/
def after (moment : Moment) (effects : List Effect) : Moment := effects.foldl next moment

theorem after_append (moment : Moment) (effects more : List Effect) :
    moment.after (effects ++ more) = (moment.after effects).after more := List.foldl_append

end Moment

/-- The moment a dispatcher is in. -/
def Dispatcher.moment {C : Type} (self : Dispatcher C) : Moment := ⟨self.stage, self.cpu.flag⟩

/-- **Each effect is allowed at its moment.** -/
def Throughout (allowed : Moment → Effect → Prop) (moment : Moment) (effects : List Effect) :
    Prop :=
  ∀ before effect rest, effects = before ++ effect :: rest → allowed (moment.after before) effect

section Throughout

variable {allowed : Moment → Effect → Prop} {moment : Moment} {effect : Effect}
  {effects : List Effect}

@[simp] theorem throughout_nil : Throughout allowed moment [] := by
  intro before effect rest split
  cases before <;> cases split

@[simp] theorem throughout_cons : Throughout allowed moment (effect :: effects) ↔
    allowed moment effect ∧ Throughout allowed (moment.next effect) effects := by
  constructor
  · intro each
    refine ⟨each [] effect effects rfl, fun before later rest split => ?_⟩
    exact each (effect :: before) later rest (congrArg (List.cons effect) split)
  · rintro ⟨here, each⟩ before later rest split
    cases before with
    | nil =>
      obtain ⟨rfl, _⟩ := List.cons.inj split
      exact here
    | cons first before =>
      obtain ⟨rfl, tail⟩ := List.cons.inj split
      exact each before later rest tail

end Throughout

/-! ### Controllers that keep to themselves -/

/-- An effect on neither the processor nor the gates, and no report of a stage. -/
def Effect.Spares : Effect → Prop
  | .interruptFlag _ | .tableLoad _ | .gateWrite _ => False
  | .report (.gatesLoaded _) | .report .interruptsOn => False
  | _ => True

/-- **Neither the processor nor the gates were touched.** -/
def Spared (effects : List Effect) : Prop := ∀ effect ∈ effects, effect.Spares

instance : Sequential Spared where
  nil := List.forall_mem_nil _
  append first rest := List.forall_mem_append.mpr ⟨first, rest⟩

theorem spared_singleton {effect : Effect} (spares : effect.Spares) : Spared [effect] :=
  List.forall_mem_singleton.mpr spares

theorem Effect.Spares.next {effect : Effect} (spares : effect.Spares) (moment : Moment) :
    moment.next effect = moment := by
  cases effect with
  | interruptFlag enabled => exact absurd spares id
  | report notice => cases notice <;> first | rfl | exact absurd spares id
  | _ => rfl

namespace Spared

variable {allowed : Moment → Effect → Prop} {moment : Moment} {effects : List Effect}

theorem after (spared : Spared effects) (moment : Moment) : moment.after effects = moment := by
  induction effects with
  | nil => rfl
  | cons effect effects ih =>
    obtain ⟨here, later⟩ := List.forall_mem_cons.mp spared
    show (moment.next effect).after effects = moment
    rw [here.next, ih later]

theorem throughout (spared : Spared effects)
    (each : ∀ moment effect, effect.Spares → allowed moment effect) :
    Throughout allowed moment effects := by
  rintro before effect rest rfl
  exact each _ _ (spared effect (List.mem_append_right _ List.mem_cons_self))

end Spared

/-- **A controller that touches neither the processor nor the gates**, whatever it is asked. -/
structure Controller.Aloof (C : Type) [Controller C] : Prop where
  remap (master slave : UInt8) :
    Leaves Spared (Controller.remap master slave : Action C DispatchRefusal Unit)
  acknowledge (irq : UInt8) :
    Leaves Spared (Controller.acknowledge irq : Action C DispatchRefusal Unit)
  enableLine (irq : UInt8) :
    Leaves Spared (Controller.enableLine irq : Action C DispatchRefusal Unit)
  disableLine (irq : UInt8) :
    Leaves Spared (Controller.disableLine irq : Action C DispatchRefusal Unit)

theorem Controller.Aloof.spared {C : Type} [Controller C] (aloof : Controller.Aloof C)
    (request : Dispatcher.Request) {work : Action C DispatchRefusal Unit}
    (driven : request.onController? = some work) {controller after : C}
    {result : Answer DispatchRefusal Unit} {effects : List Effect}
    (ran : work controller = ⟨result, after, effects⟩) : Spared effects := by
  have leaves : Leaves Spared work := by
    cases request with
    | remap master slave =>
      cases driven
      exact aloof.remap master slave
    | enableLine irq =>
      cases driven
      exact aloof.enableLine irq
    | disableLine irq =>
      cases driven
      exact aloof.disableLine irq
    | _ => cases driven
  have spared := leaves controller
  rwa [ran] at spared

namespace ChipPair

theorem write_spares (port : UInt16) (value : UInt8) {ε : Type} :
    Leaves Spared (Bus.write port value : Action Bus ε Unit) := fun _ =>
  spared_singleton True.intro

theorem read_spares (port : UInt16) {ε : Type} :
    Leaves Spared (Bus.read port : Action Bus ε UInt8) := fun _ => spared_singleton True.intro

theorem initWord_spares (port : UInt16) (value : UInt8) {ε : Type} :
    Leaves Spared (initWord port value : Action Bus ε Unit) :=
  (write_spares _ _).bind fun _ => write_spares _ _

/-- Two chips keep to their ports. -/
theorem aloof : Controller.Aloof ChipPair where
  remap master slave := by
    refine Leaves.within ((read_spares _).bind fun _ => (read_spares _).bind fun _ => ?_)
    refine (initWord_spares _ _).bind fun _ => (initWord_spares _ _).bind fun _ => ?_
    refine (initWord_spares _ _).bind fun _ => (initWord_spares _ _).bind fun _ => ?_
    refine (initWord_spares _ _).bind fun _ => (initWord_spares _ _).bind fun _ => ?_
    refine (initWord_spares _ _).bind fun _ => (initWord_spares _ _).bind fun _ => ?_
    exact (write_spares _ _).bind fun _ => write_spares _ _
  acknowledge irq := by
    intro chips
    obtain ⟨after, acknowledged⟩ := acknowledge_apply (ε := DispatchRefusal) irq chips
    rw [acknowledged, endings]
    split
    · exact spared_singleton True.intro
    · exact List.forall_mem_cons.mpr ⟨True.intro, spared_singleton True.intro⟩
  enableLine irq := Leaves.within <|
    (read_spares _).bind fun _ => (leaves_ask _).bind fun _ => write_spares _ _
  disableLine irq := Leaves.within <|
    (read_spares _).bind fun _ => (leaves_ask _).bind fun _ => write_spares _ _

end ChipPair

/-! ### One request -/

namespace Dispatcher

variable {C : Type} {self before after later : Dispatcher C} {request : Request}
  {result : Answer DispatchRefusal Reply} {effects : List Effect} {requests : List Request}

/-- A gate may be written on a table that is not in use, and else by replacing it with the interrupt
flag clear. -/
def Request.MayWrite (moment : Moment) (vector : UInt8) : Request → Prop
  | .rebindGate target _ => vector = target ∧ moment.flag = false
  | _ => moment.stage ≠ .live

/-- **What a request may leave at a moment**, from a processor with that flag: the flag is set with
interrupts let in, or back where it was set and was cleared; gates are written as they may be. -/
def Request.Allows (request : Request) (found : Bool) (moment : Moment) : Effect → Prop
  | .interruptFlag true => moment.stage = .live ∨ found = true ∧ moment.flag = false
  | .gateWrite vector => request.MayWrite moment vector
  | _ => True

theorem Request.Allows.of_spares {found : Bool} {moment : Moment} {effect : Effect}
    (spares : effect.Spares) : request.Allows found moment effect := by
  cases effect with
  | interruptFlag _ | gateWrite _ => exact absurd spares id
  | _ => exact True.intro

theorem after_gateWrites (gates : List (UInt8 × Gate)) (moment : Moment) :
    moment.after (gateWrites gates) = moment := by
  induction gates with
  | nil => rfl
  | cons bound gates ih => exact ih

/-- Gates are bound while the table is not in use. -/
theorem throughout_gateWrites {found : Bool} {moment : Moment} {stubs : Stubs}
    (idle : moment.stage ≠ .live) (gates : List (UInt8 × Gate)) :
    Throughout ((Request.bindStubs stubs).Allows found) moment (gateWrites gates) := by
  induction gates with
  | nil => exact throughout_nil
  | cons bound gates ih => exact throughout_cons.mpr ⟨idle, ih⟩

/-- A replacement changes one gate, and leaves the flag as it was. -/
theorem regated_frame (vector : UInt8) (gate : Gate) :
    (self.regated vector gate).cpu.flag = self.cpu.flag ∧
      ∀ other, (self.regated vector gate).table.gate other =
        if vector = other then gate else self.table.gate other := by
  unfold regated
  split
  · rename_i set
    exact ⟨set.symm, fun other => GateTable.gate_set ..⟩
  · exact ⟨rfl, fun other => GateTable.gate_set ..⟩

variable [Controller C]

namespace Course

/-- **The moment that is read off what a request left is the one it led to.** -/
theorem told (course : before.Course request result after effects)
    (aloof : Controller.Aloof C) : before.moment.after effects = after.moment := by
  cases course with
  | refused | registered | lineRegistered | unregistered | bound | loaded | armed | enabled => rfl
  | stuck driven fails => exact (aloof.spared _ driven fails).after _
  | rebound =>
    unfold regated
    cases flag : before.cpu.flag with
    | false => rfl
    | true => rfl
  | stubbed idle =>
    rw [after_gateWrites, withGates_frame]
    rfl
  | @moved master slave _ _ fits driven =>
    have spared := aloof.spared (.remap master slave) rfl driven
    rw [Moment.after_append, spared.after]
    rfl
  | @lineEnabled irq _ _ known driven =>
    exact (aloof.spared (.enableLine irq) rfl driven).after _
  | @lineDisabled irq _ _ known driven =>
    exact (aloof.spared (.disableLine irq) rfl driven).after _

/-- **A request leaves nothing but what it may.** -/
theorem allowed (course : before.Course request result after effects)
    (aloof : Controller.Aloof C) :
    Throughout (request.Allows before.cpu.flag) before.moment effects := by
  have aside : ∀ {effects : List Effect}, Spared effects →
      Throughout (request.Allows before.cpu.flag) before.moment effects :=
    fun spared => spared.throughout fun _ _ => Request.Allows.of_spares
  cases course with
  | refused | registered | lineRegistered | unregistered => exact throughout_nil
  | stuck driven fails => exact aside (aloof.spared _ driven fails)
  | bound idle => exact throughout_cons.mpr ⟨idle, throughout_nil⟩
  | rebound =>
    cases flag : before.cpu.flag with
    | false => exact throughout_cons.mpr ⟨⟨rfl, flag⟩, throughout_nil⟩
    | true =>
      -- the flag is cleared, the gate is written, and the flag is put back
      refine throughout_cons.mpr ⟨True.intro, throughout_cons.mpr ⟨⟨rfl, rfl⟩, ?_⟩⟩
      exact throughout_cons.mpr ⟨Or.inr ⟨rfl, rfl⟩, throughout_nil⟩
  | stubbed idle => exact throughout_gateWrites idle _
  | @moved master slave _ effects fits driven =>
    refine aside (Sequential.append (aloof.spared (.remap master slave) rfl driven) ?_)
    exact spared_singleton True.intro
  | loaded idle covered =>
    exact throughout_cons.mpr ⟨True.intro, throughout_cons.mpr ⟨True.intro, throughout_nil⟩⟩
  | armed loaded => exact throughout_cons.mpr ⟨True.intro, throughout_nil⟩
  | enabled loaded =>
    -- interrupts were let in right before the flag is set
    exact throughout_cons.mpr ⟨True.intro, throughout_cons.mpr ⟨Or.inl rfl, throughout_nil⟩⟩
  | @lineEnabled irq _ _ known driven =>
    exact aside (aloof.spared (.enableLine irq) rfl driven)
  | @lineDisabled irq _ _ known driven =>
    exact aside (aloof.spared (.disableLine irq) rfl driven)

/-- **The stage stays, or goes one step up.** -/
theorem climbs (course : before.Course request result after effects) :
    after.stage = before.stage ∨
      (before.stage = .down ∧ after.stage = .loaded ∧ request = .loadGates) ∨
      (before.stage = .loaded ∧ after.stage = .live ∧ (request = .arm ∨ request = .enable)) := by
  cases course with
  | refused | stuck | bound | moved | registered | lineRegistered | unregistered | lineEnabled
  | lineDisabled => exact Or.inl rfl
  | rebound =>
    unfold regated
    split <;> exact Or.inl rfl
  | stubbed idle =>
    rw [withGates_frame]
    exact Or.inl rfl
  | loaded idle covered =>
    cases stage : before.stage with
    | down => exact Or.inr (Or.inl ⟨rfl, rfl, rfl⟩)
    | loaded => exact Or.inl rfl
    | live => exact absurd stage idle
  | armed loaded => exact Or.inr (Or.inr ⟨loaded, rfl, Or.inl rfl⟩)
  | enabled loaded => exact Or.inr (Or.inr ⟨loaded, rfl, Or.inr rfl⟩)

/-- A request that is none of the controller's changes nothing when it fails. -/
theorem failed {failure : Failure DispatchRefusal}
    (course : before.Course request (.error failure) after effects)
    (own : (request.onController? : Option (Action C DispatchRefusal Unit)) = none) :
    after = before ∧ effects = [] := by
  cases course with
  | refused request cause => exact ⟨rfl, rfl⟩
  | stuck driven fails =>
    rw [own] at driven
    cases driven

/-- **A gate changes only where a write is left.** -/
theorem written (course : before.Course request result after effects) {vector : UInt8}
    (unwritten : .gateWrite vector ∉ effects) :
    after.table.gate vector = before.table.gate vector := by
  have off : ∀ {other : UInt8} {gate : Gate}, .gateWrite other ∈ effects →
      (before.withGate other gate).table.gate vector = before.table.gate vector := by
    intro other gate here
    refine (GateTable.gate_set ..).trans (if_neg ?_)
    rintro rfl
    exact unwritten here
  cases course with
  | refused | stuck | moved | loaded | armed | enabled | registered | lineRegistered
  | unregistered | lineEnabled | lineDisabled => rfl
  | bound idle => exact off List.mem_cons_self
  | rebound =>
    unfold regated
    split
    · rename_i set
      exact off (by simp [set])
    · rename_i clear
      exact off (by simp [clear])
  | stubbed idle =>
    refine gate_withGates_of_notMem fun member => unwritten ?_
    obtain ⟨bound, here, rfl⟩ := List.mem_map.mp member
    exact List.mem_map_of_mem here

/-- **With interrupts let in nothing but a replacement changes a gate.** -/
theorem closed (course : before.Course request result after effects) (live : before.stage = .live)
    (other : ∀ vector gate, request ≠ .rebindGate vector gate) : after.table = before.table := by
  cases course with
  | refused | stuck | moved | loaded | armed | enabled | registered | lineRegistered
  | unregistered | lineEnabled | lineDisabled => rfl
  | @rebound vector gate => exact absurd rfl (other vector gate)
  | bound idle => exact absurd live idle
  | stubbed idle => exact absurd live idle

end Course

/-- A request that is none of the controller's touches nothing when it fails. -/
theorem perform_failed (fits : self.windows.acceptable = true)
    (own : (request.onController? : Option (Action C DispatchRefusal Unit)) = none)
    {failure : Failure DispatchRefusal} (fails : (request.perform self).result = .error failure) :
    request.perform self = ⟨.error failure, self, []⟩ := by
  have course := perform_course fits request
  rw [fails] at course
  obtain ⟨same, quiet⟩ := course.failed own
  calc request.perform self
    _ = ⟨(request.perform self).result, (request.perform self).state,
        (request.perform self).effects⟩ := rfl
    _ = ⟨.error failure, self, []⟩ := by rw [fails, same, quiet]

/-- Routing an interrupt touches nothing but the controller. -/
theorem route_spared (aloof : Controller.Aloof C) (fits : self.windows.acceptable = true)
    (frame : Frame) : Spared (route frame self).effects := by
  cases arrives : frame.vector? with
  | none =>
    rw [route_large arrives]
    exact Sequential.nil
  | some vector =>
    cases found : self.windows.lineAt vector with
    | none =>
      rw [route_plain fits arrives found]
      exact Sequential.nil
    | some irq =>
      obtain ⟨known, rfl⟩ := (Windows.lineAt_eq_some_iff fits).mp found
      have spared := aloof.acknowledge irq self.controller
      cases driven : (Controller.acknowledge irq : Action C DispatchRefusal Unit)
          self.controller with
      | mk result controller effects =>
        rw [driven] at spared
        rw [route_line fits known arrives driven]
        exact spared

/-! ### Runs -/

/-- **The dispatchers that a run from this one leads to**, with the requests made on the way, the
latest first. Frames are routed on the way, and controller and processor are worked on from outside.
-/
inductive Leads (self : Dispatcher C) : List Request → Dispatcher C → Prop
  | here : Leads self [] self
  | asked {later : Dispatcher C} {requests : List Request} (leads : Leads self requests later)
    (request : Request) : Leads self (request :: requests) (request.perform later).state
  | routed {later : Dispatcher C} {requests : List Request} (leads : Leads self requests later)
    (frame : Frame) : Leads self requests (route frame later).state
  | driven {later : Dispatcher C} {requests : List Request} (leads : Leads self requests later)
    (controller : C) (cpu : Processor) : Leads self requests { later with controller, cpu }

theorem Leads.met (leads : self.Leads requests later) (met : Met self) : Met later := by
  induction leads with
  | here => exact met
  | asked _ request ih => exact ih.asked request
  | routed _ frame ih => exact ih.routed frame
  | driven _ controller cpu ih => exact ih.driven controller cpu

/-- **A stage is left upwards only.** -/
theorem Leads.above (leads : self.Leads requests later) (met : Met self) :
    (self.stage = .loaded → later.stage ≠ .down) ∧ (self.stage = .live → later.stage = .live) := by
  induction leads with
  | here =>
    refine ⟨fun loaded => ?_, id⟩
    rw [loaded]
    decide
  | @asked later requests leads request ih =>
    have fits := (leads.met met).acceptable
    rcases (perform_course fits request).climbs with still | ⟨down, loaded, _⟩ | ⟨_, live, _⟩
    · rw [still]
      exact ih
    · rw [loaded]
      refine ⟨fun _ => by decide, fun live => ?_⟩
      have stays := ih.2 live
      rw [down] at stays
      cases stays
    · rw [live]
      exact ⟨fun _ => by decide, fun _ => rfl⟩
  | @routed later requests leads frame ih =>
    rw [route_frame (leads.met met).acceptable]
    exact ih
  | driven _ _ _ ih => exact ih

/-- **A gate in use stays until it is replaced.** -/
theorem Leads.kept (leads : self.Leads requests later) (met : Met self) (live : self.stage = .live)
    {vector : UInt8} (still : ∀ gate, .rebindGate vector gate ∉ requests) :
    later.table.gate vector = self.table.gate vector := by
  induction leads with
  | here => rfl
  | @asked later requests leads request ih =>
    have course := perform_course (leads.met met).acceptable request
    have before := ih fun gate member => still gate (List.mem_cons_of_mem _ member)
    rw [← before]
    by_cases replaces : ∃ target gate, request = .rebindGate target gate
    · obtain ⟨target, gate, rfl⟩ := replaces
      refine course.written fun member => ?_
      rw [Request.perform, Action.map_apply, rebindGate_apply] at member
      have same : vector = target := by
        revert member
        cases later.cpu.flag <;> simp
      subst same
      exact still gate List.mem_cons_self
    · rw [course.closed ((leads.above met).2 live)]
      exact fun target gate same => replaces ⟨target, gate, same⟩
  | @routed later requests leads frame ih =>
    rw [route_frame (leads.met met).acceptable]
    exact ih still
  | driven _ _ _ ih => exact ih still

/-! ### The discipline -/

/-- **What a dispatcher keeps to**, whatever it is asked. -/
structure Disciplined (found : Dispatcher C) : Prop where
  /-- The stage stays, or goes one step up by the request for that step. -/
  climbs : ∀ request : Request, (request.perform found).state.stage = found.stage ∨
    (found.stage = .down ∧ (request.perform found).state.stage = .loaded ∧ request = .loadGates) ∨
    (found.stage = .loaded ∧ (request.perform found).state.stage = .live ∧
      (request = .arm ∨ request = .enable))
  /-- A step that fails touches nothing. -/
  failed : ∀ request ∈ [Request.loadGates, .arm, .enable], ∀ failure,
    (request.perform found).result = .error failure →
      request.perform found = ⟨.error failure, found, []⟩
  /-- The moments are those that the dispatcher goes through. -/
  told : ∀ request : Request,
    found.moment.after (request.perform found).effects = (request.perform found).state.moment
  /-- The interrupt flag is set with interrupts let in, or back where it was set and was cleared. -/
  flags : ∀ (request : Request) before rest,
    (request.perform found).effects = before ++ .interruptFlag true :: rest →
      (found.moment.after before).stage = .live ∨
      (found.cpu.flag = true ∧ (found.moment.after before).flag = false)
  /-- A gate is written on a table that is not in use, or replaced with the flag clear. -/
  writes : ∀ (request : Request) before vector rest,
    (request.perform found).effects = before ++ .gateWrite vector :: rest →
      request.MayWrite (found.moment.after before) vector
  /-- No gate changes without a write. -/
  written : ∀ (request : Request) vector, .gateWrite vector ∉ (request.perform found).effects →
    (request.perform found).state.table.gate vector = found.table.gate vector
  /-- With interrupts let in, gates and stubs are refused before the first write. -/
  refused : found.stage = .live →
    (∀ vector gate, (Request.bindGate vector gate).perform found =
      ⟨.error (.refused .tableLive), found, []⟩) ∧
    ∀ stubs, (Request.bindStubs stubs).perform found = ⟨.error (.refused .tableLive), found, []⟩
  /-- And no gate changes unless it is replaced. -/
  closed : found.stage = .live → ∀ request : Request,
    (∀ vector gate, request ≠ .rebindGate vector gate) →
      (request.perform found).state.table = found.table
  /-- A replacement changes its own gate, and leaves the flag as it was. -/
  replaced : ∀ vector gate,
    ((Request.rebindGate vector gate).perform found).result = .ok .done ∧
    ((Request.rebindGate vector gate).perform found).state.cpu.flag = found.cpu.flag ∧
    ∀ other, ((Request.rebindGate vector gate).perform found).state.table.gate other =
      if vector = other then gate else found.table.gate other
  /-- Routing touches nothing but the controller. -/
  routed : ∀ frame : Frame, Spared (route frame found).effects ∧
    (route frame found).state = { found with controller := (route frame found).state.controller }

/-- **The discipline of a table in use**, in every run over a controller that keeps to itself. The
stages are gone through upwards, one at a time; a failed step touches nothing; the interrupt flag is
set with interrupts let in, or back to what it was. With interrupts let in a gate changes only when
it is replaced, at a moment with the flag clear, and over a whole run it is what it was unless it
was replaced on the way. -/
theorem discipline (aloof : Controller.Aloof C) (met : Met self) :
    self.Disciplined ∧ ∀ requests later, self.Leads requests later →
      (self.stage = .loaded → later.stage ≠ .down) ∧ (self.stage = .live → later.stage = .live) ∧
      (self.stage = .live → ∀ vector, (∀ gate, .rebindGate vector gate ∉ requests) →
        later.table.gate vector = self.table.gate vector) := by
  have course := perform_course met.acceptable
  refine ⟨?_, fun requests later leads => ?_⟩
  · refine
      { climbs := fun request => (course request).climbs
        failed := ?_
        told := fun request => (course request).told aloof
        flags := fun request before rest => (course request).allowed aloof before _ rest
        writes := fun request before vector rest => (course request).allowed aloof before _ rest
        written := fun request vector => (course request).written
        refused := ?_
        closed := fun live request => (course request).closed live
        replaced := ?_
        routed := fun frame => ⟨route_spared aloof met.acceptable frame,
          route_frame met.acceptable frame⟩ }
    · intro request steps failure fails
      refine perform_failed met.acceptable ?_ fails
      simp only [List.mem_cons, List.not_mem_nil, or_false] at steps
      rcases steps with rfl | rfl | rfl <;> rfl
    · intro live
      refine ⟨fun vector gate => ?_, fun stubs => ?_⟩
      · rw [Request.perform, Action.map_apply, bindGate_live live]
        rfl
      · rw [Request.perform, Action.map_apply, bindStubs_live live]
        rfl
    · intro vector gate
      rw [Request.perform, Action.map_apply, rebindGate_apply]
      exact ⟨rfl, regated_frame vector gate⟩
  · exact ⟨(leads.above met).1, (leads.above met).2, fun live vector => leads.kept met live⟩

/-- Two chips with interrupts let in. -/
def liveChips : Dispatcher ChipPair :=
  [Request.bindStubs ⟨.replicate 32 0x1000, .replicate 16 0x2000, none⟩, .loadGates, .enable].foldl
    (fun self request => (request.perform self).state) { controller := {} }

theorem met_liveChips : Met liveChips :=
  (((Met.fresh ({} : ChipPair) {}).asked _).asked .loadGates).asked .enable

/-- No gate can be bound while interrupts are let in. One can be replaced with the flag clear, and
the gates of the other vectors are then as they were. -/
theorem discipline_liveChips :
    (Controller.Aloof ChipPair ∧ Met liveChips ∧ liveChips.stage = .live) ∧
      (Request.bindGate 0x21 .missing).perform liveChips =
        ⟨.error (.refused .tableLive), liveChips, []⟩ ∧
      ((Request.rebindGate 0x21 .missing).perform liveChips).state.cpu.flag = true ∧
      ∀ vector, vector ≠ 0x21 →
        ((Request.rebindGate 0x21 .missing).perform liveChips).state.table.gate vector =
          liveChips.table.gate vector := by
  have live : liveChips.stage = .live := by decide +kernel
  have set : liveChips.cpu.flag = true := by decide +kernel
  obtain ⟨disciplined, runs⟩ := discipline ChipPair.aloof met_liveChips
  refine ⟨⟨ChipPair.aloof, met_liveChips, live⟩, (disciplined.refused live).1 _ _, ?_, ?_⟩
  · rw [(disciplined.replaced _ _).2.1, set]
  · intro vector other
    refine (runs _ _ (Leads.here.asked (.rebindGate 0x21 .missing))).2.2 live vector fun gate => ?_
    simp [other]

end Dispatcher

end MiniKernel
