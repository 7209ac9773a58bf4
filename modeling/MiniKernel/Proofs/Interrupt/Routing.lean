/-
**Routing an interrupt.**

* `Windows.lineAt` — the line that arrives on a vector; with acceptable offsets it undoes
  `Windows.place` (`Windows.lineAt_eq_some_iff`), so that it is the line with this vector
  (`Windows.lineAt_eq_some_iff_vector`), and it is what is looked up (`Dispatcher.lineOf_eq_ok`).
* `Dispatcher.route_large`, `Dispatcher.route_line`, `Dispatcher.route_plain` — all that routing can
  do with a frame.
* `Dispatcher.Registered` — what a history of requests says of the handler on a vector;
  `Dispatcher.Ran.registered_iff` — the dispatchers met in runs hold just that.
* `Dispatcher.routing` — **an interrupt goes to the handler that was last registered on its
  vector**, and to no other.
-/

import MiniKernel.Interrupt.ChipPair
import MiniKernel.Proofs.History
import MiniKernel.Proofs.Interrupt.Requests

namespace MiniKernel

/-! ### The line of a vector -/

namespace Windows

variable {ε : Type} {windows : Windows} {irq vector offset : UInt8}

/-- The line that arrives on a vector, if there is one. -/
def lineAt (windows : Windows) (vector : UInt8) : Option UInt8 :=
  if windows.master.toNat ≤ vector.toNat ∧ vector.toNat < windows.master.toNat + 8 then
    some (vector - windows.master)
  else if windows.slave.toNat ≤ vector.toNat ∧ vector.toNat < windows.slave.toNat + 8 then
    some (vector - windows.slave + 8)
  else none

/-- Where an acceptable offset lies. -/
theorem bounds_of_offsetAcceptable (fits : offsetAcceptable offset = true) :
    exceptionCount ≤ offset.toNat ∧ offset.toNat ≤ 0xF0 ∧ offset.toNat % 8 = 0 ∧
      offset ≠ systemCallVector := by
  have high := le_of_offsetAcceptable fits
  unfold offsetAcceptable at fits
  simp only [Bool.and_eq_true, decide_eq_true_eq, beq_iff_eq] at fits
  obtain ⟨⟨⟨low, whole⟩, _⟩, off⟩ := fits
  refine ⟨low, high, ?_, ?_⟩
  · have zero := congrArg UInt8.toNat whole
    rw [UInt8.toNat_mod] at zero
    exact zero
  · rintro rfl
    revert off
    decide

theorem within_eq_ok (high : offset.toNat ≤ 0xF0) (vector : UInt8) :
    (within offset vector : Answer ε Bool) =
      .ok (decide (offset.toNat ≤ vector.toNat ∧ vector.toNat < offset.toNat + 8)) := by
  have eight : (8 : UInt8).toNat = 8 := rfl
  have fits : offset.toNat + (8 : UInt8).toNat < byteLimit := by
    rw [eight, byteLimit]
    omega
  have stop : (offset + 8).toNat = offset.toNat + 8 := by
    rw [UInt8.toNat_add, eight]
    omega
  rw [within, addBytes_eq_ok fits]
  show (.ok (decide (offset ≤ vector) && decide (vector < offset + 8)) : Answer ε Bool) = _
  simp only [UInt8.le_iff_toNat_le, UInt8.lt_iff_toNat_lt, stop, Bool.decide_and]

/-- Where a line arrives. -/
theorem toNat_place (fits : windows.acceptable = true) (known : irq.toNat < lineCount) :
    (windows.place irq).toNat =
      if irq.toNat < 8 then windows.master.toNat + irq.toNat
      else windows.slave.toNat + (irq.toNat - 8) := by
  unfold acceptable at fits
  simp only [Bool.and_eq_true] at fits
  have master := le_of_offsetAcceptable fits.1.1
  have slave := le_of_offsetAcceptable fits.1.2
  have eight : (8 : UInt8).toNat = 8 := rfl
  unfold lineCount at known
  unfold place
  by_cases low : irq.toNat < 8
  · rw [if_pos low, if_pos (UInt8.lt_iff_toNat_lt.mpr low), UInt8.toNat_add]
    omega
  · have large : (8 : UInt8) ≤ irq := UInt8.le_iff_toNat_le.mpr (Nat.le_of_not_lt low)
    rw [if_neg low, if_neg (UInt8.not_lt.mpr large), UInt8.toNat_add,
      UInt8.toNat_sub_of_le _ _ large]
    omega

/-- **With acceptable offsets a vector has the line that arrives on it**, and no other. -/
theorem lineAt_eq_some_iff (fits : windows.acceptable = true) :
    windows.lineAt vector = some irq ↔ irq.toNat < lineCount ∧ windows.place irq = vector := by
  have apart := fits
  unfold acceptable at apart
  simp only [Bool.and_eq_true, bne_iff_ne, ne_eq] at apart
  obtain ⟨⟨master, slave⟩, apart⟩ := apart
  obtain ⟨-, master_high, master_whole, -⟩ := bounds_of_offsetAcceptable master
  obtain ⟨-, slave_high, slave_whole, -⟩ := bounds_of_offsetAcceptable slave
  rw [← UInt8.toNat_inj] at apart
  constructor
  · intro found
    unfold lineAt at found
    split at found
    · rename_i inside
      cases found
      have line : (vector - windows.master).toNat = vector.toNat - windows.master.toNat :=
        UInt8.toNat_sub_of_le _ _ (UInt8.le_iff_toNat_le.mpr inside.1)
      have known : (vector - windows.master).toNat < lineCount := by
        rw [line, lineCount]
        omega
      refine ⟨known, UInt8.toNat_inj.mp ?_⟩
      rw [toNat_place fits known, line, if_pos (by omega)]
      omega
    · split at found
      · rename_i inside
        cases found
        have line : (vector - windows.slave + 8).toNat =
            vector.toNat - windows.slave.toNat + 8 := by
          have eight : (8 : UInt8).toNat = 8 := rfl
          rw [UInt8.toNat_add, UInt8.toNat_sub_of_le _ _ (UInt8.le_iff_toNat_le.mpr inside.1),
            eight]
          omega
        have known : (vector - windows.slave + 8).toNat < lineCount := by
          rw [line, lineCount]
          omega
        refine ⟨known, UInt8.toNat_inj.mp ?_⟩
        rw [toNat_place fits known, line, if_neg (by omega)]
        omega
      · cases found
  · rintro ⟨known, rfl⟩
    have placed := toNat_place fits known
    have few : irq.toNat < 16 := known
    unfold lineAt
    by_cases low : irq.toNat < 8
    · rw [if_pos low] at placed
      rw [if_pos (by omega)]
      refine congrArg some (UInt8.toNat_inj.mp ?_)
      rw [UInt8.toNat_sub_of_le _ _ (UInt8.le_iff_toNat_le.mpr (by omega))]
      omega
    · rw [if_neg low] at placed
      -- Both windows start at multiples of their length, so they do not meet.
      rw [if_neg (by omega), if_pos (by omega)]
      refine congrArg some (UInt8.toNat_inj.mp ?_)
      have eight : (8 : UInt8).toNat = 8 := rfl
      rw [UInt8.toNat_add, eight,
        UInt8.toNat_sub_of_le _ _ (UInt8.le_iff_toNat_le.mpr (by omega))]
      omega

/-- So it has the line whose vector it is, if any line arrives on it. -/
theorem lineAt_eq_some_iff_vector (fits : windows.acceptable = true) :
    windows.lineAt vector = some irq ↔
      irq.toNat < lineCount ∧ (windows.vector irq : Answer ε UInt8) = .ok vector := by
  rw [lineAt_eq_some_iff fits]
  refine and_congr_right fun known => ?_
  rw [vector_eq_ok fits known, Except.ok.injEq]

theorem lineAt_eq_none_iff (fits : windows.acceptable = true) :
    windows.lineAt vector = none ↔ ∀ irq : UInt8, irq.toNat < lineCount →
      (windows.vector irq : Answer ε UInt8) ≠ .ok vector := by
  simp only [Option.eq_none_iff_forall_ne_some, ne_eq, lineAt_eq_some_iff_vector (ε := ε) fits,
    not_and]

theorem line?_eq_ok (fits : windows.acceptable = true) (vector : UInt8) :
    (windows.line? vector : Answer ε (Option UInt8)) = .ok (windows.lineAt vector) := by
  unfold acceptable at fits
  simp only [Bool.and_eq_true] at fits
  rw [line?, within_eq_ok (le_of_offsetAcceptable fits.1.1),
    within_eq_ok (le_of_offsetAcceptable fits.1.2), lineAt]
  by_cases master : windows.master.toNat ≤ vector.toNat ∧ vector.toNat < windows.master.toNat + 8
  · rw [decide_eq_true master, if_pos master]
    rfl
  · rw [decide_eq_false master, if_neg master]
    by_cases slave : windows.slave.toNat ≤ vector.toNat ∧ vector.toNat < windows.slave.toNat + 8
    · rw [decide_eq_true slave, if_pos slave]
      rfl
    · rw [decide_eq_false slave, if_neg slave]
      rfl

/-- No line arrives on an exception's vector or on the vector of system calls. -/
theorem place_apart (fits : windows.acceptable = true) (known : irq.toNat < lineCount) :
    exceptionCount ≤ (windows.place irq).toNat ∧ windows.place irq ≠ systemCallVector := by
  have placed := toNat_place fits known
  unfold acceptable at fits
  simp only [Bool.and_eq_true] at fits
  obtain ⟨master_low, -, master_whole, master_off⟩ := bounds_of_offsetAcceptable fits.1.1
  obtain ⟨slave_low, -, slave_whole, slave_off⟩ := bounds_of_offsetAcceptable fits.1.2
  unfold lineCount at known
  unfold exceptionCount at *
  have call : systemCallVector.toNat = 128 := rfl
  rw [ne_eq, ← UInt8.toNat_inj, call] at master_off slave_off ⊢
  split at placed <;> omega

end Windows

/-! ### What routing does -/

namespace Frame

variable {frame : Frame} {vector : UInt8}

theorem vector?_eq_some_iff : frame.vector? = some vector ↔ frame.number.toNat = vector.toNat := by
  unfold vector?
  split
  · rename_i small
    rw [Option.some_inj, ← UInt8.toNat_inj, UInt32.toNat_toUInt8, Nat.mod_eq_of_lt small]
  · rename_i large
    have byte := vector.toNat_lt
    constructor
    · intro absurd
      cases absurd
    · intro same
      omega

theorem vector?_eq_none_iff : frame.vector? = none ↔ 255 < frame.number.toNat := by
  unfold vector?
  split
  · constructor
    · intro absurd
      cases absurd
    · intro large
      omega
  · rename_i large
    exact ⟨fun _ => Nat.lt_of_not_le fun small => large (Nat.lt_succ_of_le small), fun _ => rfl⟩

end Frame

namespace ChipPair

/-- What ends an interrupt: a word to the slave first, if the line is one of its own, and a word to
the master. -/
def endings (irq : UInt8) : List Effect :=
  if irq < 8 then [.portWrite masterCommand endOfInterrupt]
  else [.portWrite slaveCommand endOfInterrupt, .portWrite masterCommand endOfInterrupt]

/-- The chips take every acknowledgement. -/
theorem acknowledge_apply {ε : Type} (irq : UInt8) (chips : ChipPair) :
    ∃ after, (Controller.acknowledge irq : Action ChipPair ε Unit) chips =
      ⟨.ok (), after, endings irq⟩ := by
  show ∃ after, (onBus (endInterrupt irq) : Action ChipPair ε Unit) chips = _
  unfold endInterrupt endings
  by_cases low : irq < 8
  · rw [if_pos low, if_neg (UInt8.not_le.mpr low)]
    exact ⟨_, rfl⟩
  · rw [if_neg low, if_pos (UInt8.not_lt.mp low)]
    exact ⟨_, rfl⟩

theorem heeds {ε : Type} (chips : ChipPair) (irq : UInt8) (_ : irq.toNat < lineCount) :
    ((Controller.acknowledge irq : Action ChipPair ε Unit) chips).result = .ok () := by
  obtain ⟨after, acknowledged⟩ := acknowledge_apply (ε := ε) irq chips
  rw [acknowledged]

end ChipPair

namespace Dispatcher

variable {C ε : Type} {self : Dispatcher C} {frame : Frame} {vector irq : UInt8}

theorem lineOf_eq_ok {windows : Windows} (fits : windows.acceptable = true) (vector : UInt8) :
    (lineOf windows vector : Answer ε (Option UInt8)) = .ok (windows.lineAt vector) := by
  unfold lineOf
  split
  · exact Windows.line?_eq_ok fits vector
  · rename_i exception
    have off : windows.lineAt vector = none := by
      cases found : windows.lineAt vector with
      | none => rfl
      | some irq =>
        obtain ⟨known, rfl⟩ := (Windows.lineAt_eq_some_iff fits).mp found
        exact absurd (Windows.place_apart fits known).1 exception
    rw [off]
    rfl

theorem unregister_apply (vector : UInt8) (self : Dispatcher C) :
    (unregister vector : Action (Dispatcher C) ε (Option Handler)) self =
      ⟨.ok (self.handler? vector), self.withHandler vector none, []⟩ := rfl

variable [Controller C]

/-- A number that is no vector is refused. -/
theorem route_large (large : frame.vector? = none) :
    route frame self = ⟨.error (.refused (.invalidVector frame.number.toNat)), self, []⟩ := by
  unfold route
  rw [large]
  rfl

/-- **An interrupt on a line is acknowledged**, and then its vector's handler is called for, if
there is one. -/
theorem route_line (fits : self.windows.acceptable = true) (known : irq.toNat < lineCount)
    (arrives : frame.vector? = some (self.windows.place irq)) {result : Answer DispatchRefusal Unit}
    {controller : C} {effects : List Effect}
    (driven : (Controller.acknowledge irq : Action C DispatchRefusal Unit) self.controller =
      ⟨result, controller, effects⟩) :
    route frame self =
      ⟨result.map fun _ => (self.handler? (self.windows.place irq)).elim .ignore .invoke,
        { self with controller }, effects⟩ := by
  have found : self.windows.lineAt (self.windows.place irq) = some irq :=
    (Windows.lineAt_eq_some_iff fits).mpr ⟨known, rfl⟩
  have run : (onController (Controller.acknowledge irq) :
      Action (Dispatcher C) DispatchRefusal Unit) self =
        ⟨result, { self with controller }, effects⟩ := by
    unfold onController
    rw [Action.within_apply, driven]
  unfold route
  rw [arrives]
  simp only
  rw [Action.bind_quiet (Action.get_apply self), lineOf_eq_ok fits, found,
    Action.bind_quiet (Action.ask_apply _ self)]
  show (do
      onController (Controller.acknowledge irq)
      return (self.handler? (self.windows.place irq)).elim .ignore .invoke :
        Action (Dispatcher C) DispatchRefusal Route) self = _
  cases result with
  | ok value =>
    rw [Action.bind_apply_ok run, Action.pure_apply, List.append_nil]
    rfl
  | error failure => exact Action.bind_apply_error run

/-- **Any other interrupt** calls for its vector's handler, and is fatal without one. -/
theorem route_plain (fits : self.windows.acceptable = true) (arrives : frame.vector? = some vector)
    (plain : self.windows.lineAt vector = none) :
    route frame self =
      ⟨.ok ((self.handler? vector).elim (.fatal (.ofFrame frame)) .invoke), self, []⟩ := by
  unfold route
  rw [arrives]
  simp only
  rw [Action.bind_quiet (Action.get_apply self), lineOf_eq_ok fits, plain,
    Action.bind_quiet (Action.ask_apply _ self)]
  exact Action.pure_apply _ self

/-- **Routing changes nothing but the controller.** -/
theorem route_frame (fits : self.windows.acceptable = true) (frame : Frame) :
    (route frame self).state =
      { self with controller := (route frame self).state.controller } := by
  cases arrives : frame.vector? with
  | none => rw [route_large arrives]
  | some vector =>
    cases found : self.windows.lineAt vector with
    | none => rw [route_plain fits arrives found]
    | some irq =>
      obtain ⟨known, rfl⟩ := (Windows.lineAt_eq_some_iff fits).mp found
      cases driven : (Controller.acknowledge irq : Action C DispatchRefusal Unit)
          self.controller with
      | mk result controller effects => rw [route_line fits known arrives driven]

/-! ### Histories -/

/-- A request with the offsets in force when it was asked. -/
structure Event where
  windows : Windows
  request : Request

/-- Whether a request settles what is registered on a vector: a handler, or nobody. -/
def Event.Settles : Event → UInt8 → Option Handler → Prop
  | ⟨_, .register target handler⟩, vector, entry => target = vector ∧ entry = some handler
  | ⟨windows, .registerLine irq handler⟩, vector, entry => irq.toNat < lineCount ∧
    (windows.vector irq : Answer DispatchRefusal UInt8) = .ok vector ∧ entry = some handler
  | ⟨_, .unregister target⟩, vector, entry => target = vector ∧ entry = none
  | _, _, _ => False

/-- **The request that last settled a vector registered the handler there.** The history lists the
latest request first. -/
def Registered (history : List Event) (vector : UInt8) (handler : Handler) : Prop :=
  Standing history (·.Settles vector (some handler)) fun event =>
    ∃ entry, event.Settles vector entry

variable {history : List Event} {handler : Handler}

/-- **A request that settles a vector** replaces its entry and answers the handler that was
there. -/
theorem Request.settled {request : Request} {entry : Option Handler}
    (fits : self.windows.acceptable = true)
    (settles : (⟨self.windows, request⟩ : Event).Settles vector entry) :
    request.perform self =
      ⟨.ok (.replaced (self.handler? vector)), self.withHandler vector entry, []⟩ := by
  cases request with
  | register target handler =>
    obtain ⟨rfl, rfl⟩ := settles
    rw [Request.perform, Action.map_apply, register_apply]
    rfl
  | registerLine irq handler =>
    obtain ⟨known, placed, rfl⟩ := settles
    rw [Windows.vector_eq_ok fits known] at placed
    cases placed
    rw [Request.perform, Action.map_apply, registerLine_known fits known]
    rfl
  | unregister target =>
    obtain ⟨rfl, rfl⟩ := settles
    rw [Request.perform, Action.map_apply, unregister_apply]
    rfl
  | bindGate | rebindGate | bindStubs | remap | loadGates | arm | enable | enableLine
  | disableLine => exact absurd settles id

/-- What a request does not settle is as it was. -/
theorem Course.unsettled {after : Dispatcher C} {request : Request}
    {result : Answer DispatchRefusal Reply} {effects : List Effect}
    (course : self.Course request result after effects) (fits : self.windows.acceptable = true)
    (still : ¬ ∃ entry, (⟨self.windows, request⟩ : Event).Settles vector entry) :
    after.handler? vector = self.handler? vector := by
  cases course with
  | registered | unregistered =>
    rw [handler?_withHandler, if_neg fun same => still ⟨_, same, rfl⟩]
  | lineRegistered known =>
    rw [handler?_withHandler, if_neg]
    rintro rfl
    exact still ⟨_, known, Windows.vector_eq_ok fits known, rfl⟩
  | rebound =>
    unfold regated
    split <;> rfl
  | stubbed idle =>
    rw [withGates_frame]
    rfl
  | refused | stuck | bound | moved | loaded | armed | enabled | lineEnabled | lineDisabled => rfl

/-! ### Runs with their histories -/

/-- **The dispatchers met in a run from a fresh one**, with the history of what was asked. Frames
are routed on the way, and the controller is worked on from outside. -/
inductive Ran : Dispatcher C → List Event → Prop
  | fresh (controller : C) : Ran { controller } []
  | asked {self : Dispatcher C} {history : List Event} (ran : Ran self history)
    (request : Request) : Ran (request.perform self).state (⟨self.windows, request⟩ :: history)
  | routed {self : Dispatcher C} {history : List Event} (ran : Ran self history) (frame : Frame) :
    Ran (route frame self).state history
  | driven {self : Dispatcher C} {history : List Event} (ran : Ran self history)
    (controller : C) : Ran { self with controller } history

theorem Ran.acceptable (ran : Ran self history) : self.windows.acceptable = true := by
  induction ran with
  | fresh controller => exact Windows.acceptable_standard
  | asked _ request ih => exact (perform_course ih request).acceptable ih
  | routed _ frame ih =>
    rw [route_frame ih]
    exact ih
  | driven _ controller ih => exact ih

/-- **The handler on a vector is the one that was last registered there.** -/
theorem Ran.registered_iff (ran : Ran self history) :
    self.handler? vector = some handler ↔ Registered history vector handler := by
  induction ran with
  | fresh controller =>
    have vacant : ({ controller } : Dispatcher C).handler? vector = none := by
      simp [handler?]
    rw [vacant]
    exact ⟨fun found => (by cases found), fun registered => absurd registered standing_nil⟩
  | @asked self history ran request ih =>
    have fits := ran.acceptable
    unfold Registered
    rw [standing_cons]
    by_cases settles : ∃ entry, (⟨self.windows, request⟩ : Event).Settles vector entry
    · obtain ⟨entry, settles⟩ := settles
      constructor
      · intro found
        rw [Request.settled fits settles, handler?_withHandler, if_pos rfl] at found
        rw [found] at settles
        exact Or.inl settles
      · rintro (here | ⟨still, _⟩)
        · rw [Request.settled fits here, handler?_withHandler, if_pos rfl]
        · exact absurd ⟨entry, settles⟩ still
    · rw [(perform_course fits request).unsettled fits settles, ih]
      constructor
      · exact fun before => Or.inr ⟨settles, before⟩
      · rintro (here | ⟨_, before⟩)
        · exact absurd ⟨_, here⟩ settles
        · exact before
  | routed ran frame ih =>
    rw [route_frame ran.acceptable]
    exact ih
  | driven _ controller ih => exact ih

theorem Ran.vacant (ran : Ran self history)
    (nobody : ∀ handler, ¬ Registered history vector handler) : self.handler? vector = none :=
  Option.eq_none_iff_forall_ne_some.mpr fun handler found =>
    nobody handler (ran.registered_iff.mp found)

/-! ### What frames call for -/

/-- What an interrupt calls for when nobody registered for it. -/
def unclaimed (windows : Windows) (vector : UInt8) (frame : Frame) : Route :=
  if (windows.lineAt vector).isSome then .ignore else .fatal (.ofFrame frame)

/-- **An interrupt calls for the handler on its vector**, if the controller takes
acknowledgements. -/
theorem route_result (fits : self.windows.acceptable = true)
    (heeds : ∀ irq : UInt8, irq.toNat < lineCount →
      ((Controller.acknowledge irq : Action C DispatchRefusal Unit) self.controller).result =
        .ok ())
    (arrives : frame.vector? = some vector) :
    (route frame self).result =
      .ok ((self.handler? vector).elim (unclaimed self.windows vector frame) .invoke) := by
  unfold unclaimed
  cases found : self.windows.lineAt vector with
  | none => rw [route_plain fits arrives found, Option.isSome_none, if_neg Bool.false_ne_true]
  | some irq =>
    obtain ⟨known, rfl⟩ := (Windows.lineAt_eq_some_iff fits).mp found
    have heeded := heeds irq known
    cases driven : (Controller.acknowledge irq : Action C DispatchRefusal Unit)
        self.controller with
    | mk result controller effects =>
      rw [driven] at heeded
      rw [route_line fits known arrives driven, show result = .ok () from heeded,
        Option.isSome_some, if_pos rfl]
      rfl

/-- A handler is called for only if it is the one that is there. -/
theorem elim_unclaimed_iff {entry : Option Handler} {windows : Windows} :
    (.ok (entry.elim (unclaimed windows vector frame) .invoke) : Answer DispatchRefusal Route) =
      .ok (.invoke handler) ↔ entry = some handler := by
  cases entry with
  | none =>
    unfold unclaimed
    split <;> simp
  | some other => simp

/-- **An interrupt goes to the handler that was last registered on its vector**, whether that was
done by vector or by line, and to no other. Without one it is ignored if a line arrives on the
vector now, and is fatal otherwise. A number that is no vector is refused. Routing changes nothing
but the controller, and registering or removing a handler answers the one that it displaces. -/
theorem routing (ran : Ran self history)
    (heeds : ∀ irq : UInt8, irq.toNat < lineCount →
      ((Controller.acknowledge irq : Action C DispatchRefusal Unit) self.controller).result =
        .ok ()) :
    (∀ (frame : Frame) (vector : UInt8), frame.number.toNat = vector.toNat →
      (∀ handler, (route frame self).result = .ok (.invoke handler) ↔
        Registered history vector handler) ∧
      ((∀ handler, ¬ Registered history vector handler) →
        ((∃ irq : UInt8, irq.toNat < lineCount ∧
            (self.windows.vector irq : Answer DispatchRefusal UInt8) = .ok vector) →
          (route frame self).result = .ok .ignore) ∧
        ((∀ irq : UInt8, irq.toNat < lineCount →
            (self.windows.vector irq : Answer DispatchRefusal UInt8) ≠ .ok vector) →
          (route frame self).result = .ok (.fatal
            ⟨frame.number, frame.errorCode, frame.eip, frame.cs, frame.eflags⟩)))) ∧
    (∀ frame : Frame, 255 < frame.number.toNat →
      (route frame self).result = .error (.refused (.invalidVector frame.number.toNat))) ∧
    (∀ frame : Frame, (route frame self).state =
      { self with controller := (route frame self).state.controller }) ∧
    ∀ (request : Request) (vector : UInt8) (entry : Option Handler),
      (⟨self.windows, request⟩ : Event).Settles vector entry →
        ∃ old, (request.perform self).result = .ok (.replaced old) ∧
          ∀ handler, old = some handler ↔ Registered history vector handler := by
  have fits := ran.acceptable
  refine ⟨fun frame vector same => ?_, fun frame large => ?_, route_frame fits,
    fun request vector entry settles => ?_⟩
  · rw [route_result fits heeds (Frame.vector?_eq_some_iff.mpr same)]
    refine ⟨fun handler => elim_unclaimed_iff.trans ran.registered_iff, fun nobody => ?_⟩
    rw [ran.vacant nobody, Option.elim_none]
    constructor
    · rintro ⟨irq, arrives⟩
      rw [unclaimed, (Windows.lineAt_eq_some_iff_vector fits).mpr arrives]
      rfl
    · intro off
      rw [unclaimed, (Windows.lineAt_eq_none_iff fits).mpr off]
      rfl
  · rw [route_large (Frame.vector?_eq_none_iff.mpr large)]
  · rw [Request.settled fits settles]
    exact ⟨_, rfl, fun handler => ran.registered_iff⟩

/-- Two chips that were moved up and back, with a handler registered on line 9 in between. -/
def movedSample : Dispatcher ChipPair :=
  ((Request.remap 0x20 0x28).perform
    ((Request.registerLine 9 (.client "disk")).perform
      ((Request.remap 0x40 0x48).perform { controller := {} }).state).state).state

/-- What was asked of them. -/
def movedHistory : List Event :=
  [⟨⟨0x40, 0x48⟩, .remap 0x20 0x28⟩, ⟨⟨0x40, 0x48⟩, .registerLine 9 (.client "disk")⟩,
    ⟨.standard, .remap 0x40 0x48⟩]

theorem ran_movedSample : Ran movedSample movedHistory := by
  have first := (Ran.fresh ({} : ChipPair)).asked (.remap 0x40 0x48)
  have second := first.asked (.registerLine 9 (.client "disk"))
  have third := second.asked (.remap 0x20 0x28)
  exact third

theorem registered_movedHistory {vector : UInt8} {handler : Handler} :
    Registered movedHistory vector handler ↔ vector = 0x49 ∧ handler = .client "disk" := by
  have placed : (Windows.vector ⟨0x40, 0x48⟩ 9 : Answer DispatchRefusal UInt8) = .ok 0x49 := rfl
  simp [Registered, movedHistory, standing_cons, Event.Settles, placed, lineCount, eq_comm]

/-- The handler stays on the vector line 9 arrived on, and is not on the one it arrives on now. -/
theorem routing_movedSample : Ran movedSample movedHistory ∧
    (∀ irq : UInt8, irq.toNat < lineCount →
      ((Controller.acknowledge irq : Action ChipPair DispatchRefusal Unit)
        movedSample.controller).result = .ok ()) ∧
    (route { number := 0x49 } movedSample).result = .ok (.invoke (.client "disk")) ∧
    (route { number := 0x29 } movedSample).result = .ok .ignore ∧
    (route { number := 0x41, eip := 7 } movedSample).result = .ok (.fatal ⟨0x41, 0, 7, 0, 0⟩) := by
  have heeds : ∀ irq : UInt8, irq.toNat < lineCount →
      ((Controller.acknowledge irq : Action ChipPair DispatchRefusal Unit)
        movedSample.controller).result = .ok () := ChipPair.heeds movedSample.controller
  have windows : movedSample.windows = ⟨0x20, 0x28⟩ := by
    decide +kernel
  obtain ⟨calls, _⟩ := routing ran_movedSample heeds
  obtain ⟨served, _⟩ := calls { number := 0x49 } 0x49 rfl
  obtain ⟨_, unserved⟩ := calls { number := 0x29 } 0x29 rfl
  obtain ⟨_, unknown⟩ := calls { number := 0x41, eip := 7 } 0x41 rfl
  rw [windows] at unserved unknown
  refine ⟨ran_movedSample, heeds, (served _).mpr (registered_movedHistory.mpr ⟨rfl, rfl⟩),
    (unserved fun handler registered => ?_).1 ⟨9, by decide, rfl⟩,
    (unknown fun handler registered => ?_).2 ?_⟩
  · exact absurd (registered_movedHistory.mp registered).1 (by decide)
  · exact absurd (registered_movedHistory.mp registered).1 (by decide)
  · have fits : Windows.acceptable ⟨0x20, 0x28⟩ = true := by decide
    have off : Windows.lineAt ⟨0x20, 0x28⟩ 0x41 = none := by decide
    exact (Windows.lineAt_eq_none_iff fits).mp off

end Dispatcher

end MiniKernel
