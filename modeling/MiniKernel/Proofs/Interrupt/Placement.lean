/-
**Where the interrupt lines may arrive.**

* `Windows.Suits` — where a window of eight vectors may start; `Windows.acceptable_iff` — the offsets
  that are accepted.
* `Windows.Holds` — the vectors of a window; `Windows.Suits.holds` and `Windows.Suits.apart` — they
  are neither exceptions nor the vector of system calls, nor vectors of another window.
* `Dispatcher.Met` — the dispatchers met in a run from a fresh one, on any processor and with anything
  done to the controller on the way; `Dispatcher.Met.acceptable` — their offsets were accepted.
* `Dispatcher.windows_sound` — **the windows of a dispatcher are sound**, lines and vectors name each
  other, and a move is refused or made once.
-/

import MiniKernel.Proofs.Interrupt.Routing

namespace MiniKernel

/-! ### Windows -/

namespace Windows

variable {windows : Windows} {offset other vector : UInt8}

/-- **Where a window may start**: at a multiple of 8 from 32 to 0xF0, but not on the vector of system
calls. -/
def Suits (offset : UInt8) : Prop :=
  32 ≤ offset.toNat ∧ offset.toNat ≤ 0xF0 ∧ offset.toNat % 8 = 0 ∧ offset ≠ 0x80

theorem offsetAcceptable_iff : offsetAcceptable offset = true ↔ Suits offset := by
  constructor
  · intro fits
    obtain ⟨low, high, whole, off⟩ := bounds_of_offsetAcceptable fits
    exact ⟨low, high, whole, off⟩
  · rintro ⟨low, high, whole, off⟩
    have call : systemCallVector.toNat = 128 := rfl
    have eight : (8 : UInt8).toNat = 8 := rfl
    have stop : (offset + 8).toNat = offset.toNat + 8 := by
      rw [UInt8.toNat_add, eight]
      omega
    have apart : offset.toNat ≠ 128 := fun same => off (UInt8.toNat_inj.mp same)
    have zero : offset % 8 = 0 := by
      rw [← UInt8.toNat_inj, UInt8.toNat_mod]
      exact whole
    unfold offsetAcceptable exceptionCount
    simp only [Bool.and_eq_true, Bool.not_eq_true', Bool.and_eq_false_iff, decide_eq_true_eq,
      decide_eq_false_iff_not, beq_iff_eq, UInt8.le_iff_toNat_le, UInt8.lt_iff_toNat_lt, call, stop]
    refine ⟨⟨⟨low, zero⟩, high⟩, ?_⟩
    -- Only a window from 0x80 on meets 0x80, as windows start at multiples of their length.
    omega

theorem acceptable_iff : windows.acceptable = true ↔
    Suits windows.master ∧ Suits windows.slave ∧ windows.master ≠ windows.slave := by
  unfold acceptable
  rw [Bool.and_eq_true, Bool.and_eq_true, offsetAcceptable_iff, offsetAcceptable_iff, bne_iff_ne,
    and_assoc]

/-- The vector is one of the eight from the offset on. -/
def Holds (offset vector : UInt8) : Prop :=
  offset.toNat ≤ vector.toNat ∧ vector.toNat < offset.toNat + 8

instance : Decidable (Holds offset vector) := inferInstanceAs (Decidable (_ ∧ _))

/-- **A window meets neither the exceptions nor the vector of system calls.** -/
theorem Suits.holds (suits : Suits offset) (holds : Holds offset vector) :
    exceptionCount ≤ vector.toNat ∧ vector ≠ systemCallVector := by
  obtain ⟨low, -, whole, off⟩ := suits
  obtain ⟨above, below⟩ := holds
  refine ⟨Nat.le_trans low above, ?_⟩
  rintro rfl
  have call : systemCallVector.toNat = 128 := rfl
  exact off (UInt8.toNat_inj.mp (show offset.toNat = 128 by omega))

/-- **Two windows are equal or do not meet.** -/
theorem Suits.apart (suits : Suits offset) (also : Suits other) (differ : offset ≠ other)
    (holds : Holds offset vector) : ¬ Holds other vector := by
  obtain ⟨-, -, whole, -⟩ := suits
  obtain ⟨-, -, whole', -⟩ := also
  have differ' : offset.toNat ≠ other.toNat := fun same => differ (UInt8.toNat_inj.mp same)
  rintro ⟨above', below'⟩
  obtain ⟨above, below⟩ := holds
  omega

end Windows

/-! ### Runs -/

namespace Dispatcher

variable {C : Type} [Controller C] {self : Dispatcher C}

/-- **The dispatchers met in a run** from a fresh one, on any processor. Requests are made and frames
are routed, and controller and processor are worked on from outside. -/
inductive Met : Dispatcher C → Prop
  | fresh (controller : C) (cpu : Processor) : Met { controller, cpu }
  | asked {self : Dispatcher C} (met : Met self) (request : Request) :
    Met (request.perform self).state
  | routed {self : Dispatcher C} (met : Met self) (frame : Frame) : Met (route frame self).state
  | driven {self : Dispatcher C} (met : Met self) (controller : C) (cpu : Processor) :
    Met { self with controller, cpu }

theorem Met.acceptable (met : Met self) : self.windows.acceptable = true := by
  induction met with
  | fresh controller cpu => exact Windows.acceptable_standard
  | asked _ request ih => exact (perform_course ih request).acceptable ih
  | routed _ frame ih =>
    rw [route_frame ih]
    exact ih
  | driven _ controller cpu ih => exact ih

/-- A move to acceptable offsets is one move of the controller. -/
theorem remap_moved {master slave : UInt8} (fits : Windows.acceptable ⟨master, slave⟩ = true)
    (moves : ((Controller.remap master slave : Action C DispatchRefusal Unit)
      self.controller).result = .ok ()) :
    remap master slave self =
      ⟨.ok (),
        { self with
          controller := ((Controller.remap master slave : Action C DispatchRefusal Unit)
            self.controller).state
          windows := ⟨master, slave⟩ },
        ((Controller.remap master slave : Action C DispatchRefusal Unit) self.controller).effects ++
          [.report (.controllerRemapped master slave)]⟩ := by
  cases driven : (Controller.remap master slave : Action C DispatchRefusal Unit)
      self.controller with
  | mk result controller effects =>
    rw [driven] at moves
    cases result with
    | ok value => exact remap_accepted fits driven
    | error failure => cases moves

/-- **Both windows lie between the exceptions and 0xF7**, off the vector of system calls and off each
other. Every line has a vector and every vector is looked up without an overflow, and a line is found
on just the vector it arrives on. A move to other offsets is one move of the controller, if each is a
multiple of 8 from 32 to 0xF0 other than 0x80 and they differ, and is refused with nothing touched
otherwise. -/
theorem windows_sound (met : Met self)
    (moves : ∀ master slave : UInt8, Windows.acceptable ⟨master, slave⟩ = true →
      ((Controller.remap master slave : Action C DispatchRefusal Unit) self.controller).result =
        .ok ()) :
    (∀ offset ∈ [self.windows.master, self.windows.slave],
      32 ≤ offset.toNat ∧ offset.toNat + 7 ≤ 0xF7 ∧
        ∀ vector, Windows.Holds offset vector →
          exceptionCount ≤ vector.toNat ∧ vector ≠ systemCallVector) ∧
    (∀ vector, Windows.Holds self.windows.master vector →
      ¬ Windows.Holds self.windows.slave vector) ∧
    (∀ irq : UInt8, irq.toNat < lineCount → ∃ vector,
      (self.windows.vector irq : Answer DispatchRefusal UInt8) = .ok vector) ∧
    (∀ vector : UInt8, ∃ line,
      (self.windows.line? vector : Answer DispatchRefusal (Option UInt8)) = .ok line ∧
      ∀ irq : UInt8, line = some irq ↔ irq.toNat < lineCount ∧
        (self.windows.vector irq : Answer DispatchRefusal UInt8) = .ok vector) ∧
    ∀ master slave : UInt8,
      (Windows.Suits master ∧ Windows.Suits slave ∧ master ≠ slave →
        remap master slave self =
          ⟨.ok (),
            { self with
              controller := ((Controller.remap master slave : Action C DispatchRefusal Unit)
                self.controller).state
              windows := ⟨master, slave⟩ },
            ((Controller.remap master slave : Action C DispatchRefusal Unit)
              self.controller).effects ++ [.report (.controllerRemapped master slave)]⟩) ∧
      (¬ (Windows.Suits master ∧ Windows.Suits slave ∧ master ≠ slave) →
        remap master slave self =
          ⟨.error (.refused (.invalidOffsets master slave)), self, []⟩) := by
  have fits := met.acceptable
  obtain ⟨master, slave, differ⟩ := Windows.acceptable_iff.mp fits
  refine ⟨?_, fun vector => master.apart slave differ, ?_, ?_, fun to_master to_slave => ⟨?_, ?_⟩⟩
  · have placed : ∀ offset : UInt8, Windows.Suits offset →
        32 ≤ offset.toNat ∧ offset.toNat + 7 ≤ 0xF7 ∧
          ∀ vector, Windows.Holds offset vector →
            exceptionCount ≤ vector.toNat ∧ vector ≠ systemCallVector := fun offset suits =>
      ⟨suits.1, Nat.add_le_add_right suits.2.1 7, fun _ => suits.holds⟩
    exact List.forall_mem_cons.mpr ⟨placed _ master, List.forall_mem_singleton.mpr (placed _ slave)⟩
  · exact fun irq known => ⟨_, Windows.vector_eq_ok fits known⟩
  · exact fun vector => ⟨_, Windows.line?_eq_ok fits vector,
      fun irq => Windows.lineAt_eq_some_iff_vector fits⟩
  · intro suits
    have accepted : Windows.acceptable ⟨to_master, to_slave⟩ = true :=
      Windows.acceptable_iff.mpr suits
    exact remap_moved accepted (moves to_master to_slave accepted)
  · intro unsuited
    refine remap_refused (Bool.eq_false_iff.mpr fun accepted => ?_)
    exact unsuited (Windows.acceptable_iff.mp accepted)

/-- Two chips moved to the highest window and to the one right below the vector of system calls. -/
def edgeSample : Dispatcher ChipPair :=
  ((Request.remap 0xF0 0x78).perform { controller := {} }).state

/-- The last line arrives on 0x7F and the first one on 0xF0; 0x80 and 0xF8 are no offsets. -/
theorem windows_sound_edgeSample :
    (Met edgeSample ∧ ∀ master slave : UInt8, Windows.acceptable ⟨master, slave⟩ = true →
      ((Controller.remap master slave : Action ChipPair DispatchRefusal Unit)
        edgeSample.controller).result = .ok ()) ∧
    (edgeSample.windows.line? 0x7F : Answer DispatchRefusal (Option UInt8)) = .ok (some 15) ∧
    (edgeSample.windows.line? 0xF8 : Answer DispatchRefusal (Option UInt8)) = .ok none ∧
    remap 0x80 0x28 edgeSample =
      ⟨.error (.refused (.invalidOffsets 0x80 0x28)), edgeSample, []⟩ ∧
    (remap 0x28 0xF0 edgeSample).result = .ok () := by
  have met : Met edgeSample := (Met.fresh ({} : ChipPair) {}).asked (.remap 0xF0 0x78)
  have moves : ∀ master slave : UInt8, Windows.acceptable ⟨master, slave⟩ = true →
      ((Controller.remap master slave : Action ChipPair DispatchRefusal Unit)
        edgeSample.controller).result = .ok () := fun _ _ _ => rfl
  have placed : edgeSample.windows = ⟨0xF0, 0x78⟩ := by
    decide +kernel
  obtain ⟨_, _, _, lines, moving⟩ := windows_sound met moves
  refine ⟨⟨met, moves⟩, ?_, ?_, (moving 0x80 0x28).2 fun suits => suits.1.2.2.2 rfl, ?_⟩
  · obtain ⟨line, found, names⟩ := lines 0x7F
    rw [found, (names 15).mpr ⟨by decide, by rw [placed]; rfl⟩]
  · obtain ⟨line, found, names⟩ := lines 0xF8
    rw [found]
    cases line with
    | none => rfl
    | some irq =>
      rw [placed] at found
      cases found
  · rw [(moving 0x28 0xF0).1 ⟨?_, ?_, by decide⟩]
    · exact ⟨by decide, by decide, by decide, by decide⟩
    · exact ⟨by decide, by decide, by decide, by decide⟩

end Dispatcher

end MiniKernel
