/-
**A handler stays with the vector that its line arrived on.**

* `Dispatcher.Assigned` — a handler was registered for a line, and nothing was settled on its vector
  since.
* `Dispatcher.Event.Moves` — a move of the lines; `Dispatcher.Ran.unmoved` — without one the offsets
  in force are those of the registration.
* `Dispatcher.Settler` — the ways a line can come by its handler.
* `Dispatcher.line_handlers` — **which interrupts call for the handler of a line**;
  `Dispatcher.swapped_lines` — a move can hand it to another line.
-/

import MiniKernel.Proofs.Interrupt.Routing

namespace MiniKernel

namespace Dispatcher

variable {C : Type} [Controller C] {self before after : Dispatcher C} {history : List Event}
  {event : Event} {windows : Windows} {irq line vector : UInt8} {handler : Handler}

/-! ### Offsets in force -/

/-- A move of the lines that is accepted. -/
def Event.Moves : Event → Prop
  | ⟨_, .remap master slave⟩ => Windows.acceptable ⟨master, slave⟩ = true
  | _ => False

/-- **The offsets stay without a move.** -/
theorem Course.unmoved {request : Request} {result : Answer DispatchRefusal Reply}
    {effects : List Effect} (course : before.Course request result after effects)
    (still : ¬ (⟨before.windows, request⟩ : Event).Moves) : after.windows = before.windows := by
  cases course with
  | moved fits driven => exact absurd fits still
  | rebound =>
    unfold regated
    split <;> rfl
  | stubbed idle => rw [withGates_frame]
  | refused | stuck | bound | loaded | armed | enabled | registered | lineRegistered
  | unregistered | lineEnabled | lineDisabled => rfl

/-- Requests are made at acceptable offsets. -/
theorem Ran.acceptable_of_mem (ran : Ran self history) (member : event ∈ history) :
    event.windows.acceptable = true := by
  induction ran with
  | fresh controller => cases member
  | asked ran request ih =>
    rcases List.mem_cons.mp member with rfl | earlier
    · exact ran.acceptable
    · exact ih earlier
  | routed _ frame ih => exact ih member
  | driven _ controller ih => exact ih member

/-- **The offsets of a request are in force as long as the lines are not moved.** -/
theorem Ran.unmoved (ran : Ran self history)
    (standing : Standing history (fun event => event.windows = windows ∧ ¬ event.Moves)
      Event.Moves) : self.windows = windows := by
  induction ran with
  | fresh controller => exact absurd standing standing_nil
  | asked ran request ih =>
    have course := perform_course ran.acceptable request
    rcases standing_cons.mp standing with ⟨here, still⟩ | ⟨still, earlier⟩
    · exact (course.unmoved still).trans here
    · exact (course.unmoved still).trans (ih earlier)
  | routed ran frame ih =>
    rw [route_frame ran.acceptable]
    exact ih standing
  | driven _ controller ih => exact ih standing

/-! ### Handlers of lines -/

/-- **A handler was registered for a line**, and nothing was settled on its vector since. -/
def Assigned (history : List Event) (windows : Windows) (irq : UInt8) (handler : Handler) : Prop :=
  Standing history (· = ⟨windows, .registerLine irq handler⟩) fun event =>
    ∃ entry, event.Settles (windows.place irq) entry

theorem Assigned.acceptable (assigned : Assigned history windows irq handler)
    (ran : Ran self history) : windows.acceptable = true := by
  obtain ⟨since, event, before, rfl, rfl, _⟩ := assigned
  exact ran.acceptable_of_mem (List.mem_append_right _ List.mem_cons_self)

/-- The handler of a line is registered on the vector that the line arrived on. -/
theorem Assigned.registered (assigned : Assigned history windows irq handler)
    (ran : Ran self history) (known : irq.toNat < lineCount) :
    Registered history (windows.place irq) handler := by
  have fits := assigned.acceptable ran
  obtain ⟨since, event, before, rfl, rfl, kept⟩ := assigned
  exact ⟨since, _, before, rfl, ⟨known, Windows.vector_eq_ok fits known, rfl⟩, kept⟩

/-- **How a line that arrives on a vector now came by its handler**: it was registered for the
vector, for the line, or for another line that arrived there when other offsets were in force. -/
inductive Settler (now : Windows) (line vector : UInt8) (handler : Handler) : Event → Prop
  | vector {windows : Windows} : Settler now line vector handler ⟨windows, .register vector handler⟩
  | line {windows : Windows}
    (placed : (windows.vector line : Answer DispatchRefusal UInt8) = .ok vector) :
    Settler now line vector handler ⟨windows, .registerLine line handler⟩
  | moved {windows : Windows} {other : UInt8} (different : other ≠ line) (moved : windows ≠ now)
    (placed : (windows.vector other : Answer DispatchRefusal UInt8) = .ok vector) :
    Settler now line vector handler ⟨windows, .registerLine other handler⟩

/-- A registration on the vector of a line is one of these. -/
theorem Event.Settles.settler (settles : event.Settles vector (some handler))
    (fits : windows.acceptable = true) (known : line.toNat < lineCount)
    (placed : (windows.vector line : Answer DispatchRefusal UInt8) = .ok vector) :
    Settler windows line vector handler event := by
  obtain ⟨past, request⟩ := event
  cases request with
  | register target given =>
    obtain ⟨rfl, same⟩ := settles
    cases same
    exact .vector
  | registerLine other given =>
    obtain ⟨known_other, placed_other, same⟩ := settles
    cases same
    by_cases same : other = line
    · subst same
      exact .line placed_other
    · refine .moved same ?_ placed_other
      rintro rfl
      -- at the same offsets two lines have two vectors
      have first := (Windows.lineAt_eq_some_iff_vector fits).mpr ⟨known_other, placed_other⟩
      rw [(Windows.lineAt_eq_some_iff_vector fits).mpr ⟨known, placed⟩] at first
      exact same (Option.some.inj first).symm
  | unregister target =>
    obtain ⟨_, same⟩ := settles
    cases same
  | bindGate | rebindGate | bindStubs | remap | loadGates | arm | enable | enableLine
  | disableLine => exact absurd settles id

/-- An interrupt calls for the handler that is registered on its vector. -/
theorem Ran.calls (ran : Ran self history)
    (heeds : ∀ irq : UInt8, irq.toNat < lineCount →
      ((Controller.acknowledge irq : Action C DispatchRefusal Unit) self.controller).result =
        .ok ())
    (registered : Registered history vector handler) {frame : Frame}
    (same : frame.number.toNat = vector.toNat) :
    (route frame self).result = .ok (.invoke handler) := by
  rw [route_result ran.acceptable heeds (Frame.vector?_eq_some_iff.mpr same)]
  exact elim_unclaimed_iff.mpr (ran.registered_iff.mpr registered)

/-- Every interrupt on the line calls for the handler. -/
def Serves (self : Dispatcher C) (line : UInt8) (handler : Handler) : Prop :=
  ∀ (frame : Frame) (vector : UInt8),
    (self.windows.vector line : Answer DispatchRefusal UInt8) = .ok vector →
    frame.number.toNat = vector.toNat → (route frame self).result = .ok (.invoke handler)

/-- **A handler that was registered for a line stays with the vector the line arrived on.** Until
something else is settled there, every interrupt on that vector calls for it. So does every
interrupt on the line if it arrives there now, as it does unless the lines were moved since. An
interrupt on a line calls for no handler but one that was registered for its vector, for the line,
or for another line which arrived on the vector when other offsets were in force. -/
theorem line_handlers (ran : Ran self history)
    (heeds : ∀ irq : UInt8, irq.toNat < lineCount →
      ((Controller.acknowledge irq : Action C DispatchRefusal Unit) self.controller).result =
        .ok ()) :
    (∀ (windows : Windows) (irq : UInt8) (handler : Handler), irq.toNat < lineCount →
      Assigned history windows irq handler → ∃ vector,
        (windows.vector irq : Answer DispatchRefusal UInt8) = .ok vector ∧
        (∀ frame : Frame, frame.number.toNat = vector.toNat →
          (route frame self).result = .ok (.invoke handler)) ∧
        ((self.windows.vector irq : Answer DispatchRefusal UInt8) = .ok vector ∨
            Standing history (· = ⟨windows, .registerLine irq handler⟩) Event.Moves →
          self.Serves irq handler)) ∧
    ∀ (frame : Frame) (line vector : UInt8) (handler : Handler), line.toNat < lineCount →
      (self.windows.vector line : Answer DispatchRefusal UInt8) = .ok vector →
      frame.number.toNat = vector.toNat → (route frame self).result = .ok (.invoke handler) →
        Standing history (Settler self.windows line vector handler) fun event =>
          ∃ entry, event.Settles vector entry := by
  have fits := ran.acceptable
  refine ⟨fun windows irq handler known assigned => ?_,
    fun frame line vector handler known placed same calls => ?_⟩
  · have placed := Windows.vector_eq_ok (ε := DispatchRefusal) (assigned.acceptable ran) known
    have registered := assigned.registered ran known
    refine ⟨_, placed, fun frame => ran.calls heeds registered,
      fun stays frame vector here same => ran.calls heeds registered ?_⟩
    have arrives : (self.windows.vector irq : Answer DispatchRefusal UInt8) =
        .ok (windows.place irq) := by
      rcases stays with arrives | ⟨since, event, before, split, rfl, kept⟩
      · exact arrives
      · rw [ran.unmoved ⟨since, _, before, split, ⟨rfl, id⟩, kept⟩, placed]
    rw [same, Except.ok.inj (here.symm.trans arrives)]
  · rw [route_result fits heeds (Frame.vector?_eq_some_iff.mpr same)] at calls
    obtain ⟨since, event, before, split, settles, kept⟩ :=
      ran.registered_iff.mp (elim_unclaimed_iff.mp calls)
    exact ⟨since, event, before, split, settles.settler fits known placed, kept⟩

/-- Two chips with a handler on line 0, whose windows were swapped. -/
def swappedSample : Dispatcher ChipPair :=
  ((Request.remap 0x28 0x20).perform
    ((Request.registerLine 0 (.client "clock")).perform { controller := {} }).state).state

/-- What was asked of them. -/
def swappedHistory : List Event :=
  [⟨.standard, .remap 0x28 0x20⟩, ⟨.standard, .registerLine 0 (.client "clock")⟩]

theorem ran_swappedSample : Ran swappedSample swappedHistory :=
  ((Ran.fresh ({} : ChipPair)).asked (.registerLine 0 (.client "clock"))).asked (.remap 0x28 0x20)

theorem windows_swappedSample : swappedSample.windows = ⟨0x28, 0x20⟩ := by
  decide +kernel

theorem assigned_swappedHistory :
    Assigned swappedHistory .standard 0 (.client "clock") := by
  simp [Assigned, swappedHistory, standing_cons, Event.Settles]

/-- The handler of line 0 is called for on 0x20, where line 8 arrives now. -/
theorem line_handlers_swappedSample :
    (Ran swappedSample swappedHistory ∧ ∀ irq : UInt8, irq.toNat < lineCount →
      ((Controller.acknowledge irq : Action ChipPair DispatchRefusal Unit)
        swappedSample.controller).result = .ok ()) ∧
    (route { number := 0x20 } swappedSample).result = .ok (.invoke (.client "clock")) ∧
    Standing swappedHistory (Settler ⟨0x28, 0x20⟩ 8 0x20 (.client "clock")) fun event =>
      ∃ entry, event.Settles 0x20 entry := by
  obtain ⟨stays, comes⟩ := line_handlers ran_swappedSample (ChipPair.heeds _)
  obtain ⟨vector, placed, calls, _⟩ := stays _ _ _ (by decide) assigned_swappedHistory
  cases placed
  have called := calls { number := 0x20 } rfl
  rw [windows_swappedSample] at comes
  exact ⟨⟨ran_swappedSample, ChipPair.heeds _⟩, called,
    comes _ 8 0x20 _ (by decide) rfl rfl called⟩

/-- **After a swap the handler of line 0 serves line 8**, for which nothing was registered, and does
not serve line 0. -/
theorem swapped_lines :
    (¬ ∀ (self : Dispatcher ChipPair) (history : List Event) (windows : Windows) (irq : UInt8)
        (handler : Handler), Ran self history → irq.toNat < lineCount →
        Assigned history windows irq handler → self.Serves irq handler) ∧
    ¬ ∀ (self : Dispatcher ChipPair) (history : List Event) (windows : Windows) (irq line : UInt8)
        (handler : Handler), Ran self history → irq.toNat < lineCount →
        Assigned history windows irq handler → line.toNat < lineCount → line ≠ irq →
        self.Serves line handler →
          ∃ event ∈ history, event.request = .registerLine line handler := by
  constructor
  · intro always
    have serves := always _ _ _ _ _ ran_swappedSample (by decide) assigned_swappedHistory
    have called := serves { number := 0x28 } 0x28 (by rw [windows_swappedSample]; rfl) rfl
    have arrives : Frame.vector? { number := 0x28 } = some 0x28 := rfl
    rw [route_result ran_swappedSample.acceptable (ChipPair.heeds _) arrives] at called
    have vacant : swappedSample.handler? 0x28 = none := by decide +kernel
    rw [elim_unclaimed_iff.mp called] at vacant
    cases vacant
  · intro never
    have serves : swappedSample.Serves 8 (.client "clock") := by
      intro frame vector placed same
      rw [windows_swappedSample] at placed
      cases placed
      exact ran_swappedSample.calls (ChipPair.heeds _)
        (assigned_swappedHistory.registered ran_swappedSample (by decide)) same
    obtain ⟨event, member, registered⟩ := never _ _ _ _ 8 _ ran_swappedSample (by decide)
      assigned_swappedHistory (by decide) (by decide) serves
    simp only [swappedHistory, List.mem_cons, List.not_mem_nil, or_false] at member
    rcases member with rfl | rfl <;> cases registered

end Dispatcher

end MiniKernel
