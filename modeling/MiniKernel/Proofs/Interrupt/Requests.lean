/-
**What the interrupt dispatcher is asked, and all that can come of it.**

* `Windows.place` — the vector of a line; with acceptable offsets its sum never overflows
  (`Windows.vector_eq_ok`).
* `Dispatcher.bindStubs_apply`, `Dispatcher.loadGates_cases` and the like — each operation inverted
  once.
* `Dispatcher.Request`, `Dispatcher.Request.perform`, `Dispatcher.Course` — the requests and the ways
  each can go, over any controller.
* `Dispatcher.perform_course` — **every request goes one of these ways**, and
  `Dispatcher.Course.acceptable` — none makes the offsets unacceptable.
-/

import Mathlib.Tactic.ByContra
import MiniKernel.Interrupt.Dispatcher

namespace MiniKernel

/-! ### The vectors of the lines -/

namespace Windows

variable {ε : Type} {windows : Windows} {irq : UInt8}

/-- The vector a line arrives on, as far as bytes go. -/
def place (windows : Windows) (irq : UInt8) : UInt8 :=
  if irq < 8 then windows.master + irq else windows.slave + (irq - 8)

theorem addBytes_eq_ok {left right : UInt8} (fits : left.toNat + right.toNat < byteLimit) :
    (addBytes left right : Answer ε UInt8) = .ok (left + right) := by
  rw [addBytes, Checked.add_eq_ok fits]
  show (.ok (UInt8.ofNat (left.toNat + right.toNat)) : Answer ε UInt8) = _
  rw [UInt8.ofNat_add, UInt8.ofNat_toNat, UInt8.ofNat_toNat]

theorem le_of_offsetAcceptable {offset : UInt8} (fits : offsetAcceptable offset = true) :
    offset.toNat ≤ 0xF0 := by
  unfold offsetAcceptable at fits
  simp only [Bool.and_eq_true, decide_eq_true_eq] at fits
  exact UInt8.le_iff_toNat_le.mp fits.1.2

/-- **With acceptable offsets every line has a vector.** -/
theorem vector_eq_ok (fits : windows.acceptable = true) (known : irq.toNat < lineCount) :
    (windows.vector irq : Answer ε UInt8) = .ok (windows.place irq) := by
  unfold acceptable at fits
  simp only [Bool.and_eq_true] at fits
  have master := le_of_offsetAcceptable fits.1.1
  have slave := le_of_offsetAcceptable fits.1.2
  unfold lineCount at known
  unfold vector place
  by_cases low : irq < 8
  · rw [if_pos low, if_pos low]
    have small : irq.toNat < 8 := UInt8.lt_iff_toNat_lt.mp low
    refine addBytes_eq_ok ?_
    unfold byteLimit
    omega
  · rw [if_neg low, if_neg low]
    have large : (8 : UInt8) ≤ irq := UInt8.not_lt.mp low
    have rest : (irq - 8).toNat = irq.toNat - 8 := UInt8.toNat_sub_of_le _ _ large
    refine addBytes_eq_ok ?_
    unfold byteLimit
    omega

/-- The vectors all lines arrive on. -/
def places (windows : Windows) : List UInt8 :=
  (List.range lineCount).map fun irq => windows.place (UInt8.ofNat irq)

theorem acceptable_standard : standard.acceptable = true := by decide

end Windows

/-! ### The gates of the entry stubs -/

namespace Stubs

/-- The gates of the exception stubs. -/
def exceptionGates (stubs : Stubs) : List (UInt8 × Gate) :=
  (List.finRange 32).map fun vector : Fin 32 =>
    (UInt8.ofNat vector, ⟨stubs.exceptions.get vector, kernelSelector, kernelGate⟩)

/-- The gates of the line stubs, on the vectors the lines arrive on. -/
def lineGates (stubs : Stubs) (windows : Windows) : List (UInt8 × Gate) :=
  (List.finRange 16).map fun irq : Fin 16 =>
    (windows.place (UInt8.ofNat irq), ⟨stubs.lines.get irq, kernelSelector, kernelGate⟩)

/-- The gate of the system call stub, if there is one. -/
def callGates (stubs : Stubs) : List (UInt8 × Gate) :=
  stubs.systemCall.toList.map fun address => (systemCallVector, ⟨address, kernelSelector, userGate⟩)

/-- The gates of all stubs. -/
def gates (stubs : Stubs) (windows : Windows) : List (UInt8 × Gate) :=
  stubs.exceptionGates ++ (stubs.lineGates windows ++ stubs.callGates)

end Stubs

namespace Dispatcher

variable {C ε : Type} {self : Dispatcher C}

/-! ### Gates -/

/-- The dispatcher with one gate replaced. -/
def withGate (self : Dispatcher C) (vector : UInt8) (gate : Gate) : Dispatcher C :=
  { self with table := self.table.set vector gate }

/-- The dispatcher with gates replaced in order. -/
def withGates (self : Dispatcher C) (gates : List (UInt8 × Gate)) : Dispatcher C :=
  gates.foldl (fun self bound => self.withGate bound.1 bound.2) self

/-- What writing gates leaves. -/
def gateWrites (gates : List (UInt8 × Gate)) : List Effect :=
  gates.map fun bound => .gateWrite bound.1

/-- Everything but the gates stays when gates are replaced. -/
theorem withGates_frame (gates : List (UInt8 × Gate)) (self : Dispatcher C) :
    self.withGates gates = { self with table := (self.withGates gates).table } := by
  induction gates generalizing self with
  | nil => rfl
  | cons bound gates ih => exact ih (self.withGate bound.1 bound.2)

theorem withGates_append (first second : List (UInt8 × Gate)) (self : Dispatcher C) :
    self.withGates (first ++ second) = (self.withGates first).withGates second :=
  List.foldl_append

theorem gateWrites_append (first second : List (UInt8 × Gate)) :
    gateWrites (first ++ second) = gateWrites first ++ gateWrites second := List.map_append

theorem writeGate_apply (vector : UInt8) (gate : Gate) (self : Dispatcher C) :
    (writeGate vector gate : Action (Dispatcher C) ε Unit) self =
      ⟨.ok ⟨⟩, self.withGate vector gate, [.gateWrite vector]⟩ := rfl

theorem bindGate_live (live : self.stage = .live) (vector : UInt8) (gate : Gate) :
    bindGate vector gate self = ⟨.error (.refused .tableLive), self, []⟩ := by
  unfold bindGate
  rw [Action.bind_quiet (Action.get_apply self), if_pos live]
  rfl

theorem bindGate_idle (idle : self.stage ≠ .live) (vector : UInt8) (gate : Gate) :
    bindGate vector gate self = ⟨.ok ⟨⟩, self.withGate vector gate, [.gateWrite vector]⟩ := by
  unfold bindGate
  rw [Action.bind_quiet (Action.get_apply self), if_neg idle, writeGate_apply]

theorem onCpu_eq {α : Type} (action : Action Processor ε α) :
    onCpu action =
      Action.within Dispatcher.cpu (fun cpu (self : Dispatcher C) => { self with cpu }) action := rfl

/-- A gate replaced with the interrupt flag clear; the flag is as it was. -/
def regated (self : Dispatcher C) (vector : UInt8) (gate : Gate) : Dispatcher C :=
  if self.cpu.flag then
    { self.withGate vector gate with cpu := (self.cpu.written false).written true }
  else self.withGate vector gate

theorem rebindGate_apply (vector : UInt8) (gate : Gate) (self : Dispatcher C) :
    (rebindGate vector gate : Action (Dispatcher C) ε Unit) self =
      ⟨.ok ⟨⟩, self.regated vector gate,
        if self.cpu.flag then
          [.interruptFlag false, .gateWrite vector, .interruptFlag true]
        else [.gateWrite vector]⟩ := by
  unfold regated
  cases flag : self.cpu.flag with
  | false => exact Processor.masked_clear onCpu_eq rfl flag
  | true =>
    exact Processor.masked_set onCpu_eq rfl flag (writeGate_apply vector gate _)
      (Answer.returns_ok _)

/-! ### Entry stubs -/

theorem known_ofNat {irq : Nat} (known : irq < lineCount) :
    (UInt8.ofNat irq).toNat < lineCount := by
  unfold lineCount at *
  rw [UInt8.toNat_ofNat']
  omega

/-- A loop of writes to a table that is not in use writes the gates in order. -/
theorem forM_writes {ι : Type} {body : ι → Action (Dispatcher C) DispatchRefusal Unit}
    (windows : Windows) (bound : ι → UInt8 × Gate) (items : List ι)
    (each : ∀ item ∈ items, ∀ self : Dispatcher C, self.windows = windows → self.stage ≠ .live →
      body item self = ⟨.ok ⟨⟩, self.withGate (bound item).1 (bound item).2,
        [.gateWrite (bound item).1]⟩) (self : Dispatcher C) (here : self.windows = windows)
    (idle : self.stage ≠ .live) :
    items.forM body self = ⟨.ok ⟨⟩, self.withGates (items.map bound),
      gateWrites (items.map bound)⟩ := by
  induction items generalizing self with
  | nil => rfl
  | cons item items ih =>
    have rest := ih (fun item member => each item (List.mem_cons_of_mem _ member))
      (self.withGate (bound item).1 (bound item).2) here idle
    exact Action.bind_steps (each item List.mem_cons_self self here idle) rest

theorem bindExceptions_idle (idle : self.stage ≠ .live) (stubs : Stubs) :
    bindExceptions stubs self =
      ⟨.ok ⟨⟩, self.withGates stubs.exceptionGates, gateWrites stubs.exceptionGates⟩ := by
  unfold bindExceptions Stubs.exceptionGates
  refine forM_writes self.windows _ _ (fun vector _ self _ idle => ?_) self rfl idle
  exact bindGate_idle idle _ _

theorem bindLines_idle (fits : self.windows.acceptable = true) (idle : self.stage ≠ .live)
    (stubs : Stubs) :
    bindLines stubs self = ⟨.ok ⟨⟩, self.withGates (stubs.lineGates self.windows),
      gateWrites (stubs.lineGates self.windows)⟩ := by
  unfold bindLines Stubs.lineGates
  refine forM_writes self.windows _ _ (fun irq _ self same idle => ?_) self rfl idle
  have known := known_ofNat irq.isLt
  have placed : ((self.windows.vector (UInt8.ofNat irq.val)) : Answer DispatchRefusal UInt8) =
      .ok (self.windows.place (UInt8.ofNat irq.val)) := by
    rw [same]
    exact Windows.vector_eq_ok fits known
  rw [Action.bind_quiet (Action.get_apply _), placed, Action.bind_quiet (Action.ask_apply _ _),
    bindGate_idle idle, same]
  rfl

-- The lists of gates are known by their lemmas only.
seal Stubs.exceptionGates Stubs.lineGates

/-- **On a table that is not in use the stubs are bound**, each to its vector. -/
theorem bindStubs_idle (fits : self.windows.acceptable = true) (idle : self.stage ≠ .live)
    (stubs : Stubs) :
    bindStubs stubs self = ⟨.ok ⟨⟩, self.withGates (stubs.gates self.windows),
      gateWrites (stubs.gates self.windows)⟩ := by
  have exceptions := bindExceptions_idle idle stubs
  have framed := withGates_frame stubs.exceptionGates self
  have here : (self.withGates stubs.exceptionGates).windows = self.windows := by rw [framed]
  have still : (self.withGates stubs.exceptionGates).stage ≠ .live := by rwa [framed]
  have lines := bindLines_idle (by rwa [here]) still stubs
  rw [here] at lines
  have framed' := withGates_frame (stubs.lineGates self.windows)
    (self.withGates stubs.exceptionGates)
  have idle' : ((self.withGates stubs.exceptionGates).withGates
      (stubs.lineGates self.windows)).stage ≠ .live := by rwa [framed']
  unfold bindStubs Stubs.gates
  rw [withGates_append, withGates_append, gateWrites_append, gateWrites_append]
  refine Action.bind_steps exceptions (Action.bind_steps lines ?_)
  unfold Stubs.callGates
  cases stubs.systemCall with
  | none => rfl
  | some address => exact bindGate_idle idle' _ _

theorem bindStubs_live (live : self.stage = .live) (stubs : Stubs) :
    bindStubs stubs self = ⟨.error (.refused .tableLive), self, []⟩ := by
  have refuses : bindExceptions stubs self = ⟨.error (.refused .tableLive), self, []⟩ := by
    unfold bindExceptions
    rw [List.finRange_succ]
    exact Action.bind_apply_error (bindGate_live live _ _)
  exact Action.bind_apply_error refuses

/-! ### Coming up -/

theorem remap_refused [Controller C] {master slave : UInt8}
    (unfit : Windows.acceptable ⟨master, slave⟩ = false) :
    remap master slave self = ⟨.error (.refused (.invalidOffsets master slave)), self, []⟩ := by
  unfold remap
  rw [unfit]
  rfl

theorem remap_accepted [Controller C] {master slave : UInt8}
    (fits : Windows.acceptable ⟨master, slave⟩ = true) {result : Answer DispatchRefusal Unit}
    {controller : C} {effects : List Effect}
    (moved : Controller.remap master slave self.controller = ⟨result, controller, effects⟩) :
    remap master slave self =
      match result with
      | .ok _ => ⟨.ok ⟨⟩, { self with controller, windows := ⟨master, slave⟩ },
          effects ++ [.report (.controllerRemapped master slave)]⟩
      | .error failure => ⟨.error failure, { self with controller }, effects⟩ := by
  have run : onController (Controller.remap master slave) self =
      ⟨result, { self with controller }, effects⟩ := by
    unfold onController
    rw [Action.within_apply, moved]
  unfold remap
  rw [if_pos fits]
  cases result with
  | ok value => exact Action.bind_steps run rfl
  | error failure => exact Action.bind_apply_error run

theorem lineVectors_eq_ok {windows : Windows} (fits : windows.acceptable = true) :
    (lineVectors windows : Answer ε (List UInt8)) = .ok windows.places := by
  have each : ∀ irqs : List Nat, (∀ irq ∈ irqs, irq < lineCount) →
      (irqs.mapM fun irq => windows.vector (UInt8.ofNat irq) : Answer ε (List UInt8)) =
        .ok (irqs.map fun irq => windows.place (UInt8.ofNat irq)) := by
    intro irqs known
    induction irqs with
    | nil => rfl
    | cons irq irqs ih =>
      have placed := Windows.vector_eq_ok (ε := ε) fits (known_ofNat (known irq List.mem_cons_self))
      rw [List.mapM_cons, placed, ih fun other member => known other (List.mem_cons_of_mem _ member)]
      rfl
  exact each _ fun irq member => List.mem_range.mp member

theorem mem_exceptionRange {vector : UInt8} :
    vector ∈ exceptionRange ↔ vector.toNat < exceptionCount := by
  unfold exceptionRange
  rw [List.mem_map]
  constructor
  · rintro ⟨number, member, rfl⟩
    have small := List.mem_range.mp member
    unfold exceptionCount at *
    rw [UInt8.toNat_ofNat']
    omega
  · exact fun small => ⟨vector.toNat, List.mem_range.mpr small, UInt8.ofNat_toNat⟩

/-- The vectors the table must have gates for before it is loaded. -/
def required (self : Dispatcher C) : List UInt8 := exceptionRange ++ self.windows.places

/-- The dispatcher with the processor pointed at the table. -/
def withTable (self : Dispatcher C) : Dispatcher C :=
  { self with cpu := { self.cpu with table := some GateTable.pointer }, stage := .loaded }

theorem loadGates_live (live : self.stage = .live) :
    loadGates self = ⟨.error (.refused (.invalidState .live)), self, []⟩ := by
  unfold loadGates
  rw [Action.bind_quiet (Action.get_apply self), if_pos live, live]
  rfl

/-- The table is not loaded as long as a gate is missing. -/
theorem loadGates_missing (fits : self.windows.acceptable = true) (idle : self.stage ≠ .live)
    {vector : UInt8} (missing : self.table.firstUnbound self.required = some vector) :
    loadGates self = ⟨.error (.refused (.missingGate vector)), self, []⟩ := by
  unfold required GateTable.firstUnbound at missing
  rw [List.find?_append] at missing
  unfold loadGates
  rw [Action.bind_quiet (Action.get_apply self), if_neg idle]
  cases exceptions : self.table.firstUnbound exceptionRange with
  | some first =>
    unfold GateTable.firstUnbound at exceptions
    rw [exceptions] at missing
    cases missing
    rfl
  | none =>
    unfold GateTable.firstUnbound at exceptions
    rw [exceptions, Option.none_or] at missing
    simp only
    rw [lineVectors_eq_ok fits, Action.bind_quiet (Action.ask_apply _ _)]
    unfold GateTable.firstUnbound
    rw [missing]
    rfl

/-- **The table is loaded once no gate is missing.** -/
theorem loadGates_covered (fits : self.windows.acceptable = true) (idle : self.stage ≠ .live)
    (covered : self.table.firstUnbound self.required = none) :
    loadGates self = ⟨.ok ⟨⟩, self.withTable,
      [.tableLoad GateTable.pointer, .report (.gatesLoaded 256)]⟩ := by
  unfold required GateTable.firstUnbound at covered
  rw [List.find?_append, Option.or_eq_none_iff] at covered
  obtain ⟨exceptions, lines⟩ := covered
  have exceptions' : self.table.firstUnbound exceptionRange = none := exceptions
  have lines' : self.table.firstUnbound self.windows.places = none := lines
  unfold loadGates
  rw [Action.bind_quiet (Action.get_apply self), if_neg idle]
  simp only [exceptions']
  rw [lineVectors_eq_ok fits, Action.bind_quiet (Action.ask_apply _ _)]
  simp only [lines']
  rfl

theorem arm_loaded (loaded : self.stage = .loaded) :
    arm self = ⟨.ok ⟨⟩, { self with stage := .live }, [.report .interruptsOn]⟩ := by
  unfold arm
  rw [Action.bind_quiet (Action.get_apply self), if_pos loaded]
  rfl

theorem arm_unloaded (unloaded : self.stage ≠ .loaded) :
    arm self = ⟨.error (.refused (.invalidState self.stage)), self, []⟩ := by
  unfold arm
  rw [Action.bind_quiet (Action.get_apply self), if_neg unloaded]
  rfl

theorem enable_loaded (loaded : self.stage = .loaded) :
    enable self = ⟨.ok ⟨⟩, { self with stage := .live, cpu := self.cpu.written true },
      [.report .interruptsOn, .interruptFlag true]⟩ :=
  Action.bind_steps (arm_loaded loaded) rfl

theorem enable_unloaded (unloaded : self.stage ≠ .loaded) :
    enable self = ⟨.error (.refused (.invalidState self.stage)), self, []⟩ :=
  Action.bind_apply_error (arm_unloaded unloaded)

/-! ### Handlers and lines -/

theorem register_apply (vector : UInt8) (handler : Handler) (self : Dispatcher C) :
    (register vector handler : Action (Dispatcher C) ε (Option Handler)) self =
      ⟨.ok (self.handler? vector), self.withHandler vector (some handler), []⟩ := rfl

theorem requireLine_known {irq : UInt8} (known : irq.toNat < lineCount) (self : Dispatcher C) :
    requireLine irq self = ⟨.ok ⟨⟩, self, []⟩ := by
  unfold requireLine
  rw [if_pos known]
  rfl

theorem requireLine_unknown {irq : UInt8} (unknown : ¬irq.toNat < lineCount)
    (self : Dispatcher C) :
    requireLine irq self = ⟨.error (.refused (.invalidVector irq.toNat)), self, []⟩ := by
  unfold requireLine
  rw [if_neg unknown]
  rfl

theorem registerLine_known (fits : self.windows.acceptable = true) {irq : UInt8}
    (known : irq.toNat < lineCount) (handler : Handler) :
    registerLine irq handler self = ⟨.ok (self.handler? (self.windows.place irq)),
      self.withHandler (self.windows.place irq) (some handler), []⟩ := by
  unfold registerLine
  rw [Action.bind_quiet (requireLine_known known self), Action.bind_quiet (Action.get_apply self),
    Windows.vector_eq_ok fits known, Action.bind_quiet (Action.ask_apply _ _), register_apply]

theorem registerLine_unknown {irq : UInt8} (unknown : ¬irq.toNat < lineCount) (handler : Handler) :
    registerLine irq handler self =
      ⟨.error (.refused (.invalidVector irq.toNat)), self, []⟩ :=
  Action.bind_apply_error (requireLine_unknown unknown self)

/-- A line operation is refused for an unknown line, and the controller's own otherwise. -/
theorem onLine_apply {irq : UInt8} {work : Action C DispatchRefusal Unit}
    {result : Answer DispatchRefusal Unit} {controller : C} {effects : List Effect}
    (driven : work self.controller = ⟨result, controller, effects⟩) :
    (do requireLine irq; onController work : Action (Dispatcher C) DispatchRefusal Unit) self =
      if irq.toNat < lineCount then ⟨result, { self with controller }, effects⟩
      else ⟨.error (.refused (.invalidVector irq.toNat)), self, []⟩ := by
  split
  · rename_i known
    rw [Action.bind_quiet (requireLine_known known self), onController, Action.within_apply, driven]
  · rename_i unknown
    exact Action.bind_apply_error (requireLine_unknown unknown self)

/-! ### Requests -/

/-- What the dispatcher is asked. -/
inductive Request
  | bindGate (vector : UInt8) (gate : Gate)
  | rebindGate (vector : UInt8) (gate : Gate)
  | bindStubs (stubs : Stubs)
  | remap (master slave : UInt8)
  | loadGates
  | arm
  | enable
  | register (vector : UInt8) (handler : Handler)
  | registerLine (irq : UInt8) (handler : Handler)
  | unregister (vector : UInt8)
  | enableLine (irq : UInt8)
  | disableLine (irq : UInt8)

/-- What the dispatcher answers. -/
inductive Reply
  | done
  /-- The handler that was registered before. -/
  | replaced (handler : Option Handler)
  deriving DecidableEq, Repr

/-- Carry a request out. -/
def Request.perform [Controller C] : Request → Action (Dispatcher C) DispatchRefusal Reply
  | bindGate vector gate => (fun _ => Reply.done) <$> Dispatcher.bindGate vector gate
  | rebindGate vector gate => (fun _ => Reply.done) <$> Dispatcher.rebindGate vector gate
  | bindStubs stubs => (fun _ => Reply.done) <$> Dispatcher.bindStubs stubs
  | remap master slave => (fun _ => Reply.done) <$> Dispatcher.remap master slave
  | loadGates => (fun _ => Reply.done) <$> Dispatcher.loadGates
  | arm => (fun _ => Reply.done) <$> Dispatcher.arm
  | enable => (fun _ => Reply.done) <$> Dispatcher.enable
  | register vector handler => Reply.replaced <$> Dispatcher.register vector handler
  | registerLine irq handler => Reply.replaced <$> Dispatcher.registerLine irq handler
  | unregister vector => Reply.replaced <$> Dispatcher.unregister vector
  | enableLine irq => (fun _ => Reply.done) <$> Dispatcher.enableLine irq
  | disableLine irq => (fun _ => Reply.done) <$> Dispatcher.disableLine irq

/-- The controller's part in a request. -/
def Request.onController? [Controller C] : Request → Option (Action C DispatchRefusal Unit)
  | remap master slave => some (Controller.remap master slave)
  | enableLine irq => some (Controller.enableLine irq)
  | disableLine irq => some (Controller.disableLine irq)
  | _ => none

/-- **The ways a request can go**: its answer, the dispatcher after it and what it leaves. -/
inductive Course [Controller C] (before : Dispatcher C) :
    Request → Answer DispatchRefusal Reply → Dispatcher C → List Effect → Prop
  | refused (request : Request) (cause : DispatchRefusal) :
    Course before request (.error (.refused cause)) before []
  /-- The controller itself fails. -/
  | stuck {request : Request} {work : Action C DispatchRefusal Unit}
    {failure : Failure DispatchRefusal} {controller : C} {effects : List Effect}
    (driven : request.onController? = some work)
    (fails : work before.controller = ⟨.error failure, controller, effects⟩) :
    Course before request (.error failure) { before with controller } effects
  | bound {vector : UInt8} {gate : Gate} (idle : before.stage ≠ .live) :
    Course before (.bindGate vector gate) (.ok .done) (before.withGate vector gate)
      [.gateWrite vector]
  | rebound {vector : UInt8} {gate : Gate} :
    Course before (.rebindGate vector gate) (.ok .done) (before.regated vector gate)
      (if before.cpu.flag then [.interruptFlag false, .gateWrite vector, .interruptFlag true]
      else [.gateWrite vector])
  | stubbed {stubs : Stubs} (idle : before.stage ≠ .live) :
    Course before (.bindStubs stubs) (.ok .done) (before.withGates (stubs.gates before.windows))
      (gateWrites (stubs.gates before.windows))
  | moved {master slave : UInt8} {controller : C} {effects : List Effect}
    (fits : Windows.acceptable ⟨master, slave⟩ = true)
    (driven : (Controller.remap master slave : Action C DispatchRefusal Unit) before.controller =
      ⟨.ok (), controller, effects⟩) :
    Course before (.remap master slave) (.ok .done)
      { before with controller, windows := ⟨master, slave⟩ }
      (effects ++ [.report (.controllerRemapped master slave)])
  | loaded (idle : before.stage ≠ .live)
    (covered : before.table.firstUnbound before.required = none) :
    Course before .loadGates (.ok .done) before.withTable
      [.tableLoad GateTable.pointer, .report (.gatesLoaded 256)]
  | armed (loaded : before.stage = .loaded) :
    Course before .arm (.ok .done) { before with stage := .live } [.report .interruptsOn]
  | enabled (loaded : before.stage = .loaded) :
    Course before .enable (.ok .done)
      { before with stage := .live, cpu := before.cpu.written true }
      [.report .interruptsOn, .interruptFlag true]
  | registered {vector : UInt8} {handler : Handler} :
    Course before (.register vector handler) (.ok (.replaced (before.handler? vector)))
      (before.withHandler vector (some handler)) []
  | lineRegistered {irq : UInt8} {handler : Handler} (known : irq.toNat < lineCount) :
    Course before (.registerLine irq handler)
      (.ok (.replaced (before.handler? (before.windows.place irq))))
      (before.withHandler (before.windows.place irq) (some handler)) []
  | unregistered {vector : UInt8} :
    Course before (.unregister vector) (.ok (.replaced (before.handler? vector)))
      (before.withHandler vector none) []
  | lineEnabled {irq : UInt8} {controller : C} {effects : List Effect}
    (known : irq.toNat < lineCount)
    (driven : (Controller.enableLine irq : Action C DispatchRefusal Unit) before.controller =
      ⟨.ok (), controller, effects⟩) :
    Course before (.enableLine irq) (.ok .done) { before with controller } effects
  | lineDisabled {irq : UInt8} {controller : C} {effects : List Effect}
    (known : irq.toNat < lineCount)
    (driven : (Controller.disableLine irq : Action C DispatchRefusal Unit) before.controller =
      ⟨.ok (), controller, effects⟩) :
    Course before (.disableLine irq) (.ok .done) { before with controller } effects

/-- **Every request goes one of these ways**, from acceptable offsets. -/
theorem perform_course [Controller C] (fits : self.windows.acceptable = true)
    (request : Request) :
    self.Course request (request.perform self).result (request.perform self).state
      (request.perform self).effects := by
  cases request with
  | bindGate vector gate =>
    rw [Request.perform, Action.map_apply]
    by_cases live : self.stage = .live
    · rw [bindGate_live live]
      exact .refused _ _
    · rw [bindGate_idle live]
      exact .bound live
  | rebindGate vector gate =>
    rw [Request.perform, Action.map_apply, rebindGate_apply]
    exact .rebound
  | bindStubs stubs =>
    rw [Request.perform, Action.map_apply]
    by_cases live : self.stage = .live
    · rw [bindStubs_live live]
      exact .refused _ _
    · rw [bindStubs_idle fits live]
      exact .stubbed live
  | remap master slave =>
    rw [Request.perform, Action.map_apply]
    cases unfit : Windows.acceptable ⟨master, slave⟩ with
    | false =>
      rw [remap_refused unfit]
      exact .refused _ _
    | true =>
      cases moved : (Controller.remap master slave : Action C DispatchRefusal Unit)
          self.controller with
      | mk result controller effects =>
        rw [remap_accepted unfit moved]
        cases result with
        | ok value => exact .moved unfit moved
        | error failure => exact .stuck rfl moved
  | loadGates =>
    rw [Request.perform, Action.map_apply]
    by_cases live : self.stage = .live
    · rw [loadGates_live live]
      exact .refused _ _
    · cases missing : self.table.firstUnbound self.required with
      | some vector =>
        rw [loadGates_missing fits live missing]
        exact .refused _ _
      | none =>
        rw [loadGates_covered fits live missing]
        exact .loaded live missing
  | arm =>
    rw [Request.perform, Action.map_apply]
    by_cases loaded : self.stage = .loaded
    · rw [arm_loaded loaded]
      exact .armed loaded
    · rw [arm_unloaded loaded]
      exact .refused _ _
  | enable =>
    rw [Request.perform, Action.map_apply]
    by_cases loaded : self.stage = .loaded
    · rw [enable_loaded loaded]
      exact .enabled loaded
    · rw [enable_unloaded loaded]
      exact .refused _ _
  | register vector handler => exact .registered
  | registerLine irq handler =>
    rw [Request.perform, Action.map_apply]
    by_cases known : irq.toNat < lineCount
    · rw [registerLine_known fits known]
      exact .lineRegistered known
    · rw [registerLine_unknown known]
      exact .refused _ _
  | unregister vector => exact .unregistered
  | enableLine irq =>
    cases driven : (Controller.enableLine irq : Action C DispatchRefusal Unit) self.controller with
    | mk result controller effects =>
      rw [Request.perform, Action.map_apply, enableLine, onLine_apply driven]
      by_cases known : irq.toNat < lineCount
      · rw [if_pos known]
        cases result with
        | ok value => exact .lineEnabled known driven
        | error failure => exact .stuck rfl driven
      · rw [if_neg known]
        exact .refused _ _
  | disableLine irq =>
    cases driven : (Controller.disableLine irq : Action C DispatchRefusal Unit) self.controller with
    | mk result controller effects =>
      rw [Request.perform, Action.map_apply, disableLine, onLine_apply driven]
      by_cases known : irq.toNat < lineCount
      · rw [if_pos known]
        cases result with
        | ok value => exact .lineDisabled known driven
        | error failure => exact .stuck rfl driven
      · rw [if_neg known]
        exact .refused _ _

/-- **No request makes the offsets unacceptable.** -/
theorem Course.acceptable [Controller C] {before after : Dispatcher C} {request : Request}
    {result : Answer DispatchRefusal Reply} {effects : List Effect}
    (course : before.Course request result after effects)
    (fits : before.windows.acceptable = true) : after.windows.acceptable = true := by
  cases course with
  | moved accepted driven => exact accepted
  | rebound =>
    unfold regated
    split <;> exact fits
  | stubbed idle =>
    rw [withGates_frame]
    exact fits
  | refused | stuck | bound | loaded | armed | enabled | registered | lineRegistered
  | unregistered | lineEnabled | lineDisabled => exact fits

end Dispatcher

end MiniKernel
