/-
**Sixteen lines, each masked on its own.**

* `Controller.silences` — a mask line by line; `Controller.Request.settles` — what a request leaves
  on one line, if it is about that line; `Controller.silences_onMask` — it leaves that and no more.
* `Controller.Settles` — a computation leaves its lines as it settles them and the others alone;
  `Controller.Settles.mapM` — **over a whole sequence the last word on a line stands**.
* `ChipPair.Operation` — the requests to two chips on a bus, their reset included.
* `Controller.Plain` — a controller over a stored mask that masks no line in a way of its own.
* `Controller.lines_settle` — **what either kind of controller answers for its mask** after any
  sequence, and the one port that masking a line writes to.
-/

import MiniKernel.Proofs.Interrupt.Chips

namespace MiniKernel

open MiniKernel.Action

namespace Controller

/-! ### One line -/

/-- A set bit silences its line. -/
def silences (mask : UInt16) (line : Nat) : Bool := mask.toBitVec.getLsbD line

/-- **What a request leaves on a line**, if it is about that line. -/
def Request.settles (line : Nat) : Request → Option Bool
  | setMask mask => some (silences mask line)
  | enableLine irq => if irq.toNat = line then some false else none
  | disableLine irq => if irq.toNat = line then some true else none
  | remap .. | acknowledge _ | readMask => none

/-- **A request leaves on a line what it settles there**, and any other line alone. -/
theorem silences_onMask (request : Request) (mask : UInt16) {line : Nat} (few : line < 16) :
    silences (request.onMask mask) line = (request.settles line).getD (silences mask line) := by
  cases request with
  | remap | acknowledge | readMask | setMask => rfl
  | enableLine irq =>
    show (clearBit mask (lineBit irq)).toBitVec.getLsbD line = _
    rw [bitwise_clear.large _ _ few, bit_lineBit irq few, Request.settles]
    split
    · rename_i here
      rw [decide_eq_true here.symm, Bool.not_true, Bool.and_false]
      rfl
    · rename_i other
      rw [decide_eq_false (Ne.symm other), Bool.not_false, Bool.and_true]
      rfl
  | disableLine irq =>
    show (mask ||| lineBit irq).toBitVec.getLsbD line = _
    rw [bitwise_set.large _ _ few, bit_lineBit irq few, Request.settles]
    split
    · rename_i here
      rw [decide_eq_true here.symm, Bool.or_true]
      rfl
    · rename_i other
      rw [decide_eq_false (Ne.symm other), Bool.or_false]
      rfl

/-! ### Sequences -/

/-- **The last word on a line**: what the last of some operations left that was about it. -/
def lastSettled {ι : Type} (settles : ι → Option Bool) (operations : List ι) : Option Bool :=
  (operations.filterMap settles).getLast?

theorem getD_lastSettled_cons {ι : Type} (settles : ι → Option Bool) (operation : ι)
    (rest : List ι) (old : Bool) :
    (lastSettled settles (operation :: rest)).getD old =
      (lastSettled settles rest).getD ((settles operation).getD old) := by
  unfold lastSettled
  rw [List.filterMap_cons]
  cases settles operation with
  | none => rfl
  | some left =>
    dsimp only
    rw [List.getLast?_cons]
    rfl

section Settles

variable {C ε α ι : Type} {view : C → UInt16}

/-- **A computation settles lines**: it answers, and leaves each line as it settles it, or else as it
was. -/
def Settles (view : C → UInt16) (action : Action C ε α) (settled : Nat → Option Bool) : Prop :=
  ∀ controller, ∃ value after effects, action controller = ⟨.ok value, after, effects⟩ ∧
    ∀ line < 16, silences (view after) line = (settled line).getD (silences (view controller) line)

/-- **Over a whole sequence the last word on a line stands.** -/
theorem Settles.mapM {perform : ι → Action C ε α} {settles : Nat → ι → Option Bool}
    {operations : List ι}
    (each : ∀ operation ∈ operations, Settles view (perform operation) (settles · operation)) :
    Settles view (operations.mapM perform) fun line => lastSettled (settles line) operations := by
  induction operations with
  | nil => exact fun controller => ⟨[], controller, [], rfl, fun _ _ => rfl⟩
  | cons operation rest ih =>
    -- The rest starts from the lines as the first operation left them, and has the last word.
    obtain ⟨first, others⟩ := List.forall_mem_cons.mp each
    intro controller
    obtain ⟨value, middle, effects, ran, lines⟩ := first controller
    obtain ⟨values, after, more, ran', lines'⟩ := ih others middle
    refine ⟨value :: values, after, effects ++ more, ?_, fun line few => ?_⟩
    · rw [List.mapM_cons]
      refine bind_steps ran ?_
      rw [bind_apply_ok ran', pure_apply, List.append_nil]
    · rw [lines' line few, lines line few, getD_lastSettled_cons]

/-- A computation that answers, and leaves a controller that stores this mask. -/
def Stores (stored : C → UInt16) (action : Action C ε α) (controller : C) (value : α)
    (mask : UInt16) : Prop :=
  ∃ after effects, action controller = ⟨.ok value, after, effects⟩ ∧ stored after = mask

theorem stores_of_drives {action : Action C ε α} {controller : C} {value : α} {mask : UInt16}
    {writes : List (UInt16 × UInt8)} (drives : Drives view action controller value mask writes) :
    Stores view action controller value mask := by
  obtain ⟨after, effects, ran, seen, -⟩ := drives
  exact ⟨after, effects, ran, seen⟩

theorem Stores.map {action : Action C ε α} {controller : C} {value : α} {mask : UInt16}
    {β : Type} (stores : Stores view action controller value mask) (rename : α → β) :
    Stores view (rename <$> action) controller (rename value) mask := by
  obtain ⟨after, effects, ran, seen⟩ := stores
  refine ⟨after, effects, ?_, seen⟩
  rw [map_apply, ran]
  rfl

/-- A request that makes of the mask what it says settles the lines it is about. -/
theorem Request.settles_of_stores [Controller C] {request : Request}
    (stores : ∀ controller, Stores view request.perform controller
      (request.reply (view controller)) (request.onMask (view controller))) :
    Settles view request.perform (request.settles ·) := by
  intro controller
  obtain ⟨after, effects, ran, seen⟩ := stores controller
  refine ⟨_, after, effects, ran, fun line few => ?_⟩
  rw [seen, silences_onMask request _ few]

end Settles

end Controller

open Controller

/-! ### Two chips on a bus -/

namespace ChipPair

/-- What is asked of two chips. -/
inductive Operation
  | ask (request : Controller.Request)
  | reset

namespace Operation

/-- Carry an operation out. -/
def perform : Operation → Action ChipPair DispatchRefusal Reply
  | ask request => request.perform
  | reset => (fun _ => Reply.done) <$> ChipPair.reset

/-- The line of a request is one of sixteen. -/
def Known : Operation → Prop
  | ask request => request.Known
  | reset => True

/-- **What an operation leaves on a line**, if it is about that line; a reset is about every line. -/
def settles (line : Nat) : Operation → Option Bool
  | ask request => request.settles line
  | reset => some false

end Operation

/-- Whether a line is silenced by the latch of its chip's data port. -/
def latched (chips : ChipPair) (line : Nat) : Bool :=
  if line < 8 then (chips.bus.held masterData).toBitVec.getLsbD line
  else (chips.bus.held slaveData).toBitVec.getLsbD (line - 8)

theorem silences_lineMask (chips : ChipPair) {line : Nat} (few : line < 16) :
    silences chips.bus.lineMask line = chips.latched line :=
  bit_joinMask _ _ few

/-- **An operation settles the lines it is about.** -/
theorem Operation.settled {operation : Operation} (known : operation.Known) :
    Settles (fun chips : ChipPair => chips.bus.lineMask) operation.perform (operation.settles ·) := by
  cases operation with
  | ask request =>
    exact Request.settles_of_stores fun chips => stores_of_drives (ChipPair.serves chips known)
  | reset =>
    intro chips
    have resets : Drives (fun chips : ChipPair => chips.bus.lineMask)
        (ChipPair.reset : Action ChipPair DispatchRefusal Unit) chips () 0 _ :=
      (drives_onBus (drives_moveTo _ _)).bind fun after _ => drives_onBus (drives_writeMask 0)
    obtain ⟨after, effects, ran, seen, -⟩ := resets.map fun _ => Reply.done
    refine ⟨_, after, effects, ran, fun line _ => ?_⟩
    rw [seen]
    exact BitVec.getLsbD_zero

theorem stores_mask (chips : ChipPair) :
    Stores (fun chips : ChipPair => chips.bus.lineMask)
      (Controller.mask : Action ChipPair DispatchRefusal UInt16) chips chips.bus.lineMask
      chips.bus.lineMask :=
  stores_of_drives (drives_onBus drives_readMask)

/-- The data port of the chip that owns a line. -/
def linePort (irq : UInt8) : UInt16 := if irq < 8 then masterData else slaveData

/-- **Masking a line reads and writes the data port of its chip**, and no other. -/
theorem perform_line (chips : ChipPair) {irq : UInt8} (known : irq.toNat < lineCount)
    {request : Request} (masks : request = .enableLine irq ∨ request = .disableLine irq) :
    ∃ value, request.perform chips =
      ⟨.ok .done, ⟨chips.bus.set (linePort irq) value⟩,
        [.portRead (linePort irq), .portWrite (linePort irq) value]⟩ := by
  have port : (chipLine irq).1 = linePort irq := by
    unfold chipLine linePort
    split <;> rfl
  have few : (chipLine irq).2.toNat < 8 := by
    unfold chipLine
    unfold lineCount at known
    split
    · rename_i low
      exact UInt8.lt_iff_toNat_lt.mp low
    · rename_i high
      have above := UInt8.not_lt.mp high
      have eight : (8 : UInt8).toNat = 8 := rfl
      rw [UInt8.toNat_sub_of_le _ _ above, eight]
      omega
  have changes : ∀ change : UInt8 → UInt8 → UInt8, ∃ value,
      (onBus (changeLine change irq) : Action ChipPair DispatchRefusal Unit) chips =
        ⟨.ok (), ⟨chips.bus.set (linePort irq) value⟩,
          [.portRead (linePort irq), .portWrite (linePort irq) value]⟩ := by
    intro change
    refine ⟨change (chips.bus.held (linePort irq)) (UInt8.ofNat (1 <<< (chipLine irq).2.toNat)), ?_⟩
    unfold onBus changeLine
    rw [within_apply, changeBit_apply change _ few, port]
  rcases masks with rfl | rfl
  · obtain ⟨value, ran⟩ := changes fun old bit => old &&& ~~~bit
    refine ⟨value, ?_⟩
    rw [Request.perform, map_apply, show Controller.enableLine irq chips = _ from ran]
    rfl
  · obtain ⟨value, ran⟩ := changes fun old bit => old ||| bit
    refine ⟨value, ?_⟩
    rw [Request.perform, map_apply, show Controller.disableLine irq chips = _ from ran]
    rfl

end ChipPair

/-! ### A stored mask -/

namespace Controller

variable {C : Type} [Controller C] {stored : C → UInt16} {controller : C}

/-- **A controller over a stored mask** that masks no line in a way of its own: nothing but the
replacement of the mask changes it, and a line goes through the whole mask. -/
structure Plain (stored : C → UInt16) : Prop where
  remap (controller : C) (master slave : UInt8) :
    Stores stored (Controller.remap master slave : Action C DispatchRefusal Unit) controller ()
      (stored controller)
  acknowledge (controller : C) {irq : UInt8} (known : irq.toNat < lineCount) :
    Stores stored (Controller.acknowledge irq : Action C DispatchRefusal Unit) controller ()
      (stored controller)
  mask (controller : C) : Stores stored (Controller.mask : Action C DispatchRefusal UInt16) controller
    (stored controller) (stored controller)
  setMask (controller : C) (mask : UInt16) :
    Stores stored (Controller.setMask mask : Action C DispatchRefusal Unit) controller () mask
  enableLine (irq : UInt8) :
    (Controller.enableLine irq : Action C DispatchRefusal Unit) = throughMask clearBit irq
  disableLine (irq : UInt8) : (Controller.disableLine irq : Action C DispatchRefusal Unit) =
    throughMask (fun old bit => old ||| bit) irq

namespace Plain

theorem stores_throughMask (plain : Plain stored) (change : UInt16 → UInt16 → UInt16) {irq : UInt8}
    (known : irq.toNat < lineCount) (controller : C) :
    Stores stored (throughMask change irq : Action C DispatchRefusal Unit) controller ()
      (change (stored controller) (lineBit irq)) := by
  have bit : (Checked.bit16 irq.toNat : Answer DispatchRefusal UInt16) = .ok (lineBit irq) :=
    if_pos known
  obtain ⟨middle, reads, read, -⟩ := plain.mask controller
  obtain ⟨after, writes, wrote, seen⟩ :=
    plain.setMask middle (change (stored controller) (lineBit irq))
  refine ⟨after, reads ++ writes, bind_steps read ?_, seen⟩
  rwa [bit, bind_quiet (ask_apply _ _)]

/-- **A request settles the lines it is about.** -/
theorem settled (plain : Plain stored) {request : Request} (known : request.Known) :
    Settles stored request.perform (request.settles ·) := by
  refine Request.settles_of_stores fun controller => ?_
  cases request with
  | remap master slave => exact (plain.remap controller master slave).map _
  | acknowledge irq => exact (plain.acknowledge controller known).map _
  | readMask => exact (plain.mask controller).map _
  | setMask mask => exact (plain.setMask controller mask).map _
  | enableLine irq =>
    have through := plain.stores_throughMask clearBit known controller
    rw [← plain.enableLine] at through
    exact through.map _
  | disableLine irq =>
    have through := plain.stores_throughMask (fun old bit => old ||| bit) known controller
    rw [← plain.disableLine] at through
    exact through.map _

end Plain

/-! ### What is answered -/

/-- **The computation is carried out and the mask is asked for then**: each line is as it was settled,
or else as it was at first. -/
def ShowsLines {α : Type} (run : Action C DispatchRefusal α) (controller : C) (first : Nat → Bool)
    (settled : Nat → Option Bool) : Prop :=
  ∃ value after effects mask last reads,
    run controller = ⟨.ok value, after, effects⟩ ∧
    (Controller.mask : Action C DispatchRefusal UInt16) after = ⟨.ok mask, last, reads⟩ ∧
    ∀ line < 16, silences mask line = (settled line).getD (first line)

theorem Settles.showsLines {α : Type} {view : C → UInt16} {run : Action C DispatchRefusal α}
    {settled : Nat → Option Bool} (settles : Settles view run settled)
    (reads : ∀ controller, Stores view (Controller.mask : Action C DispatchRefusal UInt16) controller
      (view controller) (view controller)) (controller : C) :
    ShowsLines run controller (silences (view controller)) settled := by
  obtain ⟨value, after, effects, ran, lines⟩ := settles controller
  obtain ⟨last, answers, read, -⟩ := reads after
  exact ⟨value, after, effects, view after, last, answers, ran, read, lines⟩

/-- **Line masks are sixteen bits that have nothing to do with each other.** After any sequence of
operations, with lines below 16 and whatever offsets, two chips on a bus and any controller over a
stored mask answer a mask in which each line is as the last operation about it left it: silenced or
let through by name, as the last whole mask had it, or let through by a reset. A line that no
operation was about is as it was at first, on the chips as the latches had it. On the chips masking
one line reads and writes the data port of the chip that owns it and touches nothing else. -/
theorem lines_settle (plain : Plain stored) :
    (∀ (chips : ChipPair) (operations : List ChipPair.Operation),
      (∀ operation ∈ operations, operation.Known) →
      ShowsLines (operations.mapM ChipPair.Operation.perform) chips chips.latched fun line =>
        lastSettled (ChipPair.Operation.settles line) operations) ∧
    (∀ (controller : C) (requests : List Request), (∀ request ∈ requests, request.Known) →
      ShowsLines (requests.mapM Request.perform) controller (silences (stored controller)) fun line =>
        lastSettled (Request.settles line) requests) ∧
    ∀ (chips : ChipPair) (irq : UInt8), irq.toNat < lineCount → ∀ request,
      request = .enableLine irq ∨ request = .disableLine irq →
      ∃ value, Request.perform request chips =
        ⟨.ok .done, ⟨chips.bus.set (ChipPair.linePort irq) value⟩,
          [.portRead (ChipPair.linePort irq), .portWrite (ChipPair.linePort irq) value]⟩ := by
  refine ⟨fun chips operations known => ?_, fun controller requests known => ?_,
    fun chips irq known request masks => chips.perform_line known masks⟩
  · have settles := Settles.mapM fun operation member =>
      ChipPair.Operation.settled (known operation member)
    obtain ⟨value, after, effects, mask, last, reads, ran, read, lines⟩ :=
      settles.showsLines ChipPair.stores_mask chips
    refine ⟨value, after, effects, mask, last, reads, ran, read, fun line few => ?_⟩
    rw [lines line few, chips.silences_lineMask few]
  · have settles := Settles.mapM fun request member => plain.settled (known request member)
    exact settles.showsLines plain.mask controller

end Controller

theorem StoredMask.plain : Controller.Plain StoredMask.mask where
  remap controller _ _ := ⟨controller, _, rfl, rfl⟩
  acknowledge controller _ _ := ⟨controller, _, rfl, rfl⟩
  mask controller := ⟨controller, _, rfl, rfl⟩
  setMask _ mask := ⟨⟨mask⟩, _, rfl, rfl⟩
  enableLine _ := rfl
  disableLine _ := rfl

/-- Line 9 is silenced, the chips are reset and moved to offsets that nobody would accept, and line 2
is silenced. -/
def maskingOperations : List ChipPair.Operation :=
  [.ask (.disableLine 9), .reset, .ask (.remap 0 0xFF), .ask (.disableLine 2)]

/-- Line 2 is silenced then and line 9 is not, though its latch had been set at first. On a stored
mask line 4 stays silenced through the end of an interrupt on line 12. -/
theorem Controller.lines_settle_maskingOperations :
    Controller.Plain StoredMask.mask ∧
    (∀ operation ∈ maskingOperations, operation.Known) ∧
    (∃ mask last reads,
      (Controller.mask : Action ChipPair DispatchRefusal UInt16)
          (maskingOperations.mapM ChipPair.Operation.perform
            ⟨.ofLatches [(masterData, 0xFF), (slaveData, 0xFF)]⟩).state =
        ⟨.ok mask, last, reads⟩ ∧
      silences mask 2 = true ∧ silences mask 9 = false) ∧
    ∃ mask last reads,
      (Controller.mask : Action StoredMask DispatchRefusal UInt16)
          ([Request.acknowledge 12, .enableLine 3].mapM Request.perform (⟨0x18⟩ : StoredMask)).state =
        ⟨.ok mask, last, reads⟩ ∧
      silences mask 3 = false ∧ silences mask 4 = true := by
  have known : ∀ operation ∈ maskingOperations, operation.Known := by
    refine List.forall_mem_cons.mpr ⟨(by decide : (9 : UInt8).toNat < lineCount), ?_⟩
    refine List.forall_mem_cons.mpr ⟨True.intro, List.forall_mem_cons.mpr ⟨True.intro, ?_⟩⟩
    exact List.forall_mem_singleton.mpr (by decide : (2 : UInt8).toNat < lineCount)
  have lines : ∀ request ∈ [Request.acknowledge 12, .enableLine 3], request.Known := by decide
  obtain ⟨on_chips, on_stored, -⟩ := Controller.lines_settle StoredMask.plain
  obtain ⟨_, after, effects, mask, last, reads, ran, read, bits⟩ :=
    on_chips ⟨.ofLatches [(masterData, 0xFF), (slaveData, 0xFF)]⟩ maskingOperations known
  obtain ⟨_, after', effects', mask', last', reads', ran', read', bits'⟩ :=
    on_stored ⟨0x18⟩ [.acknowledge 12, .enableLine 3] lines
  refine ⟨StoredMask.plain, known, ⟨mask, last, reads, ?_, ?_, ?_⟩, mask', last', reads', ?_, ?_, ?_⟩
  · rw [ran]
    exact read
  · rw [bits 2 (by decide)]
    rfl
  · rw [bits 9 (by decide)]
    rfl
  · rw [ran']
    exact read'
  · rw [bits' 3 (by decide)]
    rfl
  · rw [bits' 4 (by decide)]
    decide

end MiniKernel
