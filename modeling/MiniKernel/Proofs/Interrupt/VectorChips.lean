/-
**Two drivers of one pair of chips.**

* `VectorChips.Talks` — a driver answers, with these accesses to the bus and no change of its offsets.
* `LawfulVectorChips` — **what is asked of a driver of the chips**: which accesses bring them to their
  offsets, end an interrupt, and read and write the masks. `ChainedChips` is one.
* `VectorChips.endTraffic_place` — the end of an interrupt on the vector of a line is the end of it on
  the line.
* `VectorPair.InStep` — the offsets of the driver and those beside it agree;
  `VectorPair.serves` — every request keeps them so, and is carried out.
* `Controller.pairs_agree` — **the two drivers agree**: the same answers, the same masks on the chips
  and the same commands.
-/

import MiniKernel.Interrupt.ChainedChips
import MiniKernel.Proofs.Interrupt.Chips
import MiniKernel.Proofs.Interrupt.Placement

namespace MiniKernel

open MiniKernel.Action MiniKernel.Controller

/-- **The bus after these accesses**: each port written holds what was written to it last. -/
def Bus.after (bus : Bus) (accesses : List Effect) : Bus :=
  accesses.foldl
    (fun bus access =>
      match access with
      | .portWrite port value => bus.set port value
      | _ => bus)
    bus

/-! ### What a driver of the chips promises -/

namespace VectorChips

variable {P ε α : Type} [VectorChips P]

/-- The four words of each chip and the port of each, the master's word first each time: start with a
fourth word to come, the offset, the line the chips are chained by, and 8086 mode. -/
def initWords (windows : Windows) : List (UInt16 × UInt8) :=
  [(masterCommand, 0x11), (slaveCommand, 0x11), (masterData, windows.master),
    (slaveData, windows.slave), (masterData, 4), (slaveData, 2), (masterData, 1), (slaveData, 1)]

/-- **How the chips are brought to their offsets**: the masks are read, each word is written and
given time, and the masks are written back. -/
def bringTraffic (windows : Windows) (bus : Bus) : List Effect :=
  [.portRead masterData, .portRead slaveData] ++
    (initWords windows).flatMap
      (fun word => [.portWrite word.1 word.2, .portWrite Bus.delayPort 0]) ++
    [.portWrite masterData (bus.held masterData), .portWrite slaveData (bus.held slaveData)]

/-- **How an interrupt ends on a vector**: the slave is told, if its window holds the vector, and then
the master, if either window does. -/
def endTraffic (windows : Windows) (vector : UInt8) : List Effect :=
  (if Windows.Holds windows.slave vector then [.portWrite slaveCommand 0x20] else []) ++
    if Windows.Holds windows.master vector ∨ Windows.Holds windows.slave vector then
      [.portWrite masterCommand 0x20]
    else []

/-- **The driver answers** after these accesses, and is still for the same offsets. -/
def Talks (action : Action (Wired P) ε α) (wired : Wired P) (value : α) (accesses : List Effect) :
    Prop :=
  ∃ chips, action wired = ⟨.ok value, ⟨chips, wired.bus.after accesses⟩, accesses⟩ ∧
    offsets chips = offsets wired.chips

end VectorChips

/-- **A driver of the chips that can be relied on.** It is for the offsets it was made with. Neither
window may reach the last vector when an interrupt ends. -/
class LawfulVectorChips (P : Type) [VectorChips P] : Prop where
  offsets_make (master slave : UInt8) :
    VectorChips.offsets (VectorChips.make master slave : P) = ⟨master, slave⟩
  bringUp {ε : Type} (wired : Wired P) :
    VectorChips.Talks (VectorChips.bringUp : Action (Wired P) ε Unit) wired ()
      (VectorChips.bringTraffic (VectorChips.offsets wired.chips) wired.bus)
  endInterrupt {ε : Type} (wired : Wired P) (vector : UInt8)
    (master : (VectorChips.offsets wired.chips).master.toNat + 8 < byteLimit)
    (slave : (VectorChips.offsets wired.chips).slave.toNat + 8 < byteLimit) :
    VectorChips.Talks (VectorChips.endInterrupt vector : Action (Wired P) ε Unit) wired ()
      (VectorChips.endTraffic (VectorChips.offsets wired.chips) vector)
  readMasks {ε : Type} (wired : Wired P) :
    VectorChips.Talks (VectorChips.readMasks : Action (Wired P) ε (UInt8 × UInt8)) wired
      (wired.bus.held masterData, wired.bus.held slaveData)
      [.portRead masterData, .portRead slaveData]
  writeMasks {ε : Type} (wired : Wired P) (master slave : UInt8) :
    VectorChips.Talks (VectorChips.writeMasks master slave : Action (Wired P) ε Unit) wired ()
      [.portWrite masterData master, .portWrite slaveData slave]

/-- What is looked at of a driver: the mask on the data ports, and its offsets. -/
def Wired.seen {P : Type} [VectorChips P] (wired : Wired P) : UInt16 × Windows :=
  (wired.bus.lineMask, VectorChips.offsets wired.chips)

namespace VectorChips

variable {P ε α : Type} [VectorChips P] {windows : Windows} {bus : Bus} {wired : Wired P}
  {action : Action (Wired P) ε α} {value : α} {accesses : List Effect} {irq : UInt8}

/-! ### Its accesses -/

/-- The masks that were read are written back over the words. -/
theorem lineMask_bringTraffic (windows : Windows) (bus : Bus) :
    (bus.after (bringTraffic windows bus)).lineMask = bus.lineMask := by
  simp [Bus.after, bringTraffic, initWords, Bus.lineMask, Bus.held_set, masterData, slaveData]

theorem commandWrites_bringTraffic (windows : Windows) (bus : Bus) :
    commandWrites (bringTraffic windows bus) =
      [(masterCommand, initCommand), (slaveCommand, initCommand)] := rfl

theorem lineTraffic_bringTraffic (windows : Windows) (bus : Bus) :
    LineTraffic (bringTraffic windows bus) := by
  simp [LineTraffic, bringTraffic, initWords, Effect.IsLine, chipPorts]

/-- **The end of an interrupt on the vector of a line is the end of it on the line.** -/
theorem endTraffic_place (fits : windows.acceptable = true) (known : irq.toNat < lineCount) :
    endTraffic windows (windows.place irq) = ChipPair.endings irq := by
  obtain ⟨on_master, on_slave, differ⟩ := Windows.acceptable_iff.mp fits
  have placed := Windows.toNat_place fits known
  unfold lineCount at known
  unfold endTraffic ChipPair.endings
  by_cases low : irq.toNat < 8
  · rw [if_pos low] at placed
    have here : Windows.Holds windows.master (windows.place irq) := by
      unfold Windows.Holds
      omega
    rw [if_neg (on_master.apart on_slave differ here), if_pos (Or.inl here),
      if_pos (UInt8.lt_iff_toNat_lt.mpr low)]
    rfl
  · rw [if_neg low] at placed
    have there : Windows.Holds windows.slave (windows.place irq) := by
      unfold Windows.Holds
      omega
    rw [if_pos there, if_pos (Or.inr there), if_neg fun less => low (UInt8.lt_iff_toNat_lt.mp less)]
    rfl

theorem lineMask_endings (bus : Bus) (irq : UInt8) :
    (bus.after (ChipPair.endings irq)).lineMask = bus.lineMask := by
  unfold ChipPair.endings
  split <;>
    simp [Bus.after, Bus.lineMask, Bus.held_set, masterCommand, slaveCommand, masterData, slaveData]

theorem lineTraffic_endings (irq : UInt8) : LineTraffic (ChipPair.endings irq) := by
  unfold ChipPair.endings
  split <;> simp [LineTraffic, Effect.IsLine, chipPorts]

/-! ### What a lawful driver does -/

theorem Talks.drives (talks : Talks action wired value accesses) (traffic : LineTraffic accesses) :
    Drives Wired.seen action wired value
      ((wired.bus.after accesses).lineMask, offsets wired.chips) (commandWrites accesses) := by
  obtain ⟨chips, ran, same⟩ := talks
  exact ⟨_, accesses, ran, congrArg (Prod.mk _) same, traffic, rfl⟩

variable [LawfulVectorChips P]

theorem drives_bringUp (wired : Wired P) :
    Drives Wired.seen (bringUp : Action (Wired P) ε Unit) wired () wired.seen
      [(masterCommand, initCommand), (slaveCommand, initCommand)] := by
  have brought : Drives Wired.seen (bringUp : Action (Wired P) ε Unit) wired () _ _ :=
    (LawfulVectorChips.bringUp wired).drives (lineTraffic_bringTraffic _ _)
  rwa [lineMask_bringTraffic, commandWrites_bringTraffic] at brought

theorem drives_endInterrupt (fits : (offsets wired.chips).acceptable = true)
    (known : irq.toNat < lineCount) :
    Drives Wired.seen (endInterrupt ((offsets wired.chips).place irq) : Action (Wired P) ε Unit)
      wired () wired.seen (commandWrites (ChipPair.endings irq)) := by
  obtain ⟨on_master, on_slave, -⟩ := Windows.acceptable_iff.mp fits
  have room : ∀ {offset : UInt8}, Windows.Suits offset → offset.toNat + 8 < byteLimit :=
    fun suits => Nat.lt_of_le_of_lt (Nat.add_le_add_right suits.2.1 8) (by decide)
  have ended : Talks (endInterrupt _ : Action (Wired P) ε Unit) wired () _ :=
    LawfulVectorChips.endInterrupt wired ((offsets wired.chips).place irq) (room on_master)
      (room on_slave)
  rw [endTraffic_place fits known] at ended
  have driven := ended.drives (lineTraffic_endings irq)
  rwa [lineMask_endings] at driven

theorem drives_readMasks (wired : Wired P) :
    Drives Wired.seen (readMasks : Action (Wired P) ε (UInt8 × UInt8)) wired
      (wired.bus.held masterData, wired.bus.held slaveData) wired.seen [] :=
  (LawfulVectorChips.readMasks wired).drives (by simp [LineTraffic, Effect.IsLine, chipPorts])

theorem drives_writeMasks (wired : Wired P) (mask : UInt16) :
    Drives Wired.seen
      (writeMasks mask.toUInt8 (mask >>> 8).toUInt8 : Action (Wired P) ε Unit) wired ()
      (mask, offsets wired.chips) [] := by
  have written : Drives Wired.seen (writeMasks _ _ : Action (Wired P) ε Unit) wired () _ _ :=
    (LawfulVectorChips.writeMasks wired mask.toUInt8 (mask >>> 8).toUInt8).drives
      (by simp [LineTraffic, Effect.IsLine, chipPorts])
  have halves : (wired.bus.after [.portWrite masterData mask.toUInt8,
      .portWrite slaveData (mask >>> 8).toUInt8]).lineMask = mask := by
    refine Eq.trans ?_ (joinMask_halves mask)
    simp [Bus.after, Bus.lineMask, Bus.held_set, masterData, slaveData]
  rwa [halves] at written

end VectorChips

/-! ### The offsets kept beside it -/

/-- The offsets after a request. -/
def Controller.Request.windowsAfter : Request → Windows → Windows
  | remap master slave, _ => ⟨master, slave⟩
  | _, windows => windows

namespace VectorPair

variable {P ε α : Type} [VectorChips P] {pair : VectorPair P} {irq : UInt8}

/-- **The two copies of the offsets agree**, on offsets that were accepted. -/
structure InStep (pair : VectorPair P) : Prop where
  same : VectorChips.offsets pair.chips = pair.windows
  fits : pair.windows.acceptable = true

/-- What is looked at: the mask on the data ports and both copies of the offsets. -/
def seen (pair : VectorPair P) : UInt16 × Windows × Windows :=
  (pair.bus.lineMask, VectorChips.offsets pair.chips, pair.windows)

theorem drives_onChips {action : Action (Wired P) ε α} {value : α} {mask : UInt16}
    {windows : Windows} {writes : List (UInt16 × UInt8)}
    (drives : Drives Wired.seen action pair.toWired value (mask, windows) writes) :
    Drives seen (onChips action) pair value (mask, windows, pair.windows) writes :=
  drives.within fun _ same =>
    congrArg (fun shown : UInt16 × Windows => (shown.1, shown.2, pair.windows)) same

variable [LawfulVectorChips P]

/-- **A move brings the driver and the copy beside it to the same offsets.** -/
theorem drives_remap (pair : VectorPair P) (master slave : UInt8) :
    Drives seen (Controller.remap master slave : Action (VectorPair P) ε Unit) pair ()
      (pair.bus.lineMask, ⟨master, slave⟩, ⟨master, slave⟩)
      [(masterCommand, initCommand), (slaveCommand, initCommand)] := by
  let made : VectorPair P := { pair with chips := VectorChips.make master slave }
  have brought : Drives seen (onChips VectorChips.bringUp : Action (VectorPair P) ε Unit) made ()
      (made.bus.lineMask, VectorChips.offsets made.chips, made.windows) _ :=
    drives_onChips (VectorChips.drives_bringUp made.toWired)
  refine Drives.quiet (modify_apply _ pair) (brought.bind fun after same => ?_)
  refine ⟨_, [], rfl, ?_, List.forall_mem_nil _, rfl⟩
  have at_mask : after.bus.lineMask = pair.bus.lineMask := congrArg Prod.fst same
  have at_offsets : VectorChips.offsets after.chips = ⟨master, slave⟩ :=
    (congrArg (fun shown : UInt16 × Windows × Windows => shown.2.1) same).trans
      (LawfulVectorChips.offsets_make master slave)
  show (after.bus.lineMask, VectorChips.offsets after.chips, Windows.mk master slave) = _
  rw [at_mask, at_offsets]

/-- The vector the line is turned into by one copy is looked up by the other one. -/
theorem drives_acknowledge (in_step : pair.InStep) (known : irq.toNat < lineCount) :
    Drives seen (Controller.acknowledge irq : Action (VectorPair P) ε Unit) pair () pair.seen
      (commandWrites (ChipPair.endings irq)) := by
  have fits : (VectorChips.offsets pair.chips).acceptable = true := in_step.same ▸ in_step.fits
  have ended : Drives Wired.seen (VectorChips.endInterrupt
      ((VectorChips.offsets pair.chips).place irq) : Action (Wired P) ε Unit) pair.toWired () _ _ :=
    VectorChips.drives_endInterrupt fits known
  rw [in_step.same] at ended
  refine Drives.quiet (get_apply pair) (Drives.quiet ?_ (drives_onChips ended))
  rw [Windows.vector_eq_ok in_step.fits known, ask_apply]

theorem drives_mask (pair : VectorPair P) :
    Drives seen (Controller.mask : Action (VectorPair P) ε UInt16) pair pair.bus.lineMask pair.seen
      [] :=
  drives_onChips ((VectorChips.drives_readMasks pair.toWired).map fun masks =>
    joinMask masks.1 masks.2)

theorem drives_setMask (pair : VectorPair P) (mask : UInt16) :
    Drives seen (Controller.setMask mask : Action (VectorPair P) ε Unit) pair ()
      (mask, VectorChips.offsets pair.chips, pair.windows) [] :=
  drives_onChips (VectorChips.drives_writeMasks pair.toWired mask)

/-- **Each request is carried out, and moves both copies of the offsets or none.** -/
theorem serves (pair : VectorPair P) {request : Request} (fits : request.Fits)
    (able : request.Ends → pair.InStep) :
    request.perform.Drives seen pair (request.reply pair.bus.lineMask)
      (request.onMask pair.bus.lineMask, request.windowsAfter (VectorChips.offsets pair.chips),
        request.windowsAfter pair.windows)
      request.commands := by
  have through (change : UInt16 → UInt16 → UInt16) {irq : UInt8} (known : irq.toNat < lineCount) :
      Drives seen (throughMask change irq : Action (VectorPair P) DispatchRefusal Unit) pair ()
        (change pair.bus.lineMask (lineBit irq), pair.seen.2) [] :=
    drives_throughMask (·, pair.seen.2) (drives_mask pair)
      (fun after same mask => congrArg Prod.snd same ▸ drives_setMask after mask) change known
  cases request with
  | remap master slave => exact (drives_remap pair master slave).map _
  | acknowledge irq => exact (drives_acknowledge (able True.intro) fits).map _
  | readMask => exact (drives_mask pair).map _
  | setMask mask => exact (drives_setMask pair mask).map _
  | enableLine irq => exact (through clearBit fits).map _
  | disableLine irq => exact (through (fun old bit => old ||| bit) fits).map _

/-- **The driver told by vector does what is asked**, as long as the two copies agree. -/
theorem follows :
    Follows (fun pair : VectorPair P => pair.bus.lineMask) InStep Request.commands where
  serve pair _ fits able := (serves pair fits able).part Prod.fst
  ready {pair request} fits able := by
    obtain ⟨after, effects, ran, same, -⟩ :=
      serves pair fits fun ends => able.resolve_left ends.not_moves
    have here : VectorChips.offsets after.chips =
        request.windowsAfter (VectorChips.offsets pair.chips) := congrArg (·.2.1) same
    have there : after.windows = request.windowsAfter pair.windows := congrArg (·.2.2) same
    rw [ran]
    cases request with
    | remap master slave => exact ⟨here.trans there.symm, there ▸ fits⟩
    | acknowledge | readMask | setMask | enableLine | disableLine =>
      have in_step : pair.InStep := able.resolve_left id
      exact ⟨here.trans (in_step.same.trans there.symm), there ▸ in_step.fits⟩

instance : LawfulController (VectorPair P) := follows.lawful

end VectorPair

/-! ### The two drivers -/

/-- **The two drivers of the chips agree.** From the standard offsets and the same latches they give
the same answers to every sequence of requests, leave the same mask on each chip, and write the same
commands in the same order. -/
theorem Controller.pairs_agree {P : Type} [VectorChips P] [LawfulVectorChips P] {chips : ChipPair}
    {pair : VectorPair P} {requests : List Controller.Request}
    (latches : ∀ port, chips.bus.latch? port = pair.bus.latch? port)
    (made : VectorChips.offsets pair.chips = .standard) (standard : pair.windows = .standard)
    (fits : ∀ request ∈ requests, request.Fits) :
    ∃ replies chips_after pair_after chips_effects pair_effects,
      requests.mapM Request.perform chips = ⟨.ok replies, chips_after, chips_effects⟩ ∧
      requests.mapM Request.perform pair = ⟨.ok replies, pair_after, pair_effects⟩ ∧
      chips_after.bus.held masterData = pair_after.bus.held masterData ∧
      chips_after.bus.held slaveData = pair_after.bus.held slaveData ∧
      commandWrites chips_effects = commandWrites pair_effects := by
  have same : chips.bus.lineMask = pair.bus.lineMask := by
    unfold Bus.lineMask Bus.held
    rw [latches, latches]
  have in_step : pair.InStep := ⟨made.trans standard.symm, standard ▸ Windows.acceptable_standard⟩
  have by_chips : Drives _ (requests.mapM Request.perform) chips _ _ _ :=
    ChipPair.follows.performAll fits True.intro
  have by_pair : Drives _ (requests.mapM Request.perform) pair _ _ _ :=
    VectorPair.follows.performAll fits in_step
  obtain ⟨chips_after, chips_effects, chips_ran, chips_mask, -, chips_wrote⟩ := by_chips
  obtain ⟨pair_after, pair_effects, pair_ran, pair_mask, -, pair_wrote⟩ := by_pair
  rw [same] at chips_ran chips_mask
  obtain ⟨master, slave⟩ := joinMask_inj (chips_mask.trans pair_mask.symm)
  exact ⟨_, chips_after, pair_after, chips_effects, pair_effects, chips_ran, pair_ran, master, slave,
    chips_wrote.trans pair_wrote.symm⟩

/-! ### A driver at the usual ports -/

namespace ChainedChips

variable {ε : Type} {chips : ChainedChips}

/-- A chip delivers the vectors of its window. -/
theorem delivers_eq_ok {chip : Chip} (fits : chip.offset.toNat + 8 < byteLimit) (vector : UInt8) :
    (chip.delivers vector : Answer ε Bool) = .ok (decide (Windows.Holds chip.offset vector)) := by
  have stop : (Windows.addBytes chip.offset 8 : Answer ε UInt8) = .ok (chip.offset + 8) :=
    Windows.addBytes_eq_ok fits
  have above : (chip.offset + 8).toNat = chip.offset.toNat + 8 := by
    rw [UInt8.toNat_add]
    exact Nat.mod_eq_of_lt fits
  unfold Chip.delivers
  rw [stop]
  by_cases low : chip.offset ≤ vector
  · have inside : vector < chip.offset + 8 ↔ Windows.Holds chip.offset vector := by
      rw [UInt8.lt_iff_toNat_lt, above]
      exact ⟨fun below => ⟨UInt8.le_iff_toNat_le.mp low, below⟩, And.right⟩
    rw [if_pos low, ← decide_eq_decide.mpr inside]
    rfl
  · have outside : ¬Windows.Holds chip.offset vector :=
      fun holds => low (UInt8.le_iff_toNat_le.mpr holds.1)
    rw [if_neg low, decide_eq_false outside]
    rfl

/-- The end of an interrupt asks each chip whether it delivers the vector. -/
theorem finish_apply (master : chips.offsets.master.toNat + 8 < byteLimit)
    (slave : chips.offsets.slave.toNat + 8 < byteLimit) (vector : UInt8) (bus : Bus) :
    (chips.finish vector : Action Bus ε Unit) bus =
      ⟨.ok (), bus.after (VectorChips.endTraffic chips.offsets vector),
        VectorChips.endTraffic chips.offsets vector⟩ := by
  have of_master : (chips.master.delivers vector : Answer ε Bool) =
      .ok (decide (Windows.Holds chips.offsets.master vector)) := delivers_eq_ok master vector
  have of_slave : (chips.slave.delivers vector : Answer ε Bool) =
      .ok (decide (Windows.Holds chips.offsets.slave vector)) := delivers_eq_ok slave vector
  unfold finish VectorChips.endTraffic
  rw [of_master, of_slave]
  by_cases here : Windows.Holds chips.offsets.master vector <;>
    by_cases there : Windows.Holds chips.offsets.slave vector <;>
    simp only [here, there, decide_true, decide_false, or_true, or_false, if_true, if_false] <;>
    rfl

/-- What the chips do on their bus, as what the driver of them does. -/
theorem talks_onBus {α : Type} {action : ChainedChips → Action Bus ε α} {wired : Wired ChainedChips}
    {value : α} {accesses : List Effect}
    (ends : action wired.chips wired.bus = ⟨.ok value, wired.bus.after accesses, accesses⟩) :
    VectorChips.Talks (onBus action) wired value accesses := by
  refine ⟨wired.chips, ?_, rfl⟩
  unfold onBus
  rw [within_apply, ends]

/-- **The chips do what is asked of a driver.** -/
instance : LawfulVectorChips ChainedChips where
  offsets_make _ _ := rfl
  bringUp _ := talks_onBus rfl
  endInterrupt wired vector master slave :=
    talks_onBus (finish_apply master slave vector wired.bus)
  readMasks _ := talks_onBus rfl
  writeMasks _ _ _ := talks_onBus rfl

end ChainedChips

/-- The lines are moved, line 9 is silenced, and an interrupt on it ends. -/
def movingRequests : List Controller.Request :=
  [.remap 0x40 0x48, .disableLine 9, .acknowledge 9, .readMask]

/-- Line 9 is silenced on the slave, and the end of its interrupt goes to the slave and the master,
also for the driver that is told of it by its vector. -/
theorem Controller.pairs_agree_movingRequests :
    (∀ request ∈ movingRequests, request.Fits) ∧
    (movingRequests.mapM Request.perform ({} : VectorPair ChainedChips)).result =
      .ok [.done, .done, .done, .mask 0x200] ∧
    (movingRequests.mapM Request.perform ({} : VectorPair ChainedChips)).state.bus.held slaveData =
      2 ∧
    commandWrites (movingRequests.mapM Request.perform ({} : VectorPair ChainedChips)).effects =
      [(masterCommand, initCommand), (slaveCommand, initCommand), (slaveCommand, endOfInterrupt),
        (masterCommand, endOfInterrupt)] := by
  have fits : ∀ request ∈ movingRequests, request.Fits := by decide
  have latches : ∀ port, ({} : ChipPair).bus.latch? port =
      ({} : VectorPair ChainedChips).bus.latch? port := fun _ => rfl
  obtain ⟨replies, chips, pair, _, _, chips_ran, pair_ran, -, slave, commands⟩ :=
    Controller.pairs_agree latches rfl rfl fits
  have answered : (movingRequests.mapM Request.perform ({} : ChipPair)).result =
      .ok [.done, .done, .done, .mask 0x200] := by
    decide +kernel
  have masked : (movingRequests.mapM Request.perform ({} : ChipPair)).state.bus.held slaveData =
      2 := by
    decide +kernel
  have wrote : commandWrites (movingRequests.mapM Request.perform ({} : ChipPair)).effects =
      [(masterCommand, initCommand), (slaveCommand, initCommand), (slaveCommand, endOfInterrupt),
        (masterCommand, endOfInterrupt)] := by
    decide +kernel
  rw [chips_ran] at answered masked wrote
  rw [pair_ran]
  exact ⟨fits, answered, slave.symm.trans masked, commands.symm.trans wrote⟩

end MiniKernel
