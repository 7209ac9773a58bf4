/-
**Chips addressed on their own, and masks that are only stored.**

* `bit_joinMask` — the lines of a mask on the two chips; `joinMask_change_low` and
  `joinMask_change_high` — a line changed on its chip is that line changed in the mask.
* `Bus.lineMask` — the mask that the data ports hold.
* `ChipPair.follows`, `StoredMask.follows` — each of the two controllers does what its requests say,
  and is lawful.
-/

import MiniKernel.Proofs.Interrupt.Controllers
import MiniKernel.Proofs.Interrupt.Routing

namespace MiniKernel

open MiniKernel.Action MiniKernel.Controller

/-! ### Masks bit by bit -/

section Masks

variable {low high : UInt8} {irq : UInt8} {line : Nat}

theorem bit_joinMask (low high : UInt8) (known : line < 16) :
    (joinMask low high).toBitVec.getLsbD line =
      if line < 8 then low.toBitVec.getLsbD line else high.toBitVec.getLsbD (line - 8) := by
  have eight : (8 : UInt16).toBitVec = 8#16 := rfl
  simp only [joinMask, UInt16.toBitVec_or, UInt16.toBitVec_shiftLeft, UInt8.toBitVec_toUInt16, eight,
    BitVec.getLsbD_or, BitVec.getLsbD_setWidth]
  simp
  grind

theorem bit_lineBit (irq : UInt8) (known : line < 16) :
    (lineBit irq).toBitVec.getLsbD line = decide (line = irq.toNat) := by
  show (BitVec.ofNat 16 (1 <<< irq.toNat)).getLsbD line = _
  rw [BitVec.getLsbD_ofNat, Nat.one_shiftLeft, Nat.testBit_two_pow]
  grind

theorem bit_chipBit {place : Nat} (known : line < 8) :
    (UInt8.ofNat (1 <<< place)).toBitVec.getLsbD line = decide (line = place) := by
  show (BitVec.ofNat 8 (1 <<< place)).getLsbD line = _
  rw [BitVec.getLsbD_ofNat, Nat.one_shiftLeft, Nat.testBit_two_pow]
  grind

/-- Two masks with the same lines are equal. -/
theorem mask_ext {mask other : UInt16}
    (same : ∀ line < 16, mask.toBitVec.getLsbD line = other.toBitVec.getLsbD line) :
    mask = other :=
  UInt16.toBitVec_inj.mp (BitVec.eq_of_getLsbD_eq same)

/-- A mask written half by half reads back as it was. -/
theorem joinMask_halves (mask : UInt16) : joinMask mask.toUInt8 (mask >>> 8).toUInt8 = mask := by
  have eight : (8 : UInt16).toBitVec % 16 = 8#16 := rfl
  refine mask_ext fun line known => ?_
  rw [bit_joinMask _ _ known]
  simp only [UInt16.toBitVec_toUInt8, UInt16.toBitVec_shiftRight, BitVec.getLsbD_setWidth, eight]
  simp
  grind

/-- A mask tells what is on each chip. -/
theorem joinMask_inj {low' high' : UInt8} (same : joinMask low high = joinMask low' high') :
    low = low' ∧ high = high' := by
  have lines : ∀ line < 16, (joinMask low high).toBitVec.getLsbD line =
      (joinMask low' high').toBitVec.getLsbD line := fun line _ => by rw [same]
  constructor
  · refine UInt8.toBitVec_inj.mp (BitVec.eq_of_getLsbD_eq fun line known => ?_)
    have here := lines line (by omega)
    rwa [bit_joinMask _ _ (by omega), bit_joinMask _ _ (by omega), if_pos known, if_pos known]
      at here
  · refine UInt8.toBitVec_inj.mp (BitVec.eq_of_getLsbD_eq fun line known => ?_)
    have here := lines (line + 8) (by omega)
    rwa [bit_joinMask _ _ (by omega), bit_joinMask _ _ (by omega), if_neg (by omega),
      if_neg (by omega), Nat.add_sub_cancel] at here

/-- **A change of masks bit by bit**, the same on one chip and on the whole mask, that leaves alone
the lines it is not told of. -/
structure Bitwise (small : UInt8 → UInt8 → UInt8) (large : UInt16 → UInt16 → UInt16)
    (rule : Bool → Bool → Bool) : Prop where
  small (old bit : UInt8) {line : Nat} (known : line < 8) :
    (small old bit).toBitVec.getLsbD line =
      rule (old.toBitVec.getLsbD line) (bit.toBitVec.getLsbD line)
  large (old bit : UInt16) {line : Nat} (known : line < 16) :
    (large old bit).toBitVec.getLsbD line =
      rule (old.toBitVec.getLsbD line) (bit.toBitVec.getLsbD line)
  spares (old : Bool) : rule old false = old

theorem bitwise_clear :
    Bitwise (fun old bit => old &&& ~~~bit) clearBit fun old bit => old && !bit where
  small old bit line known := by simp [known]
  large old bit line known := by simp [clearBit, known]
  spares := by decide

theorem bitwise_set :
    Bitwise (fun old bit => old ||| bit) (fun old bit => old ||| bit) fun old bit => old || bit where
  small old bit line known := by simp
  large old bit line known := by simp
  spares := by decide

variable {small : UInt8 → UInt8 → UInt8} {large : UInt16 → UInt16 → UInt16}
  {rule : Bool → Bool → Bool}

theorem joinMask_change_low (bitwise : Bitwise small large rule) (known : irq.toNat < 8) :
    joinMask (small low (UInt8.ofNat (1 <<< irq.toNat))) high =
      large (joinMask low high) (lineBit irq) := by
  refine mask_ext fun line few => ?_
  rw [bit_joinMask _ _ few, bitwise.large _ _ few, bit_joinMask _ _ few, bit_lineBit irq few]
  split
  · rename_i below
    rw [bitwise.small _ _ below, bit_chipBit below]
  · rename_i above
    rw [decide_eq_false (by omega), bitwise.spares]

theorem joinMask_change_high (bitwise : Bitwise small large rule) (above : 8 ≤ irq.toNat) :
    joinMask low (small high (UInt8.ofNat (1 <<< (irq.toNat - 8)))) =
      large (joinMask low high) (lineBit irq) := by
  refine mask_ext fun line few => ?_
  rw [bit_joinMask _ _ few, bitwise.large _ _ few, bit_joinMask _ _ few, bit_lineBit irq few]
  split
  · rw [decide_eq_false (by omega), bitwise.spares]
  · rw [bitwise.small _ _ (by omega), bit_chipBit (by omega)]
    congr 2
    exact propext (by omega)

end Masks

/-! ### The bus -/

namespace Bus

variable {ε : Type} {bus : Bus} {port other : UInt16} {value : UInt8}

/-- What a read of a port answers. -/
def held (bus : Bus) (port : UInt16) : UInt8 := (bus.latch? port).getD 0

/-- **The mask that the data ports hold.** -/
def lineMask (bus : Bus) : UInt16 := joinMask (bus.held masterData) (bus.held slaveData)

theorem held_set (bus : Bus) (port other : UInt16) (value : UInt8) :
    (bus.set port value).held other = if port = other then value else bus.held other := by
  unfold held
  rw [latch?_set]
  split <;> rfl

theorem drives_read (chips : port ∈ chipPorts) :
    Drives id (read port : Action Bus ε UInt8) bus (bus.held port) bus [] :=
  ⟨bus, [.portRead port], rfl, rfl, List.forall_mem_singleton.mpr chips, rfl⟩

theorem drives_write (chips : port ∈ chipPorts) (value : UInt8) :
    Drives id (write port value : Action Bus ε Unit) bus () (bus.set port value)
      (commandWrites [.portWrite port value]) :=
  ⟨bus.set port value, [.portWrite port value], rfl, rfl, List.forall_mem_singleton.mpr chips, rfl⟩

/-- A command leaves the masks as they are. -/
theorem drives_command (command : port = masterCommand ∨ port = slaveCommand) (value : UInt8) :
    Drives lineMask (write port value : Action Bus ε Unit) bus () bus.lineMask [(port, value)] := by
  have own : port ∈ chipPorts := by rcases command with rfl | rfl <;> decide
  have off : port ≠ masterData ∧ port ≠ slaveData := by rcases command with rfl | rfl <;> decide
  have commands : commandWrites [.portWrite port value] = [(port, value)] := by
    simp [commandWrites, Effect.command?, command]
  have written : Drives lineMask (write port value : Action Bus ε Unit) bus () _ _ :=
    Drives.seen (drives_write own value)
  rwa [lineMask, held_set, held_set, if_neg off.1, if_neg off.2, commands] at written

end Bus

/-! ### Each chip on its own -/

namespace ChipPair

variable {ε : Type} {bus : Bus} {chips : ChipPair} {irq : UInt8}

/-- An initialization word, and time for the chip to settle. -/
theorem drives_initWord {port : UInt16} (own : port ∈ chipPorts) (value : UInt8) :
    Drives id (initWord port value : Action Bus ε Unit) bus ()
      ((bus.set port value).set Bus.delayPort 0) (commandWrites [.portWrite port value]) := by
  have settles : Drives id (Bus.pause : Action Bus ε Unit) (bus.set port value) ()
      ((bus.set port value).set Bus.delayPort 0) [] := Bus.drives_write (by decide) 0
  have both : Drives id (initWord port value : Action Bus ε Unit) bus () _ _ :=
    (Bus.drives_write own value).step settles
  rwa [List.append_nil] at both

/-- **A move leaves the masks as they were**, though every word goes over the data ports. -/
theorem drives_moveTo (master slave : UInt8) :
    Drives Bus.lineMask (moveTo master slave : Action Bus ε Unit) bus () bus.lineMask
      [(masterCommand, initCommand), (slaveCommand, initCommand)] := by
  have moved : Drives Bus.lineMask (moveTo master slave : Action Bus ε Unit) bus () _ _ :=
    (Bus.drives_read (by decide)).step <| (Bus.drives_read (by decide)).step <|
      (drives_initWord (by decide) _).step <| (drives_initWord (by decide) _).step <|
      (drives_initWord (by decide) _).step <| (drives_initWord (by decide) _).step <|
      (drives_initWord (by decide) _).step <| (drives_initWord (by decide) _).step <|
      (drives_initWord (by decide) _).step <| (drives_initWord (by decide) _).step <|
      (Bus.drives_write (by decide) _).step (Bus.drives_write (by decide) _).seen
  obtain ⟨after, effects, ran, seen, traffic, written⟩ := moved
  refine ⟨after, effects, ran, seen.trans ?_, traffic, written⟩
  simp [Bus.lineMask, Bus.held_set, masterData, slaveData]

/-- One bit of the mask on one data port changed. -/
def changeBit (change : UInt8 → UInt8 → UInt8) (port : UInt16) (line : Nat) :
    Action Bus ε Unit := do
  let old ← Bus.read port
  let bit ← Action.ask (Checked.bit8 line)
  Bus.write port (change old bit)

/-- It takes one read and one write of that port. -/
theorem changeBit_apply (change : UInt8 → UInt8 → UInt8) (port : UInt16) {line : Nat}
    (few : line < 8) (bus : Bus) :
    (changeBit change port line : Action Bus ε Unit) bus =
      ⟨.ok (), bus.set port (change (bus.held port) (UInt8.ofNat (1 <<< line))),
        [.portRead port, .portWrite port (change (bus.held port) (UInt8.ofNat (1 <<< line)))]⟩ := by
  have bit : (Checked.bit8 line : Answer ε UInt8) = .ok (UInt8.ofNat (1 <<< line)) := if_pos few
  unfold changeBit
  rw [bit]
  rfl

theorem drives_changeBit (change : UInt8 → UInt8 → UInt8) {port : UInt16} (own : port ∈ chipPorts)
    {line : Nat} (few : line < 8) :
    Drives id (changeBit change port line : Action Bus ε Unit) bus ()
      (bus.set port (change (bus.held port) (UInt8.ofNat (1 <<< line))))
      (commandWrites [.portWrite port (change (bus.held port) (UInt8.ofNat (1 <<< line)))]) :=
  ⟨_, _, changeBit_apply change port few bus, rfl,
    List.forall_mem_cons.mpr ⟨own, List.forall_mem_singleton.mpr own⟩, rfl⟩

/-- A line's bit changed on the chip that owns it. -/
def changeLine (change : UInt8 → UInt8 → UInt8) (irq : UInt8) : Action Bus ε Unit :=
  changeBit change (chipLine irq).1 (chipLine irq).2.toNat

/-- **A line changed on its chip is that line changed in the mask.** -/
theorem drives_changeLine {small : UInt8 → UInt8 → UInt8} {large : UInt16 → UInt16 → UInt16}
    {rule : Bool → Bool → Bool} (bitwise : Bitwise small large rule)
    (known : irq.toNat < lineCount) :
    Drives Bus.lineMask (changeLine small irq : Action Bus ε Unit) bus ()
      (large bus.lineMask (lineBit irq)) [] := by
  unfold changeLine chipLine
  by_cases low : irq.toNat < 8
  · rw [if_pos (UInt8.lt_iff_toNat_lt.mpr low)]
    have changed : Drives Bus.lineMask (changeBit small masterData irq.toNat : Action Bus ε Unit)
        bus () _ _ := Drives.seen (drives_changeBit small (by decide) low)
    rwa [Bus.lineMask, Bus.held_set, Bus.held_set, if_pos rfl, if_neg (by decide),
      joinMask_change_low bitwise low] at changed
  · have above : 8 ≤ irq.toNat := Nat.le_of_not_lt low
    have high : (8 : UInt8) ≤ irq := UInt8.le_iff_toNat_le.mpr above
    have rest : (irq - 8).toNat = irq.toNat - 8 := UInt8.toNat_sub_of_le _ _ high
    have few : irq.toNat - 8 < 8 := by
      unfold lineCount at known
      omega
    rw [if_neg (UInt8.not_lt.mpr high)]
    dsimp only
    rw [rest]
    have changed : Drives Bus.lineMask
        (changeBit small slaveData (irq.toNat - 8) : Action Bus ε Unit) bus () _ _ :=
      Drives.seen (drives_changeBit small (by decide) few)
    rwa [Bus.lineMask, Bus.held_set, Bus.held_set, if_pos rfl, if_neg (by decide),
      joinMask_change_high bitwise above] at changed

theorem drives_readMask :
    Drives Bus.lineMask (readMask : Action Bus ε UInt16) bus bus.lineMask bus.lineMask [] :=
  (Bus.drives_read (by decide)).step <| (Bus.drives_read (by decide)).step <| drives_ask _ _

theorem drives_writeMask (mask : UInt16) :
    Drives Bus.lineMask (writeMask mask : Action Bus ε Unit) bus () mask [] := by
  have written : Drives Bus.lineMask (writeMask mask : Action Bus ε Unit) bus () _ _ :=
    (Bus.drives_write (by decide) _).step (Bus.drives_write (by decide) _).seen
  obtain ⟨after, effects, ran, seen, rest⟩ := written
  refine ⟨after, effects, ran, seen.trans ?_, rest⟩
  rw [Bus.lineMask, Bus.held_set, Bus.held_set, Bus.held_set, if_neg (by decide), if_pos rfl,
    if_pos rfl, joinMask_halves]

theorem drives_endInterrupt (irq : UInt8) :
    Drives Bus.lineMask (endInterrupt irq : Action Bus ε Unit) bus () bus.lineMask
      (commandWrites (endings irq)) := by
  unfold endInterrupt endings
  by_cases low : irq < 8
  · rw [if_pos low, if_neg (UInt8.not_le.mpr low)]
    exact Bus.drives_command (Or.inl rfl) _
  · rw [if_neg low, if_pos (UInt8.not_lt.mp low)]
    refine (Bus.drives_command (Or.inr rfl) _).bind fun after same => ?_
    rw [← same]
    exact Bus.drives_command (Or.inl rfl) _

theorem drives_onBus {α : Type} {action : Action Bus ε α} {value : α} {mask : UInt16}
    {writes : List (UInt16 × UInt8)}
    (drives : Drives Bus.lineMask action chips.bus value mask writes) :
    Drives (fun chips : ChipPair => chips.bus.lineMask) (onBus action) chips value mask writes :=
  drives.within fun _ same => same

end ChipPair

/-- **What a request has written to the command ports.** -/
def Controller.Request.commands : Request → List (UInt16 × UInt8)
  | remap .. => [(masterCommand, initCommand), (slaveCommand, initCommand)]
  | acknowledge irq => commandWrites (ChipPair.endings irq)
  | readMask | setMask _ | enableLine _ | disableLine _ => []

/-- **The chips addressed on their own do what is asked**, whatever offsets they are moved to. -/
theorem ChipPair.serves (chips : ChipPair) {request : Request} (known : request.Known) :
    request.perform.Drives (fun chips : ChipPair => chips.bus.lineMask) chips
      (request.reply chips.bus.lineMask) (request.onMask chips.bus.lineMask) request.commands := by
  cases request with
  | remap master slave => exact (drives_onBus (drives_moveTo master slave)).map _
  | acknowledge irq => exact (drives_onBus (drives_endInterrupt irq)).map _
  | readMask => exact (drives_onBus drives_readMask).map _
  | setMask mask => exact (drives_onBus (drives_writeMask mask)).map _
  | enableLine irq => exact (drives_onBus (drives_changeLine bitwise_clear known)).map _
  | disableLine irq => exact (drives_onBus (drives_changeLine bitwise_set known)).map _

theorem ChipPair.follows :
    Follows (fun chips : ChipPair => chips.bus.lineMask) (fun _ => True) Request.commands where
  serve chips _ fits _ := ChipPair.serves chips fits.known
  ready _ _ := True.intro

instance : LawfulController ChipPair := ChipPair.follows.lawful

/-! ### A controller that is only a mask -/

namespace StoredMask

variable {ε : Type} {controller : StoredMask}

theorem drives_mask :
    Drives StoredMask.mask (Controller.mask : Action StoredMask ε UInt16) controller controller.mask
      controller.mask [] :=
  ⟨controller, [.lineRequest .readMask], rfl, rfl, List.forall_mem_singleton.mpr True.intro, rfl⟩

theorem drives_setMask (controller : StoredMask) (mask : UInt16) :
    Drives StoredMask.mask (Controller.setMask mask : Action StoredMask ε Unit) controller () mask
      [] :=
  ⟨⟨mask⟩, [.lineRequest (.writeMask mask)], rfl, rfl, List.forall_mem_singleton.mpr True.intro, rfl⟩

theorem drives_emit (request : LineRequest) :
    Drives StoredMask.mask (emit (.lineRequest request) : Action StoredMask ε Unit) controller ()
      controller.mask [] :=
  ⟨controller, [.lineRequest request], rfl, rfl, List.forall_mem_singleton.mpr True.intro, rfl⟩

/-- **A stored mask does what is asked** and writes to no port. -/
theorem follows : Follows StoredMask.mask (fun _ => True) fun _ => [] where
  serve controller request fits _ := by
    cases request with
    | remap master slave => exact (drives_emit (.remap master slave)).map _
    | acknowledge irq => exact (drives_emit (.acknowledge irq)).map _
    | readMask => exact drives_mask.map _
    | setMask mask => exact (drives_setMask controller mask).map _
    | enableLine irq =>
      exact (drives_throughMask id drives_mask (fun after _ => drives_setMask after) clearBit fits).map _
    | disableLine irq =>
      exact (drives_throughMask id drives_mask (fun after _ => drives_setMask after)
        (fun old bit => old ||| bit) fits).map _
  ready _ _ := True.intro

end StoredMask

instance : LawfulController StoredMask := StoredMask.follows.lawful

end MiniKernel
