/-
**Memory through the gate.**

A caller puts a number of bytes into `ebx` and finds an address in `eax`; later it puts the address
into `ebx` and gives the memory back. Between the two lie the handle, the address in the arena, the
word in the register, and whatever else is asked of the core.

* `Frame.Asks` — an image of a system call with its number and first argument.
* `Machine.Reached.ran` — every machine met after a boot has a core for which all of this holds.
* `Machine.Answers` — an image is answered, and leaves the machine with another core at most.
* `Machine.malloc_answers` — **one call for memory**: refused with nothing changed for want of room,
  or a range of its own (`Core.Range`).
* `Machine.returnable_of_outstanding` — **one call for freeing** takes back the range, and the next
  one is refused (`Machine.Returnable`).
* `Machine.memory_calls` — **the whole run**: a range is given, and can be given back at its address
  whatever was done to the core in between.
-/

import MiniKernel.Proofs.Machine.Calls
import MiniKernel.Proofs.SystemCall.Memory

namespace MiniKernel

open Heap (Exchange Outstanding)

variable {C ε : Type}

/-! ### Images -/

/-- **A stack image of a system call with this number and this first argument.** -/
structure Frame.Asks (words : List UInt32) (number argument : UInt32) : Prop
    extends Frame.IsCall words where
  eax : words[eaxPosition]? = some number
  ebx : words[5]? = some argument

theorem Frame.words_of_ofWords {words : List UInt32} {frame : Frame}
    (read : ofWords words = .ok frame) :
    words[eaxPosition]? = some frame.eax ∧ words[5]? = some frame.ebx := by
  obtain ⟨-, rest, rfl⟩ := ofWords_eq_ok_iff.mp read
  exact ⟨rfl, rfl⟩

theorem Frame.Asks.frame {words : List UInt32} {number argument : UInt32}
    (asks : Frame.Asks words number argument) :
    ∃ frame, Frame.ofWords words = .ok frame ∧ frame.vector? = some systemCallVector ∧
      (SystemCall.Call.ofFrame frame).number = number.toNat ∧
      (SystemCall.Call.ofFrame frame).arg0 = argument.toNat := by
  obtain ⟨frame, read, vector⟩ := asks.toIsCall.frame
  obtain ⟨eax, ebx⟩ := Frame.words_of_ofWords read
  have number_read := Option.some.inj (eax.symm.trans asks.eax)
  have argument_read := Option.some.inj (ebx.symm.trans asks.ebx)
  exact ⟨frame, read, vector, congrArg UInt32.toNat number_read,
    congrArg UInt32.toNat argument_read⟩

/-! ### Ranges -/

/-- **A range that belongs to nobody else**: it starts at a handle's address, aligned, lies in the
arena, and meets no range that is out. The stack of every process was handed out by the heap, and
the range does not meet it either, unless its block was taken back since. -/
structure Core.Range (core : Core) (history : List Exchange) (handle : Handle)
    (start size : Nat) : Prop where
  address : start = core.heap.address handle
  aligned : start % alignment = 0
  above : core.heap.base ≤ start
  below : start + size ≤ core.heap.base + core.heap.total
  apart : ∀ other room, Outstanding history other room →
    Apart start size (core.heap.address other) room
  unstacked : ∀ slot stack, core.processes.stackOf slot = some stack →
    .handing stack.size stack.handle ∈ history ∧
      (Outstanding history stack.handle stack.size → Apart start size stack.base stack.size)

/-- The range of a block that the heap hands out. -/
theorem Core.Ran.range {core : Core} {history : List Exchange} {handle : Handle} {size : Nat}
    {heap : Heap} {effects : List Effect} (ran : core.Ran history)
    (run : Heap.allocate size core.heap = ⟨.ok handle, heap, effects⟩) :
    core.Range history handle (core.heap.address handle) size := by
  obtain ⟨_, aligned, _, below, apart⟩ := ran.heap.handedOut run
  refine ⟨rfl, aligned, Nat.le_add_right _ _, below, apart, fun slot stack has => ?_⟩
  obtain ⟨place, handed⟩ := ran.housed has
  refine ⟨handed, fun out => ?_⟩
  rw [place]
  exact apart _ _ out

/-! ### Answers -/

namespace Machine

variable {machine : Machine C} {halt : Action (Machine C) ε Unit} {core later : Core}
  {frame : Frame} {words : List UInt32} {number argument eax : UInt32} {history : List Exchange}
  {handle : Handle} {size : Nat}

/-- No lock is held, and this is the core. -/
structure Carries (machine : Machine C) (core : Core) : Prop where
  free : machine.held = {}
  there : machine.core = some core

/-- **An image is answered in its saved `eax`, and no other word of it changes.** On the machine
there is a core that may be another one, and the interrupt flag is as it was. -/
def Answers [Controller C] (machine : Machine C) (halt : Action (Machine C) ε Unit)
    (words : List UInt32) (eax : UInt32) (later : Core) : Prop :=
  ∃ cpu effects, entry halt words machine =
      ⟨.ok (words.set Frame.eaxPosition eax), machine.afterWork cpu later, effects⟩ ∧
    cpu.flag = machine.cpu.flag

/-- **Every machine met after a boot carries a core met in a run.** -/
theorem Reached.ran [Controller C] (reached : machine.Reached) :
    ∃ core history, machine.Carries core ∧ core.Ran history := by
  induction reached with
  | booted free _ boots =>
    obtain ⟨unheld, _, arena, now, placed, published⟩ := boot_ok free boots
    exact ⟨_, _, ⟨unheld, published⟩, Core.ran_ofArena placed _ now⟩
  | worked _ there operation returns ih =>
    obtain ⟨core, history, carries, ran⟩ := ih
    rw [carries.there] at there
    cases there
    exact ⟨_, _, ⟨carries.free, rfl⟩, ran.leads (Core.Leads.here.step operation returns)⟩
  | elsewhere _ core held _ ih =>
    obtain ⟨carried, history, carries, ran⟩ := ih
    exact ⟨carried, history, ⟨held.trans carries.free, core.trans carries.there⟩, ran⟩

section Serving

variable {effects : List Effect}

/-- **A call that does not wait is answered** with the register form of its reply. -/
theorem Carries.serve_reply (carries : machine.Carries core)
    (reply : Except KernelRefusal SystemCall.Reply)
    (prompt : ∀ milliseconds, reply ≠ .ok (.sleep milliseconds))
    (run : SystemCall.perform machine.timer (.ofFrame frame) core =
      ⟨reply.mapError .refused, later, effects⟩) :
    ∃ cpu effects, serve halt frame machine =
        ⟨.ok (SystemCall.encode reply), machine.afterWork cpu later, effects⟩ ∧
      cpu.flag = machine.cpu.flag := by
  have returns : (SystemCall.perform machine.timer (.ofFrame frame) core).result.Returns := by
    rw [run]
    cases reply with
    | ok reply => exact Answer.returns_ok _
    | error cause => exact Answer.returns_refused _
  obtain ⟨cpu, effects, works, flag, _⟩ := guardCore_apply carries.free carries.there returns
  rw [run] at works
  refine ⟨cpu, effects ++ [], ?_, flag⟩
  unfold serve
  rw [Action.bind_quiet (Action.get_apply machine)]
  cases reply with
  | ok reply =>
    cases reply with
    | value value => exact Action.bind_steps (Action.attempt_ok works) rfl
    | sleep milliseconds => exact absurd rfl (prompt milliseconds)
  | error cause => exact Action.bind_steps (Action.attempt_refused works) rfl

/-- A call that comes to its end at the gate does on the core. -/
theorem Carries.returns_of_serve (carries : machine.Carries core)
    (returns : (serve halt frame machine).result.Returns) :
    (SystemCall.perform machine.timer (.ofFrame frame) core).result.Returns := by
  unfold serve at returns
  rw [Action.bind_quiet (Action.get_apply machine)] at returns
  have guarded := Action.returns_of_attempt (Action.returns_first returns)
  exact returns_of_guardCore carries.free carries.there guarded

variable [Controller C]

theorem answers_of_serve (read : Frame.ofWords words = .ok frame)
    (vector : frame.vector? = some systemCallVector)
    (serves : ∃ cpu effects, serve halt frame machine =
        ⟨.ok eax, machine.afterWork cpu later, effects⟩ ∧ cpu.flag = machine.cpu.flag) :
    machine.Answers halt words eax later := by
  obtain ⟨cpu, effects, served, flag⟩ := serves
  refine ⟨cpu, effects, ?_, flag⟩
  rw [entry_apply read vector, served]
  rfl

end Serving

/-! ### The two calls -/

section Calls

variable [Controller C]

/-- **A call for memory** is refused with nothing changed, for no bytes or when there is no room for
them, or answers a range of its own. -/
theorem malloc_answers (carries : machine.Carries core) (ran : core.Ran history)
    (low : core.heap.base + core.heap.total ≤ wordLimit) (asks : Frame.Asks words 11 argument)
    (going : core.heap.allocations + 1 < longLimit ∨ (entry halt words machine).result.Returns) :
    (argument = 0 ∧ machine.Answers halt words (UInt32.ofInt (-22)) core) ∨
    (core.heap.Crowded argument.toNat ∧ machine.Answers halt words (UInt32.ofInt (-12)) core) ∨
    ∃ eax later handle, machine.Answers halt words eax later ∧
      later.processes = core.processes ∧
      core.Leads later [.handing argument.toNat handle] ∧
      core.Range history handle eax.toNat argument.toNat := by
  obtain ⟨frame, read, vector, number, argument_read⟩ := asks.frame
  have going : core.heap.allocations + 1 < longLimit ∨
      (SystemCall.perform machine.timer (.ofFrame frame) core).result.Returns := by
    refine going.imp_right fun returns => ?_
    rw [entry_apply read vector] at returns
    exact carries.returns_of_serve (Answer.returns_of_map returns)
  have asks_malloc : SystemCall.Number.ofWord (SystemCall.Call.ofFrame frame).number = .malloc := by
    rw [number]
    rfl
  rcases SystemCall.malloc_cases ran asks_malloc going with ⟨zero, _, run⟩ | ⟨crowded, _, run⟩ |
    ⟨handle, heap, _, allocated, leads, run⟩
  · rw [argument_read] at zero
    exact Or.inl ⟨UInt32.toNat.inj zero, answers_of_serve read vector
      (carries.serve_reply (.error .invalidArgument) nofun run)⟩
  · rw [argument_read] at crowded
    exact Or.inr (Or.inl ⟨crowded, answers_of_serve read vector
      (carries.serve_reply (.error .outOfMemory) nofun run)⟩)
  · rw [argument_read] at allocated leads
    have range := ran.range allocated
    obtain ⟨_, _, positive, _⟩ := ran.heap.handedOut allocated
    -- the last byte lies below the limit, so the address is not cut in the register
    have fits : core.heap.address handle < wordLimit := by
      have below := range.below
      omega
    have whole : (UInt32.ofNat (core.heap.address handle)).toNat = core.heap.address handle :=
      UInt32.toNat_ofNat_of_lt' fits
    have answers : machine.Answers halt words (UInt32.ofNat (core.heap.address handle)) _ :=
      answers_of_serve read vector (carries.serve_reply (.ok (.value _)) nofun run)
    refine Or.inr (Or.inr ⟨_, _, handle, answers, rfl, leads, ?_⟩)
    rwa [whole]

/-- **The block behind a handle can be given back at an address, once.** On every machine with the
core, an image that asks for it is answered 0 and takes back this block and no other. After that, on
every machine with the core as it is then, such an image is refused and changes nothing. -/
def Returnable (halt : Action (Machine C) ε Unit) (core : Core) (handle : Handle) (eax : UInt32) :
    Prop :=
  (∃ block, core.heap.locate handle = .ok block) ∧
    ∀ machine words, Carries machine core → Frame.Asks words 12 eax →
      ∃ freed, Answers machine halt words 0 freed ∧ freed.processes = core.processes ∧
        core.Leads freed [⟨.release handle, .ok .done⟩] ∧
        freed.heap.locate handle = .refuse .invalidAddress ∧
        (∀ other, other ≠ handle → core.heap.Alike freed.heap other) ∧
        ∀ machine words, Carries machine freed → Frame.Asks words 12 eax →
          Answers machine halt words (UInt32.ofInt (-22)) freed

/-- **A call for freeing** takes back the range that starts at the address, once. -/
theorem returnable_of_outstanding (ran : core.Ran history) (out : Outstanding history handle size)
    (place : eax.toNat = core.heap.address handle) : Returnable halt core handle eax := by
  refine ⟨ran.heap.located_of_outstanding out, fun machine words carries asks => ?_⟩
  have asks_free : ∀ {frame : Frame},
      (SystemCall.Call.ofFrame frame).number = (12 : UInt32).toNat →
        SystemCall.Number.ofWord (SystemCall.Call.ofFrame frame).number = .free := by
    intro frame number
    rw [number]
    rfl
  obtain ⟨frame, read, vector, number, address⟩ := asks.frame
  obtain ⟨heap, _, leads, gone, others, run, again⟩ :=
    SystemCall.free_outstanding machine.timer ran (asks_free number) (address.trans place) out
  refine ⟨_, answers_of_serve read vector (carries.serve_reply (.ok (.value 0)) nofun run), rfl,
    leads, gone, others, fun machine words carries asks => ?_⟩
  obtain ⟨next, read, vector, number, same⟩ := asks.frame
  obtain ⟨_, refused⟩ :=
    again machine.timer (.ofFrame next) (asks_free number) (same.trans address.symm)
  exact answers_of_serve read vector
    (carries.serve_reply (.error .invalidArgument) nofun refused)

/-- **Memory for callers.** Let the core of a machine be met in a run, with an arena below 4 GiB,
and an image ask for memory. It is refused and changes nothing, for no bytes or when there is no
room for them, or the saved `eax` becomes the address of a range of that many bytes that belongs to
nobody else. Whatever is done to the core after that, as long as the block is not taken back, an
image that asks to free this address takes back this block; the next one is refused. -/
theorem memory_calls (carries : machine.Carries core) (ran : core.Ran history)
    (low : core.heap.base + core.heap.total ≤ wordLimit) (asks : Frame.Asks words 11 argument)
    (going : core.heap.allocations + 1 < longLimit ∨ (entry halt words machine).result.Returns) :
    (argument = 0 ∧ machine.Answers halt words (UInt32.ofInt (-22)) core) ∨
    (core.heap.Crowded argument.toNat ∧ machine.Answers halt words (UInt32.ofInt (-12)) core) ∨
    ∃ eax later handle, machine.Answers halt words eax later ∧
      later.processes = core.processes ∧
      core.Leads later [.handing argument.toNat handle] ∧
      core.Range history handle eax.toNat argument.toNat ∧
      ∀ last since, later.Leads last since → (∀ exchange ∈ since, ¬ exchange.Takes handle) →
        Returnable halt last handle eax := by
  rcases malloc_answers carries ran low asks going with nothing | full |
    ⟨eax, later, handle, answers, same, leads, range⟩
  · exact Or.inl nothing
  · exact Or.inr (Or.inl full)
  · refine Or.inr (Or.inr ⟨eax, later, handle, answers, same, leads, range,
      fun last since further untaken => ?_⟩)
    have met : last.Ran (since ++ ([.handing argument.toNat handle] ++ history)) :=
      (ran.leads leads).leads further
    have out : Outstanding (since ++ ([.handing argument.toNat handle] ++ history)) handle
        argument.toNat := ⟨since, _, history, rfl, rfl, untaken⟩
    refine returnable_of_outstanding met out (range.address.trans ?_)
    rw [further.address (ran.leads leads), leads.address ran]

/-! ### A caller on a small machine -/

/-- An image of a system call from the kernel. -/
def callImage (number argument : UInt32) : List UInt32 :=
  [0x10, 0, 0, 0, 0, argument, 0, 0, number, 0x80, 0, 0, 0x08, 0x202]

theorem asks_callImage (number argument : UInt32) :
    Frame.Asks (callImage number argument) number argument :=
  ⟨⟨rfl, 0x08, rfl, (by decide : Frame.wordsNeeded 0x08 ≤ 14)⟩, rfl, rfl⟩

/-- What an image with a call is answered, read off a run. -/
theorem Answers.eax_eq {value : UInt32} (answers : machine.Answers halt words eax later)
    (asks : Frame.Asks words number argument)
    (result : (entry halt words machine).result = .ok (words.set Frame.eaxPosition value)) :
    eax = value := by
  obtain ⟨cpu, effects, run, _⟩ := answers
  rw [run] at result
  have long : Frame.eaxPosition < words.length := (List.getElem?_eq_some_iff.mp asks.eax).1
  have same := congrArg (·[Frame.eaxPosition]?) (Except.ok.inj result)
  simp only [List.getElem?_set_self long] at same
  exact Option.some.inj same

/-- A bare machine with a core. -/
def machineOver (core : Core) : Machine StoredMask := { bareMachine with core := some core }

theorem carries_machineOver (core : Core) : (machineOver core).Carries core := ⟨rfl, rfl⟩

theorem ran_smallCore : ProcessTable.smallCore.Ran [.handing 16 ⟨16⟩] := by
  have created : ((Core.Operation.processes (.spawn "init" 64 .normal 0)).perform
      ⟨Heap.smallHeap, (ProcessTable.create 16 0).started⟩).result = .ok (.inl (.number 1)) := by
    decide +kernel
  have asked : (Core.Operation.processes (.spawn "init" 64 .normal 0)).exchanges
      ⟨Heap.smallHeap, (ProcessTable.create 16 0).started⟩ = [.handing 16 ⟨16⟩] := by
    have served : ((Heap.Request.allocate 16).perform Heap.smallHeap).result =
        .ok (.handle ⟨16⟩) := by
      decide +kernel
    rw [Core.Operation.exchanges, Core.Operation.asks?, Core.Request.asks?,
      if_pos (by decide +kernel)]
    exact congrArg (fun answer => [Exchange.mk _ answer]) served
  have on : Core.Ran ⟨Heap.smallHeap, (ProcessTable.create 16 0).started⟩ [] :=
    Core.ran_ofArena (Option.some_get _).symm 16 0
  have admitted := on.leads (Core.Leads.here.step (.processes (.spawn "init" 64 .normal 0))
    (created.symm ▸ Answer.returns_ok _))
  rw [asked] at admitted
  exact admitted

/-- A caller is given eight bytes beside the stack of the process, and gives them back once. -/
theorem memory_calls_smallCore :
    ∃ eax later freed, (machineOver ProcessTable.smallCore).Answers
        (tickHalt : Action _ KernelRefusal Unit) (callImage 11 8) eax later ∧
      Apart eax.toNat 8 16 16 ∧
      (machineOver later).Answers (tickHalt : Action _ KernelRefusal Unit) (callImage 12 eax) 0
        freed ∧
      (machineOver freed).Answers (tickHalt : Action _ KernelRefusal Unit) (callImage 12 eax)
        (UInt32.ofInt (-22)) freed := by
  have result : (entry (tickHalt : Action _ KernelRefusal Unit) (callImage 11 8)
      (machineOver ProcessTable.smallCore)).result = .ok ((callImage 11 8).set 8 48) := by
    decide +kernel
  have low : ProcessTable.smallCore.heap.base + ProcessTable.smallCore.heap.total ≤
      wordLimit := by
    decide +kernel
  have counts : ProcessTable.smallCore.heap.allocations + 1 < longLimit := by
    decide +kernel
  have stacked : ProcessTable.smallCore.processes.stackOf 1 = some ⟨⟨16⟩, 16, 16⟩ := by
    decide +kernel
  have out : Outstanding [.handing 16 ⟨16⟩] ⟨16⟩ 16 := standing_cons.mpr (Or.inl rfl)
  rcases memory_calls (carries_machineOver _) ran_smallCore low (asks_callImage 11 8)
      (Or.inl counts) with
    ⟨nothing, _⟩ | ⟨_, answers⟩ | ⟨eax, later, handle, answers, _, _, range, returnable⟩
  · cases nothing
  · exact absurd (answers.eax_eq (asks_callImage 11 8) result) (by decide)
  · obtain ⟨_, frees⟩ := returnable later [] .here nofun
    obtain ⟨freed, given, _, _, _, _, again⟩ :=
      frees _ _ (carries_machineOver later) (asks_callImage 12 eax)
    exact ⟨eax, later, freed, answers, (range.unstacked 1 _ stacked).2 out, given,
      again _ _ (carries_machineOver freed) (asks_callImage 12 eax)⟩

/-- A core in which a caller gave back the stack of a process that is still there. -/
def robbedCore : Core :=
  (SystemCall.perform ⟨0, 100⟩ { number := 12, arg0 := 16 } ProcessTable.smallCore).state

/-- **A range can meet the stack of a process** whose block a caller gave back. -/
theorem malloc_over_stack :
    ¬ ∀ (machine : Machine StoredMask) core history words argument,
      machine.Carries core → core.Ran history →
      core.heap.base + core.heap.total ≤ wordLimit → Frame.Asks words 11 argument →
      ∀ eax later handle,
        machine.Answers (tickHalt : Action _ KernelRefusal Unit) words eax later →
        core.Leads later [.handing argument.toNat handle] →
        ∀ slot stack, core.processes.stackOf slot = some stack →
          Apart eax.toNat argument.toNat stack.base stack.size := by
  intro apart
  have result : (entry (tickHalt : Action _ KernelRefusal Unit) (callImage 11 8)
      (machineOver robbedCore)).result = .ok ((callImage 11 8).set 8 16) := by
    decide +kernel
  have frees : (SystemCall.perform ⟨0, 100⟩ { number := 12, arg0 := 16 }
      ProcessTable.smallCore).result = .ok (.value 0) := by
    decide +kernel
  have low : robbedCore.heap.base + robbedCore.heap.total ≤ wordLimit := by
    decide +kernel
  have counts : robbedCore.heap.allocations + 1 < longLimit := by
    decide +kernel
  have stacked : robbedCore.processes.stackOf 1 = some ⟨⟨16⟩, 16, 16⟩ := by
    decide +kernel
  have ran : robbedCore.Ran _ :=
    ran_smallCore.leads (Core.Leads.here.call ⟨0, 100⟩ _ (frees.symm ▸ Answer.returns_ok _))
  rcases malloc_answers (carries_machineOver _) ran low (asks_callImage 11 8)
      (Or.inl counts) with
    ⟨nothing, _⟩ | ⟨_, answers⟩ | ⟨eax, later, handle, answers, _, leads, _⟩
  · cases nothing
  · exact absurd (answers.eax_eq (asks_callImage 11 8) result) (by decide)
  · have given := answers.eax_eq (asks_callImage 11 8) result
    subst given
    have outside := apart _ _ _ _ _ (carries_machineOver _) ran low (asks_callImage 11 8) _ _ _
      answers leads 1 _ stacked
    revert outside
    unfold Apart
    decide

end Calls

end Machine

end MiniKernel
