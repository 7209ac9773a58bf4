/-
**A new process starts inside its stack, as long as the stack holds a word.**

A boot accepts every stack size but zero. The first word of a process is the last one of its stack.
So with one to three bytes it begins in front of the stack, in the header of its block.

* `Heap.HoldsWord` — a word is payload of the block behind a handle, and meets no header.
* `Core.Starts` — the slot, the stack and the stack pointer of a new process.
* `Heap.Ran.holdsWord`, `Heap.Ran.meets_header` — **one word at the end of a range** that is out: it
  is payload, or begins in the header of a range that is too small for it.
* `Core.launch_returns` — a creation never stops the kernel while allocations can be counted.
* `Core.starts_of_spawn` — **one creation** gives the range that was handed out for the stack.
* `Core.starts_in_stack` — **the whole run**, from any boot; `Core.starts_in_header` — a boot that
  leads to such a stack.
-/

import MiniKernel.Proofs.Boot.Record
import MiniKernel.Proofs.Machine.Booting
import MiniKernel.Proofs.Process.Creation
import MiniKernel.Proofs.Process.Ownership
import MiniKernel.Proofs.SystemCall.Memory

namespace MiniKernel

-- A selection pass is known by its lemmas only.
seal ProcessTable.select ProcessTable.selectNotices

/-- A range within one of two that do not meet. -/
theorem Apart.within {start size place count other room : Nat} (apart : Apart start size other room)
    (low : start ≤ place) (high : place + count ≤ start + size) : Apart place count other room := by
  unfold Apart at apart ⊢
  omega

/-- **A word is payload of the block behind a handle**, and meets no header. -/
structure Heap.HoldsWord (heap : Heap) (handle : Handle) (place : Nat) : Prop where
  payload : ∃ block, heap.locate handle = .ok block ∧ heap.base + block.payload ≤ place ∧
    place + 4 ≤ heap.base + block.stop
  headers : ∀ block ∈ heap.arena.chain.blocks,
    Apart place 4 (heap.base + block.offset) headerBytes

/-- The place of a process as it starts: it lives in the slot, has the stack, and both stack
registers point at the last word of it. -/
structure Core.Starts (core : Core) (pid : Nat) (slot : Slot) (stack : Stack) (place : Nat) :
    Prop where
  seated : core.processes.Seated pid slot
  stacked : core.processes.stackOf slot = some stack
  stackPointer : (core.processes.process slot).context.esp = place
  framePointer : (core.processes.process slot).context.ebp = place
  top : place + 4 = stack.base + stack.size
  addressable : stack.base + stack.size < longLimit

/-! ### A word in the arena -/

namespace Heap

variable {heap : Heap} {history : List Exchange} {handle : Handle} {size place : Nat}

/-- What lies in a range that is out lies in the payload of its block. -/
theorem Ran.holdsWord (ran : heap.Ran history) (out : Outstanding history handle size)
    (low : heap.address handle ≤ place) (high : place + 4 ≤ heap.address handle + size) :
    heap.HoldsWord handle place := by
  obtain ⟨_, honours⟩ := ran.reached.honours
  obtain ⟨room, has_room, large⟩ := ran.room_of_outstanding out
  have headers := honours.off_header has_room
  obtain ⟨block, located, rfl⟩ := exists_of_capacity honours.tiled has_room
  obtain ⟨_, _, there⟩ := mem_of_locate honours.tiled located
  have stop := block.stop_eq
  have payload := block.payload_eq
  unfold address at low high
  refine ⟨⟨block, located, by omega, by omega⟩, fun other member => ?_⟩
  have apart := headers other member
  unfold Apart
  omega

/-- A word that begins in front of the payload is none of it. -/
theorem Ran.low_of_holdsWord (ran : heap.Ran history) (holds : heap.HoldsWord handle place) :
    heap.address handle ≤ place := by
  obtain ⟨_, honours⟩ := ran.reached.honours
  obtain ⟨⟨block, located, low, _⟩, _⟩ := holds
  obtain ⟨_, _, there⟩ := mem_of_locate honours.tiled located
  rwa [there] at low

/-- **The last word of a range smaller than a word begins in the header of its block.** -/
theorem Ran.meets_header (ran : heap.Ran history) (out : Outstanding history handle size)
    (top : place + 4 = heap.address handle + size) (small : size < 4) :
    ∃ block, heap.locate handle = .ok block ∧
      ¬ Apart place 4 (heap.base + block.offset) headerBytes := by
  obtain ⟨_, honours⟩ := ran.reached.honours
  obtain ⟨block, located⟩ := ran.located_of_outstanding out
  obtain ⟨_, _, there⟩ := mem_of_locate honours.tiled located
  have payload := block.payload_eq
  refine ⟨block, located, ?_⟩
  unfold address at top
  rw [Apart, headerBytes]
  omega

end Heap

namespace Core

open Heap (Exchange Outstanding)

variable {core start after : Core} {history : List Exchange} {timer : Timer} {name : String}
  {entry pid : Nat} {priority : Priority}

/-! ### The size of the stacks -/

/-- No request changes how large the stacks are. -/
theorem Course.stackBytes {request : Request} {result : Answer ProcessRefusal Reply}
    {effects : List Effect} (course : core.Course request result after effects) :
    after.processes.stackBytes = core.processes.stackBytes := by
  cases course with
  | refused | unmoved | started | short | spawned | unblocked | ticked => rfl
  | exited | blocked | yielded => exact ProcessTable.stackBytes_select _
  | killed =>
    show (cleared _ _).stackBytes = _
    unfold cleared
    split
    · exact ProcessTable.stackBytes_select _
    · rfl

theorem Leads.stackBytes (leads : start.Leads core history) :
    core.processes.stackBytes = start.processes.stackBytes := by
  induction leads with
  | here => rfl
  | step _ operation returns ih =>
    rw [← ih]
    cases operation with
    | heap request =>
      rw [perform_heap]
    | processes request =>
      rw [perform_processes]
      exact (perform_course request (returns_processes.mp returns)).stackBytes

/-! ### A creation goes to its end -/

/-- A creation never stops the kernel while allocations can be counted. -/
theorem spawn_returns {blocks : List Block} (regular : core.heap.Regular blocks)
    (consistent : core.processes.Consistent) (countable : core.heap.allocations + 1 < longLimit)
    (name : String) (entry : Nat) (priority : Priority) (now : Nat) :
    (spawn name entry priority now core).result.Returns := by
  cases found : core.processes.freeSlot? with
  | none =>
    rw [spawn_full name entry priority now (Or.inl found)]
    exact Answer.returns_refused _
  | some slot =>
    rcases Nat.lt_or_ge (core.processes.nextNumber + 1) wordLimit with small | used_up
    · by_cases short : core.processes.stackBytes = 0 ∨
          Heap.roomAmong blocks < core.processes.stackBytes
      · obtain ⟨_, run⟩ := spawn_short name entry priority now regular found small short
        rw [run]
        exact Answer.returns_refused _
      · obtain ⟨positive, large⟩ := not_or.mp short
        obtain ⟨_, _, _, _, run, _⟩ := spawn_stacked name entry priority now regular consistent
          found small positive (Nat.le_of_not_lt large) (Or.inl countable)
        rw [run]
        exact Answer.returns_ok _
    · rw [spawn_full name entry priority now (Or.inr used_up)]
      exact Answer.returns_refused _

theorem launch_apply (name : String) (entry : Nat) (priority : Priority) (core : Core)
    (counts : timer.frequency ≠ 0) :
    launch timer name entry priority core =
      Action.relabel KernelRefusal.ofProcess
        (spawn name entry priority (timer.ticks / timer.frequency)) core := by
  rw [launch, Timer.seconds, Checked.div_eq_ok counts]
  exact Action.bind_quiet (Action.ask_apply _ core)

theorem launch_returns (ran : core.Ran history) (counts : timer.frequency ≠ 0)
    (countable : core.heap.allocations + 1 < longLimit) (name : String) (entry : Nat)
    (priority : Priority) : (launch timer name entry priority core).result.Returns := by
  obtain ⟨_, honours⟩ := ran.heap.reached.honours
  rw [launch_apply name entry priority core counts]
  exact Answer.returns_mapError.mpr
    (spawn_returns honours.toRegular ran.consistent countable name entry priority _)

/-- A creation that answers is one of the table's. -/
theorem spawn_of_launch {effects : List Effect} (counts : timer.frequency ≠ 0)
    (launched : launch timer name entry priority core = ⟨.ok pid, after, effects⟩) :
    spawn name entry priority (timer.ticks / timer.frequency) core =
      ⟨.ok pid, after, effects⟩ := by
  rw [launch_apply name entry priority core counts] at launched
  have answers := Action.ok_of_relabel (congrArg Outcome.result launched)
  cases run : spawn name entry priority (timer.ticks / timer.frequency) core with
  | mk result state reported =>
    rw [run] at answers
    obtain rfl : result = .ok pid := answers
    rw [Action.relabel_apply, run] at launched
    cases launched
    rfl

/-! ### Where the process starts -/

section Creating

variable {slot other : Slot} {stack other_stack : Stack} {now : Nat}

/-- A new process starts at the last word of the stack it was given. -/
theorem Created.starts (created : core.Created name entry priority now slot stack after)
    (deep : 4 ≤ stack.base + stack.size) (addressable : stack.base + stack.size < longLimit) :
    Starts after core.processes.nextNumber slot stack (stack.base + stack.size - 4) where
  seated := by
    rw [ProcessTable.Seated, created.process]
    refine ⟨fun free => ?_, rfl⟩
    cases free
  stacked := by
    rw [ProcessTable.stackOf, created.process]
  stackPointer := by
    rw [created.process]
  framePointer := by
    rw [created.process]
  top := Nat.sub_add_cancel deep
  addressable := addressable

/-- The other processes keep their stacks. -/
theorem Created.stackOf (created : core.Created name entry priority now slot stack after)
    (apart : other ≠ slot) : after.processes.stackOf other = core.processes.stackOf other := by
  rw [ProcessTable.stackOf, created.others other apart]
  rfl

/-- **Stacks do not meet** where clients use only what they hold. -/
theorem Reached.stacks_apart {clients : Heap.Ledger} (reached : core.Reached clients)
    (apart : other ≠ slot) (has : core.processes.stackOf slot = some stack)
    (had : core.processes.stackOf other = some other_stack) :
    Apart stack.base stack.size other_stack.base other_stack.size := by
  obtain ⟨blocks, ledger, honours, books⟩ := reached.accounted.honest
  obtain ⟨base, size⟩ := books.placed slot stack has
  obtain ⟨other_base, other_size⟩ := books.placed other other_stack had
  obtain ⟨block, _, located, _, large⟩ := honours.held (books.held slot stack has)
  obtain ⟨neighbour, _, found, _, wide⟩ := honours.held (books.held other other_stack had)
  have different : other_stack.handle ≠ stack.handle := fun same =>
    apart (books.apart other slot other_stack stack had has same)
  have between := honours.apart different (Heap.capacity_eq_of_locate located)
    (Heap.capacity_eq_of_locate found)
  unfold Apart
  omega

/-- A creation is a step of a run of the table and its clients. -/
theorem Reached.spawned {clients : Heap.Ledger} {effects : List Effect}
    (reached : core.Reached clients)
    (run : spawn name entry priority now core = ⟨.ok pid, after, effects⟩) :
    after.Reached clients := by
  have performs : (Request.spawn name entry priority now).perform core =
      ⟨.ok (.number pid), after, effects⟩ := by
    rw [Request.perform, Action.map_apply, run]
    rfl
  have step := reached.request (.spawn name entry priority now) (by
    rw [performs]
    exact Answer.returns_ok _)
  rwa [performs] at step

/-- **A creation that answers** gives the process the range that was handed out for its stack. That
range meets no stack that is still out. -/
theorem starts_of_spawn {effects : List Effect} (ran : core.Ran history)
    (run : spawn name entry priority now core = ⟨.ok pid, after, effects⟩) :
    ∃ slot stack place, Starts after pid slot stack place ∧
      stack.size = core.processes.stackBytes ∧ stack.base = after.heap.address stack.handle ∧
      after.heap.Ran (.handing stack.size stack.handle :: history) ∧
      ∀ other other_stack, other ≠ slot → after.processes.stackOf other = some other_stack →
        Outstanding history other_stack.handle other_stack.size →
          Apart stack.base stack.size other_stack.base other_stack.size := by
  have answers : (spawn name entry priority now core).result = .ok pid := by
    rw [run]
  obtain ⟨rfl, slot, handle, heap, _, process, _, served, deep, state, created⟩ :=
    created_of_spawn answers
  obtain rfl : after = ⟨heap, (numbered core.processes).put slot process⟩ := by
    rw [← state, run]
  obtain ⟨ran_on, base, _⟩ := ran.heap.of_allocate served
  obtain ⟨_, _, _, inside, apart⟩ := ran.heap.handedOut served
  have address : heap.address handle = core.heap.address handle := by
    rw [Heap.address, Heap.address, base]
  have addressable : heap.address handle + core.processes.stackBytes < longLimit := by
    rw [address]
    exact inside.trans_lt core.heap.arena.addressable
  refine ⟨slot, _, _, created.starts deep addressable, rfl, rfl, ran_on,
    fun other other_stack different has out => ?_⟩
  rw [created.stackOf different] at has
  rw [(ran.housed has).1]
  show Apart (heap.address handle) _ _ _
  rw [address]
  exact apart _ _ out

end Creating

/-- **Where a new process starts.** In every core that a boot leads to, a creation never stops the
kernel while allocations can be counted, and each one that answers gives the process a stack of the
chosen size, with both stack registers at its last word. That word is payload of the process's own
block exactly where the stack holds a word, and then it meets no other stack that is still out. In a
smaller stack it begins in the header of that block. -/
theorem starts_in_stack {C : Type} [Controller C] {region : Region} {stubs : Stubs}
    {config : Config} {handler : Handler} {startup : Startup C}
    (booted : (Startup.run region stubs config handler startup).result = .ok start)
    (leads : start.Leads core history) (counts : timer.frequency ≠ 0) (name : String)
    (entry : Nat) (priority : Priority) :
    (core.heap.allocations + 1 < longLimit →
      (launch timer name entry priority core).result.Returns) ∧
    ∀ pid after effects, launch timer name entry priority core = ⟨.ok pid, after, effects⟩ →
      ∃ slot stack place, Starts after pid slot stack place ∧ stack.size = config.stackBytes ∧
        (stack.base ≤ place ↔ 4 ≤ config.stackBytes) ∧
        (after.heap.HoldsWord stack.handle place ↔ 4 ≤ config.stackBytes) ∧
        (4 ≤ config.stackBytes → ∀ other other_stack, other ≠ slot →
          after.processes.stackOf other = some other_stack →
          Outstanding history other_stack.handle other_stack.size ∨
            (∃ clients, core.Reached clients) →
          Apart place 4 other_stack.base other_stack.size) ∧
        (config.stackBytes < 4 → ∃ block, after.heap.locate stack.handle = .ok block ∧
          ¬ Apart place 4 (after.heap.base + block.offset) headerBytes) := by
  obtain ⟨⟨arena, now, placed, rfl⟩, _⟩ := Startup.run_ok booted
  have ran : core.Ran history := by
    have whole := (ran_ofArena placed config.stackBytes now).leads leads
    rwa [List.append_nil] at whole
  have bytes : core.processes.stackBytes = config.stackBytes := leads.stackBytes
  refine ⟨fun countable => launch_returns ran counts countable name entry priority,
    fun pid after effects launched => ?_⟩
  have run := spawn_of_launch counts launched
  obtain ⟨slot, stack, place, starts, size, base, ran_on, apart⟩ := starts_of_spawn ran run
  rw [bytes] at size
  have top := starts.top
  have out : Outstanding (.handing stack.size stack.handle :: history) stack.handle stack.size :=
    standing_cons.mpr (Or.inl rfl)
  have low : stack.base ≤ place ↔ 4 ≤ config.stackBytes := by omega
  refine ⟨slot, stack, place, starts, size, low, ⟨fun holds => ?_, fun large => ?_⟩,
    fun large other other_stack different has kept => ?_, fun small => ?_⟩
  · exact low.mp (base ▸ ran_on.low_of_holdsWord holds)
  · exact ran_on.holdsWord out (base ▸ low.mpr large) (by omega)
  · refine Apart.within ?_ (low.mpr large) top.le
    rcases kept with out | ⟨clients, reached⟩
    · exact apart other other_stack different has out
    · exact (reached.spawned run).stacks_apart different starts.stacked has
  · exact ran_on.meets_header out (by omega) (by omega)

/-- What a boot with stacks of a size comes to. -/
def bootedWith (stackBytes : Nat) : Answer KernelRefusal Core :=
  (Startup.run Heap.smallRegion Startup.sampleStubs { stackBytes } .tick
    Startup.listedStartup).result

/-- A boot and a creation, read off their evaluation. -/
theorem exists_of_evaluated (stackBytes : Nat) (check : Core → Bool)
    (evaluated : (bootedWith stackBytes).toOption.any fun start =>
      (launch ⟨0, 100⟩ "init" 64 .normal start).result.toOption == some 1 &&
        check (launch ⟨0, 100⟩ "init" 64 .normal start).state) :
    ∃ start after effects, bootedWith stackBytes = .ok start ∧
      launch ⟨0, 100⟩ "init" 64 .normal start = ⟨.ok 1, after, effects⟩ ∧ check after := by
  cases booted : bootedWith stackBytes with
  | error failure =>
    rw [booted] at evaluated
    cases evaluated
  | ok start =>
    rw [booted] at evaluated
    obtain ⟨answers, checked⟩ := Bool.and_eq_true_iff.mp evaluated
    cases launched : launch ⟨0, 100⟩ "init" 64 .normal start with
    | mk result after effects =>
      rw [launched] at answers checked
      cases result with
      | error failure => cases answers
      | ok pid =>
        cases eq_of_beq answers
        exact ⟨start, after, effects, rfl, launched, checked⟩

/-- With 16 bytes the first word is payload. -/
theorem starts_in_stack_booted : ∃ start after effects slot stack place,
    bootedWith 16 = .ok start ∧
      launch ⟨0, 100⟩ "init" 64 .normal start = ⟨.ok 1, after, effects⟩ ∧
      Starts after 1 slot stack place ∧ after.heap.HoldsWord stack.handle place := by
  obtain ⟨start, after, effects, booted, launched, _⟩ :=
    exists_of_evaluated 16 (fun _ => true) (by decide +kernel)
  have counts : (⟨0, 100⟩ : Timer).frequency ≠ 0 := by decide
  obtain ⟨_, starts⟩ := starts_in_stack booted .here counts "init" 64 .normal
  obtain ⟨slot, stack, place, there, _, _, holds, _⟩ := starts _ _ _ launched
  exact ⟨start, after, effects, slot, stack, place, booted, launched, there,
    holds.mpr (by decide)⟩

/-- **With one byte the process starts in front of its stack.** -/
theorem starts_in_header : ∃ start after effects,
    bootedWith 1 = .ok start ∧
      launch ⟨0, 100⟩ "init" 64 .normal start = ⟨.ok 1, after, effects⟩ ∧
      ∃ stack, after.processes.stackOf 1 = some stack ∧
        (after.processes.process 1).context.esp < stack.base := by
  obtain ⟨start, after, effects, booted, launched, below⟩ :=
    exists_of_evaluated 1 (fun after => (after.processes.stackOf 1).any fun stack =>
      decide ((after.processes.process 1).context.esp < stack.base)) (by decide +kernel)
  obtain ⟨stack, has, low⟩ := (Option.any_eq_true ..).mp below
  exact ⟨start, after, effects, booted, launched, stack, has, of_decide_eq_true low⟩

end Core

end MiniKernel
