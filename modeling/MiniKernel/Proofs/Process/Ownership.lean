/-
**Every block of the heap has one owner: a process or a client.**

* `Core.Books` — the ledger of the heap split into the stacks of the processes and what the other
  clients hold, without overlap. Giving a stack out, taking one back and a client's own request keep
  it (`Books.give`, `Books.takeBack`, `Books.serve`).
* `Core.Reached` — the cores met in some run of process requests and of requests of clients that use
  only what they hold.
* `Core.Accounted` — the books agree with the heap and with the process table; every request keeps
  this and reports no stack that the heap would not take back.
* `Core.ownership` — what follows for every core that is reached.
-/

import MiniKernel.Proofs.Heap.Clients
import MiniKernel.Proofs.Process.Runs
import MiniKernel.Proofs.Process.Stacks

namespace MiniKernel

-- A selection pass is known by its lemmas only.
seal ProcessTable.select ProcessTable.selectNotices

/-! ### The books -/

namespace Core

/-- **The ledger of a heap at `base`, split into stacks of `stackBytes` and what clients hold.** -/
structure Books (base : Nat) (stackOf : Slot → Option Stack) (stackBytes : Nat)
    (clients ledger : Heap.Ledger) : Prop where
  placed : ∀ slot stack, stackOf slot = some stack →
    stack.base = base + stack.handle.offset ∧ stack.size = stackBytes
  held : ∀ slot stack, stackOf slot = some stack → ledger stack.handle = some stackBytes
  unshared : ∀ slot stack, stackOf slot = some stack → clients stack.handle = none
  apart : ∀ slot other stack other_stack, stackOf slot = some stack →
    stackOf other = some other_stack → stack.handle = other_stack.handle → slot = other
  included : ∀ handle size, clients handle = some size → ledger handle = some size
  covered : ∀ handle size, ledger handle = some size →
    clients handle = some size ∨ ∃ slot stack, stackOf slot = some stack ∧ stack.handle = handle

namespace Books

variable {base stackBytes : Nat} {stackOf : Slot → Option Stack} {clients ledger : Heap.Ledger}
  {slot : Slot} {handle : Handle}

theorem empty (base stackBytes : Nat) :
    Books base (fun _ => none) stackBytes .empty .empty :=
  ⟨nofun, nofun, nofun, nofun, nofun, nofun⟩

/-- A slot has a stack after one slot's stack was replaced. -/
theorem update_eq_some_iff {entry : Option Stack} {other : Slot} {stack : Stack} :
    Function.update stackOf slot entry other = some stack ↔
      (other = slot ∧ entry = some stack) ∨ (other ≠ slot ∧ stackOf other = some stack) := by
  by_cases here : other = slot
  · subst here
    rw [Function.update_self]
    exact ⟨fun has => Or.inl ⟨rfl, has⟩, fun either => (either.resolve_right (·.1 rfl)).2⟩
  · rw [Function.update_of_ne here]
    exact ⟨fun has => Or.inr ⟨here, has⟩, fun either => (either.resolve_left (here ·.1)).2⟩

/-- A new block becomes the stack of a slot that had none. -/
theorem give (books : Books base stackOf stackBytes clients ledger) (bare : stackOf slot = none)
    (fresh : ledger handle = none) :
    Books base
      (Function.update stackOf slot (some ⟨handle, base + handle.offset, stackBytes⟩)) stackBytes
      clients (ledger.set handle (some stackBytes)) := by
  have unheld : clients handle = none := by
    cases entry : clients handle with
    | none => rfl
    | some size =>
      rw [books.included handle size entry] at fresh
      cases fresh
  have elsewhere : ∀ other stack, stackOf other = some stack → stack.handle ≠ handle := by
    rintro other stack has rfl
    rw [books.held other stack has] at fresh
    cases fresh
  constructor
  · intro other stack has
    rcases update_eq_some_iff.mp has with ⟨rfl, ⟨⟩⟩ | ⟨_, has⟩
    · exact ⟨rfl, rfl⟩
    · exact books.placed other stack has
  · intro other stack has
    rcases update_eq_some_iff.mp has with ⟨rfl, ⟨⟩⟩ | ⟨_, has⟩
    · exact Heap.Ledger.set_same ..
    · rw [Heap.Ledger.set_other (elsewhere other stack has)]
      exact books.held other stack has
  · intro other stack has
    rcases update_eq_some_iff.mp has with ⟨rfl, ⟨⟩⟩ | ⟨_, has⟩
    · exact unheld
    · exact books.unshared other stack has
  · intro first second one two has_one has_two same
    rcases update_eq_some_iff.mp has_one with ⟨rfl, ⟨⟩⟩ | ⟨_, was_one⟩ <;>
      rcases update_eq_some_iff.mp has_two with ⟨rfl, ⟨⟩⟩ | ⟨_, was_two⟩
    · rfl
    · exact absurd same.symm (elsewhere second two was_two)
    · exact absurd same (elsewhere first one was_one)
    · exact books.apart first second one two was_one was_two same
  · intro key size has
    have other : key ≠ handle := by
      rintro rfl
      rw [unheld] at has
      cases has
    rw [Heap.Ledger.set_other other]
    exact books.included key size has
  · intro key size has
    by_cases here : key = handle
    · refine Or.inr ⟨slot, ⟨handle, base + handle.offset, stackBytes⟩, ?_, here.symm⟩
      exact update_eq_some_iff.mpr (Or.inl ⟨rfl, rfl⟩)
    · rw [Heap.Ledger.set_other here] at has
      refine (books.covered key size has).imp_right fun ⟨other, stack, held, same⟩ => ?_
      have apart : other ≠ slot := by
        rintro rfl
        rw [bare] at held
        cases held
      exact ⟨other, stack, update_eq_some_iff.mpr (Or.inr ⟨apart, held⟩), same⟩

/-- The block of a slot's stack is given up. -/
theorem takeBack {stack : Stack} (books : Books base stackOf stackBytes clients ledger)
    (has : stackOf slot = some stack) :
    Books base (Function.update stackOf slot none) stackBytes clients
      (ledger.set stack.handle none) := by
  have elsewhere : ∀ {other held}, Function.update stackOf slot none other = some held →
      stackOf other = some held ∧ held.handle ≠ stack.handle := by
    intro other held has_other
    rcases update_eq_some_iff.mp has_other with ⟨_, ⟨⟩⟩ | ⟨apart, was⟩
    exact ⟨was, fun same => apart (books.apart other slot held stack was has same)⟩
  constructor
  · intro other held has_other
    exact books.placed other held (elsewhere has_other).1
  · intro other held has_other
    obtain ⟨was, apart⟩ := elsewhere has_other
    rw [Heap.Ledger.set_other apart]
    exact books.held other held was
  · intro other held has_other
    exact books.unshared other held (elsewhere has_other).1
  · intro first second one two has_one has_two
    exact books.apart first second one two (elsewhere has_one).1 (elsewhere has_two).1
  · intro key size held
    have other : key ≠ stack.handle := by
      rintro rfl
      rw [books.unshared slot stack has] at held
      cases held
    rw [Heap.Ledger.set_other other]
    exact books.included key size held
  · intro key size held
    have other : key ≠ stack.handle := by
      rintro rfl
      rw [Heap.Ledger.set_same] at held
      cases held
    rw [Heap.Ledger.set_other other] at held
    refine (books.covered key size held).imp_right fun ⟨owner, its, owns, same⟩ => ?_
    have apart : owner ≠ slot := by
      rintro rfl
      rw [has] at owns
      cases owns
      exact other same.symm
    exact ⟨owner, its, update_eq_some_iff.mpr (Or.inr ⟨apart, owns⟩), same⟩

/-- A client's request that moves no stack's entry. -/
theorem serve {request : Heap.Request} {result : Answer HeapRefusal Heap.Reply}
    (books : Books base stackOf stackBytes clients ledger)
    (off : ∀ slot stack, stackOf slot = some stack → ¬ request.moves result stack.handle) :
    Books base stackOf stackBytes (clients.after request result) (ledger.after request result) := by
  refine ⟨books.placed, ?_, ?_, books.apart, ?_, ?_⟩
  · intro slot stack has
    rw [Heap.Ledger.after_of_not_moves _ (off slot stack has)]
    exact books.held slot stack has
  · intro slot stack has
    rw [Heap.Ledger.after_of_not_moves _ (off slot stack has)]
    exact books.unshared slot stack has
  · intro handle size has
    by_cases moves : request.moves result handle
    · rw [← has]
      exact Heap.Ledger.after_of_moves ledger clients moves
    · rw [Heap.Ledger.after_of_not_moves _ moves] at has ⊢
      exact books.included handle size has
  · intro handle size has
    by_cases moves : request.moves result handle
    · left
      rw [← has]
      exact Heap.Ledger.after_of_moves clients ledger moves
    · rw [Heap.Ledger.after_of_not_moves _ moves] at has ⊢
      exact books.covered handle size has

/-- What is held is a client's or a stack, and not both. -/
theorem owner (books : Books base stackOf stackBytes clients ledger) {size : Nat}
    (held : ledger handle = some size) :
    Xor (∃ size, clients handle = some size)
      (∃ slot stack, stackOf slot = some stack ∧ stack.handle = handle) := by
  rcases books.covered handle size held with client | ⟨slot, stack, has, rfl⟩
  · refine Or.inl ⟨⟨size, client⟩, ?_⟩
    rintro ⟨slot, stack, has, rfl⟩
    rw [books.unshared slot stack has] at client
    cases client
  · refine Or.inr ⟨⟨slot, stack, has, rfl⟩, ?_⟩
    rintro ⟨size, client⟩
    rw [books.unshared slot stack has] at client
    cases client

/-- Without clients and stacks nothing is held. -/
theorem unheld (books : Books base stackOf stackBytes clients ledger)
    (nobody : ∀ handle, clients handle = none) (bare : ∀ slot, stackOf slot = none)
    (handle : Handle) : ledger handle = none := by
  cases held : ledger handle with
  | none => rfl
  | some size =>
    rcases books.covered handle size held with client | ⟨slot, stack, has, _⟩
    · rw [nobody] at client
      cases client
    · rw [bare] at has
      cases has

end Books

/-! ### Cores -/

/-- **Table, heap and books agree.** -/
structure Accounted (core : Core) (clients : Heap.Ledger) : Prop where
  consistent : core.processes.Consistent
  housed : core.processes.Housed
  honest : ∃ blocks ledger, core.heap.Honours blocks ledger ∧
    Books core.heap.base core.processes.stackOf core.processes.stackBytes clients ledger

/-- No stack is reported as one the heap would not take back. -/
def Reclaims (effects : List Effect) : Prop :=
  ∀ pid cause, Effect.report (.stackKept pid cause) ∉ effects

variable {core : Core} {clients : Heap.Ledger} {table : ProcessTable} {slot : Slot}

theorem reclaims_nil : Reclaims [] := fun _ _ member => absurd member List.not_mem_nil

theorem Reclaims.append {first second : List Effect} (one : Reclaims first)
    (two : Reclaims second) : Reclaims (first ++ second) := fun pid cause member =>
  (List.mem_append.mp member).elim (one pid cause) (two pid cause)

theorem Reclaims.cons {effect : Effect} {effects : List Effect}
    (other : ∀ pid cause, effect ≠ .report (.stackKept pid cause)) (rest : Reclaims effects) :
    Reclaims (effect :: effects) := by
  intro pid cause member
  rcases List.mem_cons.mp member with same | member
  · exact other pid cause same.symm
  · exact rest pid cause member

theorem reclaims_select (table : ProcessTable) : Reclaims (table.selectNotices.map .report) := by
  intro pid cause reported
  obtain ⟨notice, member, same⟩ := List.mem_map.mp reported
  cases same
  unfold ProcessTable.selectNotices at member
  split at member
  · rcases List.mem_append.mp member with reaped | switched
    · obtain ⟨_, _, other⟩ := List.mem_map.mp reaped
      cases other
    · split at switched
      · cases List.mem_singleton.mp switched
      · cases switched
  · cases member

theorem reclaims_allocate {heap after : Heap} {blocks : List Block} {size : Nat}
    {result : Answer HeapRefusal Handle} {effects : List Effect} (sound : heap.Sound blocks)
    (run : Heap.allocate size heap = ⟨result, after, effects⟩) (returns : result.Returns) :
    Reclaims effects := by
  intro pid cause member
  have goes_on : (Heap.allocate size heap).result.Returns := by
    rw [run]
    exact returns
  have only := Heap.allocate_effects sound goes_on
  rw [run] at only
  cases only _ member

namespace Accounted

/-- A change of the table alone that moves no stack. -/
theorem move (accounted : core.Accounted clients) (consistent : table.Consistent)
    (each : ∀ slot, ProcessTable.Keeps (core.processes.process slot) (table.process slot))
    (bytes : table.stackBytes = core.processes.stackBytes) :
    (⟨core.heap, table⟩ : Core).Accounted clients := by
  obtain ⟨blocks, ledger, honours, books⟩ := accounted.honest
  refine ⟨consistent, accounted.housed.keep each, blocks, ledger, honours, ?_⟩
  show Books _ table.stackOf table.stackBytes _ _
  rw [ProcessTable.stackOf_keep each, bytes]
  exact books

/-- A slot's stack goes back to the heap. -/
theorem returned {heap : Heap} {effects : List Effect} {pid : Nat}
    (accounted : core.Accounted clients)
    (returned : StackReturned core.heap pid (core.processes.stackOf slot) heap effects) :
    effects = [] ∧ ∃ blocks ledger, heap.Honours blocks ledger ∧
      Books heap.base (Function.update core.processes.stackOf slot none)
        core.processes.stackBytes clients ledger := by
  obtain ⟨blocks, ledger, honours, books⟩ := accounted.honest
  cases has : core.processes.stackOf slot with
  | none =>
    rw [has] at returned
    cases returned
    refine ⟨rfl, blocks, ledger, honours, ?_⟩
    rw [← has, Function.update_eq_self]
    exact books
  | some stack =>
    rw [has] at returned
    have held := books.held slot stack has
    cases returned with
    | released run =>
      obtain ⟨_, quiet, base, later, goes_on⟩ :=
        honours.released held run (Or.inr (Answer.returns_ok _))
      refine ⟨quiet, later, _, goes_on, ?_⟩
      rw [base]
      exact books.takeBack has
    | kept run =>
      obtain ⟨served, _⟩ := honours.released held run (Or.inr (Answer.returns_refused _))
      cases served

/-- A new process has a new block for its stack. -/
theorem admitted {heap : Heap} {handle : Handle} {effects : List Effect} {process : ProcessEntry}
    (accounted : core.Accounted clients) (found : core.processes.freeSlot? = some slot)
    (run : Heap.allocate core.processes.stackBytes core.heap = ⟨.ok handle, heap, effects⟩)
    (has : process.stack = some ⟨handle, heap.address handle, core.processes.stackBytes⟩)
    (ready : process.state = .ready) (pid : process.pid = core.processes.nextNumber) :
    (⟨heap, (numbered core.processes).put slot process⟩ : Core).Accounted clients := by
  obtain ⟨blocks, ledger, honours, books⟩ := accounted.honest
  obtain ⟨user, free⟩ := ProcessTable.free_of_freeSlot? found
  obtain ⟨fresh, base, later, goes_on⟩ := honours.allocated run
  have bare : core.processes.stackOf slot = none :=
    (accounted.housed slot).mpr (Or.inr (Or.inl free))
  have housed : (numbered core.processes).Housed := accounted.housed
  refine ⟨accounted.consistent.enlist found pid ready, housed.put user ?_, later, _, goes_on, ?_⟩
  · constructor
    · intro no_stack
      rw [has] at no_stack
      cases no_stack
    · exact fun gone => absurd gone (ProcessEntry.not_isGone .ready ready (by decide) (by decide))
  · show Books heap.base ((numbered core.processes).put slot process).stackOf _ _ _
    rw [ProcessTable.stackOf_put, has, base]
    have given := books.give bare fresh
    rw [← base] at given ⊢
    exact given

/-- A process is gone and its stack with it. -/
theorem parted {heap : Heap} {effects : List Effect} {pid : Nat} {process : ProcessEntry}
    (accounted : core.Accounted clients) (user : slot ≠ ProcessTable.ownSlot)
    (returned : StackReturned core.heap pid (core.processes.process slot).stack heap effects)
    (bare : process.stack = none) (gone : process.isGone) :
    effects = [] ∧ (core.processes.put slot process).Housed ∧
      ∃ blocks ledger, heap.Honours blocks ledger ∧
        Books heap.base (core.processes.put slot process).stackOf core.processes.stackBytes clients
          ledger := by
  obtain ⟨quiet, honest⟩ := accounted.returned returned
  refine ⟨quiet, accounted.housed.put user ⟨fun _ => gone, fun _ => bare⟩, ?_⟩
  rw [ProcessTable.stackOf_put, bare]
  exact honest

/-- A selection pass behind a change of one slot. -/
theorem selected {heap : Heap} (selectable : table.Selectable) (housed : table.Housed)
    (consistent : table.select.Consistent)
    (honest : ∃ blocks ledger, heap.Honours blocks ledger ∧
      Books heap.base table.stackOf table.stackBytes clients ledger) :
    (⟨heap, table.select⟩ : Core).Accounted clients := by
  refine ⟨consistent, housed.select selectable, ?_⟩
  show ∃ blocks ledger, _ ∧ Books _ table.select.stackOf table.select.stackBytes _ _
  rw [selectable.stackOf_select housed, ProcessTable.stackBytes_select]
  exact honest

theorem exited {heap : Heap} {effects : List Effect} {pid : Nat} (code : Int)
    (accounted : core.Accounted clients) (user : core.processes.current ≠ ProcessTable.ownSlot)
    (returned : StackReturned core.heap pid core.processes.running.stack heap effects) :
    effects = [] ∧
      (⟨heap, (Core.exited core.processes code).select⟩ : Core).Accounted clients := by
  have consistent := accounted.consistent
  obtain ⟨quiet, housed, honest⟩ := accounted.parted user returned
    (rfl : ({ core.processes.running with
      state := .zombie, exitStatus := code, stack := none } : ProcessEntry).stack = none)
    (Or.inr rfl)
  exact ⟨quiet, selected (consistent.ending user rfl rfl) housed (consistent.exit user rfl rfl)
    honest⟩

theorem killed {heap : Heap} {effects : List Effect} {pid : Nat}
    (accounted : core.Accounted clients) (user : slot ≠ ProcessTable.ownSlot)
    (returned : StackReturned core.heap pid (core.processes.process slot).stack heap effects) :
    effects = [] ∧ (⟨heap, cleared core.processes slot⟩ : Core).Accounted clients := by
  have cleared := accounted.consistent.clear user
  obtain ⟨quiet, housed, honest⟩ := accounted.parted user returned
    (rfl : ProcessEntry.vacant.stack = none) (Or.inl rfl)
  refine ⟨quiet, ?_⟩
  unfold Core.cleared
  by_cases current : slot = core.processes.current
  · rw [if_pos current] at cleared ⊢
    subst current
    exact selected (accounted.consistent.clearing user) housed cleared honest
  · rw [if_neg current] at cleared ⊢
    exact ⟨cleared, housed, honest⟩

theorem blocked (accounted : core.Accounted clients) (user : slot ≠ ProcessTable.ownSlot)
    (runs : (core.processes.process slot).state = .running) :
    (⟨core.heap, (core.processes.setState slot .blocked).select⟩ : Core).Accounted clients := by
  have consistent := accounted.consistent
  have each : ∀ other, ProcessTable.Keeps (core.processes.process other)
      ((core.processes.setState slot .blocked).process other) :=
    ProcessTable.keeps_put (ProcessTable.Keeps.of_live rfl
      (ProcessEntry.not_isGone .running runs (by decide) (by decide))
      (ProcessEntry.not_isGone .blocked rfl (by decide) (by decide)))
  refine selected (consistent.blocking user runs) (accounted.housed.keep each)
    (consistent.block user runs) ?_
  rw [ProcessTable.stackOf_keep each]
  exact accounted.honest

theorem unblocked (accounted : core.Accounted clients)
    (blocked : (core.processes.process slot).state = .blocked) :
    (⟨core.heap, core.processes.setState slot .ready⟩ : Core).Accounted clients :=
  accounted.move (accounted.consistent.unblock blocked)
    (ProcessTable.keeps_put (ProcessTable.Keeps.of_live rfl
      (ProcessEntry.not_isGone .blocked blocked (by decide) (by decide))
      (ProcessEntry.not_isGone .ready rfl (by decide) (by decide)))) rfl

/-- **A request about processes keeps the books**, and the heap takes back every stack. -/
theorem request {after : Core} {request : Request} {result : Answer ProcessRefusal Reply}
    {effects : List Effect} (accounted : core.Accounted clients)
    (course : core.Course request result after effects) :
    after.Accounted clients ∧ Reclaims effects := by
  obtain ⟨_, _, honours, _⟩ := accounted.honest
  cases course with
  | refused _ cause => exact ⟨accounted, reclaims_nil⟩
  | unmoved _ reply => exact ⟨accounted, reclaims_nil⟩
  | started =>
    exact ⟨accounted.move accounted.consistent.started (fun slot => ⟨rfl, Iff.rfl⟩) rfl,
      reclaims_nil⟩
  | short served =>
    rw [honours.not_allocated served]
    exact ⟨accounted, reclaims_allocate honours.toSound served (Answer.returns_refused _)⟩
  | spawned context found served =>
    have quiet := reclaims_allocate honours.toSound served (Answer.returns_ok _)
    exact ⟨accounted.admitted found served rfl rfl rfl,
      quiet.append (Reclaims.cons (by rintro _ _ ⟨⟩) reclaims_nil)⟩
  | @exited code _ _ user returned =>
    obtain ⟨rfl, left⟩ := accounted.exited code user returned
    exact ⟨left, Reclaims.cons (by rintro _ _ ⟨⟩) (reclaims_select _)⟩
  | killed positive found returned =>
    obtain ⟨rfl, left⟩ := accounted.killed (accounted.consistent.user positive found) returned
    refine ⟨left, Reclaims.cons (by rintro _ _ ⟨⟩) ?_⟩
    split
    · exact reclaims_select _
    · exact reclaims_nil
  | blocked user runs => exact ⟨accounted.blocked user runs, reclaims_select _⟩
  | unblocked waits => exact ⟨accounted.unblocked waits, reclaims_nil⟩
  | yielded =>
    have selectable := accounted.consistent.selectable
    exact ⟨accounted.move accounted.consistent.select (selectable.keeps accounted.housed)
      (ProcessTable.stackBytes_select _), reclaims_select _⟩
  | ticked =>
    exact ⟨accounted.move (accounted.consistent.charge _)
      (ProcessTable.keeps_put ⟨rfl, Iff.rfl⟩) rfl, reclaims_nil⟩

/-- **A client's request keeps the books**, as long as it uses up only what clients hold. -/
theorem client (request : Heap.Request) (accounted : core.Accounted clients)
    (own : ∀ handle, request.spent? = some handle → ∃ size, clients handle = some size)
    (returns : (request.perform core.heap).result.Returns) :
    (⟨(request.perform core.heap).state, core.processes⟩ : Core).Accounted
      (clients.after request (request.perform core.heap).result) := by
  obtain ⟨blocks, ledger, honours, books⟩ := accounted.honest
  have course := Heap.perform_course honours.toSound request (Or.inr returns)
  obtain ⟨later, goes_on⟩ := honours.course course
  refine ⟨accounted.consistent, accounted.housed, later, _, goes_on, ?_⟩
  rw [course.base]
  refine books.serve fun slot stack has moves => ?_
  have unspent : request.spent? ≠ some stack.handle := by
    intro spent
    obtain ⟨size, held⟩ := own stack.handle spent
    rw [books.unshared slot stack has] at held
    cases held
  rcases Heap.Request.answered_or_spent moves with answered | spent
  · rcases course.answered honours.toSound answered with refused | ⟨size, rfl⟩
    · have held := books.held slot stack has
      rw [honours.unheld refused] at held
      cases held
    · exact unspent rfl
  · exact unspent spent

/-- Who has a stack, told by the numbers of the processes. -/
theorem stackOf_eq_none_iff (accounted : core.Accounted clients) (slot : Slot) :
    core.processes.stackOf slot = none ↔
      (core.processes.process slot).pid = 0 ∨ (core.processes.process slot).isGone := by
  rw [accounted.housed slot]
  refine ⟨Or.imp_left ?_, fun either => ?_⟩
  · rintro rfl
    exact accounted.consistent.own
  · rcases either with zero | gone
    · by_contra neither
      obtain ⟨user, live⟩ := not_or.mp neither
      have positive := (accounted.consistent.numbered slot user (not_or.mp live).1).1
      omega
    · exact Or.inr gone

end Accounted

/-! ### Runs -/

/-- **The cores met in a run from a fresh one**, with what the clients hold beside the stacks. The
clients give up and resize only what they hold. -/
inductive Reached : Core → Heap.Ledger → Prop
  | fresh {region : Region} {heap : Heap} (stackBytes now : Nat)
    (made : ((Heap.create region : Action Unit HeapRefusal Heap) ()).result = .ok heap) :
    Reached ⟨heap, ProcessTable.create stackBytes now⟩ .empty
  | request {core : Core} {clients : Heap.Ledger} (reached : Reached core clients)
    (request : Request) (returns : (request.perform core).result.Returns) :
    Reached (request.perform core).state clients
  | client {core : Core} {clients : Heap.Ledger} (reached : Reached core clients)
    (request : Heap.Request)
    (own : ∀ handle, request.spent? = some handle → ∃ size, clients handle = some size)
    (returns : (request.perform core.heap).result.Returns) :
    Reached ⟨(request.perform core.heap).state, core.processes⟩
      (clients.after request (request.perform core.heap).result)

/-- **In every run the books agree with the heap and the table.** -/
theorem Reached.accounted (reached : core.Reached clients) : core.Accounted clients := by
  induction reached with
  | fresh stackBytes now made =>
    obtain ⟨arena, _, rfl⟩ := Heap.create_eq_ok_iff.mp made
    obtain ⟨blocks, honours⟩ := Heap.honours_ofArena arena
    obtain ⟨housed, bare⟩ := ProcessTable.housed_create stackBytes now
    refine ⟨ProcessTable.consistent_create stackBytes now, housed, blocks, _, honours, ?_⟩
    rw [bare]
    exact Books.empty ..
  | request _ request returns ih => exact (ih.request (perform_course request returns)).1
  | client _ request own returns ih => exact ih.client request own returns

/-- **Every block has one owner.** In every core that is reached, each process beside the kernel's
has a stack of its own on the heap until it ends, and no other process has one. A live block is a
client's or a stack's, and never both. A stack is always taken back, so that a heap without clients
and processes is one free block. -/
theorem ownership (reached : core.Reached clients) :
    (∀ slot, (core.processes.process slot).pid ≠ 0 → ¬ (core.processes.process slot).isGone →
      ∃ stack block, core.processes.stackOf slot = some stack ∧
        stack.base = core.heap.address stack.handle ∧ stack.size = core.processes.stackBytes ∧
        core.heap.locate stack.handle = .ok block ∧
        block.requested = core.processes.stackBytes) ∧
    (∀ slot, (core.processes.process slot).pid = 0 ∨ (core.processes.process slot).isGone →
      core.processes.stackOf slot = none) ∧
    (∀ slot other stack other_stack, core.processes.stackOf slot = some stack →
      core.processes.stackOf other = some other_stack → stack.handle = other_stack.handle →
        slot = other) ∧
    (∀ handle size, clients handle = some size →
      ∃ block, core.heap.locate handle = .ok block ∧ block.requested = size) ∧
    (∀ block ∈ core.heap.arena.chain.blocks, block.isFree = false →
      Xor (∃ size, clients ⟨block.payload⟩ = some size)
        (∃ slot stack, core.processes.stackOf slot = some stack ∧
          stack.handle = ⟨block.payload⟩)) ∧
    (∀ slot stack, core.processes.stackOf slot = some stack →
      core.heap.releases + 1 < longLimit → (Heap.release stack.handle core.heap).result = .ok ()) ∧
    (∀ request : Request, (request.perform core).result.Returns →
      Reclaims (request.perform core).effects) ∧
    ((∀ handle, clients handle = none) →
      (∀ slot, (core.processes.process slot).pid ≠ 0 → (core.processes.process slot).isGone) →
      core.heap.used = 0 ∧
        ∃ block, core.heap.arena.chain = ⟨[block], none⟩ ∧ block.isFree = true) := by
  have accounted := reached.accounted
  obtain ⟨blocks, ledger, honours, books⟩ := accounted.honest
  refine ⟨?_, fun slot => (accounted.stackOf_eq_none_iff slot).mpr, books.apart, ?_, ?_, ?_, ?_, ?_⟩
  · intro slot user live
    cases has : core.processes.stackOf slot with
    | none =>
      have bare := (accounted.stackOf_eq_none_iff slot).mp has
      exact absurd bare (not_or.mpr ⟨user, live⟩)
    | some stack =>
      obtain ⟨place, size⟩ := books.placed slot stack has
      obtain ⟨block, located, asked⟩ := (honours.owed _ _).mp (books.held slot stack has)
      exact ⟨stack, block, rfl, place, size, located, asked⟩
  · intro handle size held
    exact (honours.owed handle size).mp (books.included handle size held)
  · intro block member live
    rw [honours.tiled.chain_eq] at member
    exact books.owner (honours.owned (mem_liveBlocks.mpr ⟨member, live⟩))
  · intro slot stack has room
    exact (honours.released (books.held slot stack has) rfl (Or.inl room)).1
  · intro request returns
    exact (accounted.request (perform_course request returns)).2
  · intro nobody gone
    have bare : ∀ slot, core.processes.stackOf slot = none := fun slot =>
      (accounted.stackOf_eq_none_iff slot).mpr (or_iff_not_imp_left.mpr (gone slot))
    obtain ⟨unused, block, only, free⟩ := honours.unowned (books.unheld nobody bare)
    refine ⟨unused, block, ?_, free⟩
    rw [honours.tiled.chain_eq, only]

/-- A core in which a client holds a block behind a process's stack. -/
def sharedCore : Core :=
  ⟨((Heap.Request.allocate 8).perform ProcessTable.smallCore.heap).state,
    ProcessTable.smallCore.processes⟩

theorem reached_sharedCore : sharedCore.Reached (Heap.Ledger.empty.set ⟨48⟩ (some 8)) := by
  have created : ((Request.spawn "init" 64 .normal 0).perform
      ⟨Heap.smallHeap, (ProcessTable.create 16 0).started⟩).result = .ok (.number 1) := by
    decide +kernel
  have allocated : ((Heap.Request.allocate 8).perform ProcessTable.smallCore.heap).result =
      .ok (.handle ⟨48⟩) := by
    decide +kernel
  have on : (⟨Heap.smallHeap, (ProcessTable.create 16 0).started⟩ : Core).Reached .empty :=
    .request (.fresh 16 0 Heap.create_smallRegion) .start (Answer.returns_ok Reply.done)
  have admitted : ProcessTable.smallCore.Reached .empty :=
    .request on _ (created.symm ▸ Answer.returns_ok _)
  have shared := Reached.client admitted (.allocate 8) nofun (allocated.symm ▸ Answer.returns_ok _)
  rw [allocated] at shared
  exact shared

/-- The process has its stack, the client its block, and a kill gives the stack back. -/
theorem ownership_sharedCore : sharedCore.Reached (Heap.Ledger.empty.set ⟨48⟩ (some 8)) ∧
    (∃ stack block, sharedCore.processes.stackOf 1 = some stack ∧
      sharedCore.heap.locate stack.handle = .ok block ∧ block.requested = 16) ∧
    (∃ block, sharedCore.heap.locate ⟨48⟩ = .ok block ∧ block.requested = 8) ∧
    ((Request.kill 1).perform sharedCore).result = .ok .done ∧
    Reclaims ((Request.kill 1).perform sharedCore).effects := by
  have user : (sharedCore.processes.process 1).pid = 1 := by
    decide +kernel
  have ready : (sharedCore.processes.process 1).state = .ready := by
    decide +kernel
  have killed : ((Request.kill 1).perform sharedCore).result = .ok .done := by
    decide +kernel
  obtain ⟨housed, _, _, clients, _, _, reclaims, _⟩ := ownership reached_sharedCore
  obtain ⟨stack, block, has, _, _, located, asked⟩ := housed 1 (user ▸ by decide)
    (ProcessEntry.not_isGone .ready ready (by decide) (by decide))
  refine ⟨reached_sharedCore, ⟨stack, block, has, located, asked⟩,
    clients ⟨48⟩ 8 (Heap.Ledger.set_same ..), killed, reclaims _ ?_⟩
  rw [killed]
  exact Answer.returns_ok _

end Core

end MiniKernel
