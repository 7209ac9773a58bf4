/-
**What an interrupt controller is asked, and what it has to do.**

* `LineTraffic`, `commandWrites` — what is left touches nothing but the chips; what of it went to
  the command ports.
* `Action.Drives` — a computation answers, and all that it leaves is known; with one lemma for each
  way to put computations together.
* `Controller.Request`, `Controller.Request.perform` — the requests to a controller, and what each
  one makes of the mask (`Controller.Request.onMask`).
* `LawfulController` — **a controller that does what its requests say**; `Controller.Follows` — how
  one is shown to be lawful (`Controller.Follows.lawful`).
* `Controller.Follows.performAll` — what a lawful controller answers to a sequence of requests, and
  the mask it is left with.
-/

import MiniKernel.Interrupt.VectorPair
import Mathlib.Data.List.Flatten

namespace MiniKernel

/-! ### Traffic with the chips -/

/-- The ports of the two chips, and the port that is written to give them time. -/
def chipPorts : List UInt16 :=
  [masterCommand, masterData, slaveCommand, slaveData, Bus.delayPort]

/-- An access to the chips, or a request to a controller known only by its requests. -/
def Effect.IsLine : Effect → Prop
  | .portWrite port _ | .portRead port => port ∈ chipPorts
  | .lineRequest _ => True
  | _ => False

/-- **Nothing but the chips was touched.** -/
def LineTraffic (effects : List Effect) : Prop := ∀ effect ∈ effects, effect.IsLine

theorem LineTraffic.append {effects more : List Effect} (first : LineTraffic effects)
    (rest : LineTraffic more) : LineTraffic (effects ++ more) :=
  List.forall_mem_append.mpr ⟨first, rest⟩

/-- The port and value of a write to a command port. -/
def Effect.command? : Effect → Option (UInt16 × UInt8)
  | .portWrite port value =>
    if port = masterCommand ∨ port = slaveCommand then some (port, value) else none
  | _ => none

/-- **What was written to the command ports**, in order. -/
def commandWrites (effects : List Effect) : List (UInt16 × UInt8) :=
  effects.filterMap Effect.command?

theorem commandWrites_append (effects more : List Effect) :
    commandWrites (effects ++ more) = commandWrites effects ++ commandWrites more :=
  List.filterMap_append

namespace Action

variable {σ τ υ ε α β : Type}

/-- **The computation answers**: with this value, with a state that looks like this, and with traffic
to the chips of which this went to the command ports. -/
def Drives (view : σ → τ) (action : Action σ ε α) (state : σ) (value : α) (shown : τ)
    (writes : List (UInt16 × UInt8)) : Prop :=
  ∃ after effects, action state = ⟨.ok value, after, effects⟩ ∧ view after = shown ∧
    LineTraffic effects ∧ commandWrites effects = writes

variable {view : σ → τ} {action first : Action σ ε α} {next : α → Action σ ε β} {state after : σ}
  {value : α} {last : β} {shown : τ} {writes more : List (UInt16 × UInt8)}

theorem drives_ask (value : α) (state : σ) :
    Drives view (ask (.ok value) : Action σ ε α) state value (view state) [] :=
  ⟨state, [], rfl, rfl, List.forall_mem_nil _, rfl⟩

theorem Drives.bind {ρ : Type} {aspect : σ → ρ} {here : ρ}
    (drives : Drives aspect first state value here writes)
    (later : ∀ after, aspect after = here → Drives view (next value) after last shown more) :
    Drives view (first >>= next) state last shown (writes ++ more) := by
  obtain ⟨after, effects, ran, seen, traffic, written⟩ := drives
  obtain ⟨done, rest, ran', seen', traffic', written'⟩ := later after seen
  refine ⟨done, effects ++ rest, bind_steps ran ran', seen', traffic.append traffic', ?_⟩
  rw [commandWrites_append, written, written']

/-- A computation whose state is known, and another one after it. -/
theorem Drives.step (drives : Drives id first state value after writes)
    (later : Drives view (next value) after last shown more) :
    Drives view (first >>= next) state last shown (writes ++ more) :=
  drives.bind fun left (same : left = after) => by rwa [same]

/-- A first part without effects. -/
theorem Drives.quiet {middle : σ} (ends : first state = ⟨.ok value, middle, []⟩)
    (later : Drives view (next value) middle last shown more) :
    Drives view (first >>= next) state last shown more := by
  unfold Drives
  rw [bind_quiet ends]
  exact later

/-- Less is looked at. -/
theorem Drives.part {ρ : Type} (drives : Drives view action state value shown writes)
    (part : τ → ρ) :
    Drives (fun after => part (view after)) action state value (part shown) writes := by
  obtain ⟨after, effects, ran, seen, rest⟩ := drives
  exact ⟨after, effects, ran, congrArg part seen, rest⟩

/-- Only a part of a known state is looked at. -/
theorem Drives.seen (drives : Drives id action state value after writes) :
    Drives view action state value (view after) writes := drives.part view

theorem Drives.map (drives : Drives view action state value shown writes) (rename : α → β) :
    Drives view (rename <$> action) state (rename value) shown writes := by
  obtain ⟨after, effects, ran, rest⟩ := drives
  refine ⟨after, effects, ?_, rest⟩
  rw [map_apply, ran]
  rfl

/-- A computation on a part shows in the whole what it shows in the part. -/
theorem Drives.within {ρ : Type} {whole : υ → ρ} {all : ρ} {part : υ → σ} {put : σ → υ → υ}
    {outer : υ} (drives : Drives view action (part outer) value shown writes)
    (seen : ∀ inner, view inner = shown → whole (put inner outer) = all) :
    Drives whole (within part put action) outer value all writes := by
  obtain ⟨after, effects, ran, here, rest⟩ := drives
  refine ⟨put after outer, effects, ?_, seen after here, rest⟩
  rw [within_apply, ran]

/-- A renamed answer was given under its own name. -/
theorem ok_of_map {rename : α → β} {after : σ} {effects : List Effect}
    (ran : (rename <$> action) state = ⟨.ok last, after, effects⟩) :
    ∃ value, action state = ⟨.ok value, after, effects⟩ ∧ rename value = last := by
  rw [map_apply] at ran
  cases ends : action state with
  | mk result left traffic =>
    rw [ends] at ran
    cases result with
    | error failure => cases ran
    | ok value =>
      cases ran
      exact ⟨value, rfl, rfl⟩

end Action

/-! ### Requests -/

namespace Controller

/-- What a controller is asked. -/
inductive Request
  | remap (master slave : UInt8)
  | acknowledge (irq : UInt8)
  | readMask
  | setMask (mask : UInt16)
  | enableLine (irq : UInt8)
  | disableLine (irq : UInt8)
  deriving DecidableEq, Repr

/-- What a controller answers. -/
inductive Reply
  | done
  | mask (mask : UInt16)
  deriving DecidableEq, Repr

/-- The mask of one line. -/
def lineBit (irq : UInt8) : UInt16 := UInt16.ofNat (1 <<< irq.toNat)

namespace Request

variable {C : Type}

/-- Carry a request out. -/
def perform [Controller C] : Request → Action C DispatchRefusal Reply
  | remap master slave => (fun _ => Reply.done) <$> Controller.remap master slave
  | acknowledge irq => (fun _ => Reply.done) <$> Controller.acknowledge irq
  | readMask => Reply.mask <$> Controller.mask
  | setMask mask => (fun _ => Reply.done) <$> Controller.setMask mask
  | enableLine irq => (fun _ => Reply.done) <$> Controller.enableLine irq
  | disableLine irq => (fun _ => Reply.done) <$> Controller.disableLine irq

/-- The offsets are acceptable and the line is one of sixteen. -/
def Fits : Request → Prop
  | remap master slave => Windows.acceptable ⟨master, slave⟩ = true
  | acknowledge irq | enableLine irq | disableLine irq => irq.toNat < lineCount
  | readMask | setMask _ => True

instance : DecidablePred Fits
  | remap master slave => inferInstanceAs (Decidable (Windows.acceptable ⟨master, slave⟩ = true))
  | acknowledge irq | enableLine irq | disableLine irq =>
    inferInstanceAs (Decidable (irq.toNat < lineCount))
  | readMask | setMask _ => inferInstanceAs (Decidable True)

/-- The line is one of sixteen. -/
def Known : Request → Prop
  | acknowledge irq | enableLine irq | disableLine irq => irq.toNat < lineCount
  | remap .. | readMask | setMask _ => True

instance : DecidablePred Known
  | acknowledge irq | enableLine irq | disableLine irq =>
    inferInstanceAs (Decidable (irq.toNat < lineCount))
  | remap .. | readMask | setMask _ => inferInstanceAs (Decidable True)

theorem Fits.known {request : Request} (fits : request.Fits) : request.Known := by
  cases request with
  | remap | readMask | setMask => exact True.intro
  | acknowledge | enableLine | disableLine => exact fits

/-- Whether a request ends an interrupt. -/
def Ends : Request → Prop
  | acknowledge _ => True
  | _ => False

/-- Whether a request moves the lines. -/
def Moves : Request → Prop
  | remap .. => True
  | _ => False

theorem Ends.not_moves {request : Request} (ends : request.Ends) : ¬request.Moves := by
  cases request with
  | acknowledge irq => exact id
  | remap | readMask | setMask | enableLine | disableLine => exact ends.elim

/-- **What a request makes of the mask.** -/
def onMask : Request → UInt16 → UInt16
  | setMask mask, _ => mask
  | enableLine irq, old => clearBit old (lineBit irq)
  | disableLine irq, old => old ||| lineBit irq
  | remap .., old | acknowledge _, old | readMask, old => old

/-- The answer to a request. -/
def reply : Request → UInt16 → Reply
  | readMask, old => .mask old
  | _, _ => .done

/-- The answers to a sequence of requests. -/
def replies : List Request → UInt16 → List Reply
  | [], _ => []
  | request :: rest, old => request.reply old :: replies rest (request.onMask old)

/-- The mask after a sequence of requests. -/
def maskAfter (requests : List Request) (old : UInt16) : UInt16 :=
  requests.foldl (fun old request => request.onMask old) old

end Request

/-! ### Lawful controllers -/

section Laws

variable {C : Type} [Controller C] {controller : C} {mask : UInt16} {request : Request}

/-- The controller answers this mask. -/
def Shows (controller : C) (mask : UInt16) : Prop :=
  ((Controller.mask : Action C DispatchRefusal UInt16) controller).result = .ok mask

/-- **A controller that was moved to acceptable offsets**, and worked on since. -/
inductive Moved : C → Prop
  | remap (controller : C) {master slave : UInt8}
    (fits : Windows.acceptable ⟨master, slave⟩ = true) :
    Moved ((Request.remap master slave).perform controller).state
  | asked {controller : C} (moved : Moved controller) {request : Request}
    (fits : request.Fits) : Moved (request.perform controller).state

/-- **The controller does what the request says**: it answers, its mask is as the request makes it,
and nothing but the chips is touched. -/
def Takes (controller : C) (mask : UInt16) (request : Request) : Prop :=
  ∃ after effects, request.perform controller = ⟨.ok (request.reply mask), after, effects⟩ ∧
    Shows after (request.onMask mask) ∧ LineTraffic effects

/-- A request that only answers that it is done, as the work it is. -/
theorem Takes.work {work : Action C DispatchRefusal Unit} (takes : Takes controller mask request)
    (performs : request.perform = (fun _ => Reply.done) <$> work) :
    ∃ after effects, work controller = ⟨.ok (), after, effects⟩ ∧
      (request.perform controller).state = after ∧ Shows after (request.onMask mask) ∧
      LineTraffic effects := by
  obtain ⟨after, effects, ran, shown, traffic⟩ := takes
  rw [ran]
  rw [performs] at ran
  obtain ⟨_, worked, _⟩ := Action.ok_of_map ran
  exact ⟨after, effects, worked, rfl, shown, traffic⟩

end Laws

end Controller

/-- **A controller that does what its requests say**, from whatever state it is in. The end of an
interrupt it takes once it was moved. -/
class LawfulController (C : Type) [Controller C] : Prop where
  shows (controller : C) : ∃ mask, Controller.Shows controller mask
  takes {controller : C} {mask : UInt16} {request : Controller.Request}
    (shown : Controller.Shows controller mask) (fits : request.Fits)
    (ready : request.Ends → Controller.Moved controller) :
    Controller.Takes controller mask request

namespace LawfulController

variable {C : Type} [Controller C] [LawfulController C] {controller : C} {mask : UInt16}

/-- What a lawful controller leaves on a request. -/
theorem traffic (controller : C) {request : Controller.Request} (fits : request.Fits)
    (ready : request.Ends → Controller.Moved controller) :
    LineTraffic (request.perform controller).effects := by
  obtain ⟨mask, shown⟩ := LawfulController.shows controller
  obtain ⟨after, effects, ran, -, traffic⟩ := takes shown fits ready
  rw [ran]
  exact traffic

/-- **A lawful controller can be moved to acceptable offsets and given a mask**, whatever its state.
-/
theorem moved (controller : C) {master slave : UInt8}
    (fits : Windows.acceptable ⟨master, slave⟩ = true) (mask : UInt16) :
    ∃ middle after moves masks,
      (Controller.remap master slave : Action C DispatchRefusal Unit) controller =
        ⟨.ok (), middle, moves⟩ ∧
      (Controller.setMask mask : Action C DispatchRefusal Unit) middle = ⟨.ok (), after, masks⟩ ∧
      Controller.Moved after ∧ Controller.Shows after mask ∧
      LineTraffic moves ∧ LineTraffic masks := by
  obtain ⟨old, shown⟩ := LawfulController.shows controller
  have remaps : Controller.Takes controller old (.remap master slave) := takes shown fits nofun
  obtain ⟨middle, moves, ran, there, shown, traffic⟩ := remaps.work rfl
  have moved : Controller.Moved middle := there ▸ .remap controller fits
  have sets : Controller.Takes middle old (.setMask mask) := takes shown True.intro nofun
  obtain ⟨after, masks, ran', there', shown', traffic'⟩ := sets.work rfl
  exact ⟨middle, after, moves, masks, ran, ran', there' ▸ moved.asked True.intro, shown', traffic,
    traffic'⟩

/-- **A lawful controller lets a line through.** -/
theorem opened (shown : Controller.Shows controller mask) (moved : Controller.Moved controller)
    {irq : UInt8} (known : irq.toNat < lineCount) :
    ∃ after effects,
      (Controller.enableLine irq : Action C DispatchRefusal Unit) controller =
        ⟨.ok (), after, effects⟩ ∧
      Controller.Moved after ∧ Controller.Shows after (clearBit mask (Controller.lineBit irq)) ∧
      LineTraffic effects := by
  have fits : (Controller.Request.enableLine irq).Fits := known
  have opens : Controller.Takes controller mask (.enableLine irq) := takes shown fits nofun
  obtain ⟨after, effects, ran, there, shown', traffic⟩ := opens.work rfl
  exact ⟨after, effects, ran, there ▸ moved.asked fits, shown', traffic⟩

/-- **A lawful controller that was moved takes the end of an interrupt.** -/
theorem acknowledged (moved : Controller.Moved controller) {irq : UInt8}
    (known : irq.toNat < lineCount) :
    ∃ after effects,
      (Controller.acknowledge irq : Action C DispatchRefusal Unit) controller =
        ⟨.ok (), after, effects⟩ ∧ LineTraffic effects := by
  obtain ⟨mask, shown⟩ := LawfulController.shows controller
  have fits : (Controller.Request.acknowledge irq).Fits := known
  have ends : Controller.Takes controller mask (.acknowledge irq) := takes shown fits fun _ => moved
  obtain ⟨after, effects, ran, _, _, traffic⟩ := ends.work rfl
  exact ⟨after, effects, ran, traffic⟩

end LawfulController

namespace Controller

/-- **A controller follows its requests**: the mask it shows is a view of its state, and every
request drives it to the mask that the request says. -/
structure Follows {C : Type} [Controller C] (view : C → UInt16) (ready : C → Prop)
    (writes : Request → List (UInt16 × UInt8)) : Prop where
  serve (controller : C) {request : Request} (fits : request.Fits)
    (able : request.Ends → ready controller) :
    request.perform.Drives view controller (request.reply (view controller))
      (request.onMask (view controller)) (writes request)
  ready {controller : C} {request : Request} (fits : request.Fits)
    (able : request.Moves ∨ ready controller) : ready (request.perform controller).state

namespace Follows

variable {C : Type} [Controller C] {view : C → UInt16} {ready : C → Prop}
  {writes : Request → List (UInt16 × UInt8)} {controller : C} {mask : UInt16}

theorem shows_view (follows : Follows view ready writes) (controller : C) :
    Shows controller (view controller) := by
  obtain ⟨after, effects, ran, _⟩ :=
    follows.serve controller (show Request.readMask.Fits from True.intro) nofun
  obtain ⟨_, answered, same⟩ :=
    Action.ok_of_map (show (Reply.mask <$> Controller.mask) _ = _ from ran)
  rw [Shows, answered]
  cases same
  rfl

theorem moved (follows : Follows view ready writes) (moved : Moved controller) :
    ready controller := by
  induction moved with
  | remap controller fits => exact follows.ready fits (Or.inl True.intro)
  | asked _ fits ih => exact follows.ready fits (Or.inr ih)

/-- **A controller that follows its requests is lawful.** -/
theorem lawful (follows : Follows view ready writes) : LawfulController C where
  shows controller := ⟨_, follows.shows_view controller⟩
  takes {controller mask request} shown fits able := by
    have same : view controller = mask :=
      Except.ok.inj ((follows.shows_view controller).symm.trans shown)
    obtain ⟨after, effects, ran, seen, traffic, _⟩ :=
      follows.serve controller fits fun ends => follows.moved (able ends)
    rw [same] at ran seen
    exact ⟨after, effects, ran, seen ▸ follows.shows_view after, traffic⟩

/-- **A sequence of requests**: the answers, the mask that is left, and all that is written to the
command ports, whatever the controller is made of. -/
theorem performAll (follows : Follows view ready writes) {requests : List Request}
    (fits : ∀ request ∈ requests, request.Fits) (able : ready controller) :
    (requests.mapM Request.perform).Drives view controller
      (Request.replies requests (view controller)) (Request.maskAfter requests (view controller))
      (requests.flatMap writes) := by
  induction requests generalizing controller with
  | nil => exact Action.drives_ask _ _
  | cons request rest ih =>
    obtain ⟨first, others⟩ := List.forall_mem_cons.mp fits
    have still := follows.ready first (Or.inr able)
    obtain ⟨after, effects, ran, seen, traffic, written⟩ :=
      follows.serve controller first fun _ => able
    rw [ran] at still
    obtain ⟨last, more, ran', seen', traffic', written'⟩ := ih others still
    rw [seen] at ran' seen'
    refine ⟨last, effects ++ more, ?_, seen', traffic.append traffic', ?_⟩
    · rw [List.mapM_cons]
      refine Action.bind_steps ran ?_
      rw [Action.bind_apply_ok ran', Action.pure_apply, List.append_nil]
      rfl
    · rw [commandWrites_append, written, written', List.flatMap_cons]

end Follows

/-- A line changed through the whole mask, as a controller without a way of its own does. -/
def throughMask {C ε : Type} [Controller C] (change : UInt16 → UInt16 → UInt16) (irq : UInt8) :
    Action C ε Unit := do
  let old ← Controller.mask
  let bit ← Action.ask (Checked.bit16 irq.toNat)
  Controller.setMask (change old bit)

/-- **A line changed through the whole mask** is changed in the mask, whatever else is looked at. -/
theorem drives_throughMask {C ε τ : Type} [Controller C] {view : C → τ} {controller : C}
    {mask : UInt16} {irq : UInt8} (shows : UInt16 → τ)
    (reads : (Controller.mask : Action C ε UInt16).Drives view controller mask (shows mask) [])
    (sets : ∀ after : C, view after = shows mask → ∀ mask,
      (Controller.setMask mask : Action C ε Unit).Drives view after () (shows mask) [])
    (change : UInt16 → UInt16 → UInt16) (known : irq.toNat < lineCount) :
    (throughMask change irq : Action C ε Unit).Drives view controller ()
      (shows (change mask (lineBit irq))) [] := by
  have bit : (Checked.bit16 irq.toNat : Answer ε UInt16) = .ok (lineBit irq) := if_pos known
  refine reads.bind fun after same => Action.Drives.quiet ?_ (sets after same _)
  rw [bit, Action.ask_apply]

end Controller

end MiniKernel
