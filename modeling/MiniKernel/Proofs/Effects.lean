/-
**What computations leave.**

* `Action.Leaves` — whatever state a computation runs from, it leaves only what is allowed; with one
  lemma for each way to put computations together.
* `Heap.allocate_leaves`, `Heap.release_leaves` — the heap leaves nothing but notices that there was
  no block, also a damaged heap and when it stops midway.
-/

import MiniKernel.Core

namespace MiniKernel

/-! ### What computations leave -/

/-- **A condition on what is left that goes on to hold when more is left** for which it holds. -/
class Sequential (allowed : List Effect → Prop) : Prop where
  nil : allowed []
  append : ∀ {first rest : List Effect}, allowed first → allowed rest → allowed (first ++ rest)

namespace Action

variable {σ τ ε δ α β : Type} {allowed wider : List Effect → Prop}

/-- **Whatever state it runs from, the computation leaves only what is allowed.** -/
def Leaves (allowed : List Effect → Prop) (action : Action σ ε α) : Prop :=
  ∀ state, allowed (action state).effects

/-- What is left does not depend on how a failure is handed on. -/
theorem attempt_effects (action : Action σ ε α) (state : σ) :
    ((action.attempt : Action σ δ (Except ε α)) state).effects = (action state).effects := by
  cases ends : action state with
  | mk result after effects =>
    cases result with
    | ok value => rw [attempt_ok ends]
    | error failure =>
      cases failure with
      | refused cause => rw [attempt_refused ends]
      | aborted cause => rw [attempt_aborted ends]

/-- Only an effect that is allowed on its own may be left. -/
theorem leaves_emit {effect : Effect} (may : allowed [effect]) :
    Leaves allowed (emit effect : Action σ ε Unit) := fun _ => may

section Sequences

variable [Sequential allowed]

theorem leaves_pure (value : α) : Leaves allowed (pure value : Action σ ε α) :=
  fun _ => Sequential.nil

/-- A question leaves nothing, whether it is answered or not. -/
theorem leaves_ask (answer : Answer ε α) : Leaves allowed (ask answer : Action σ ε α) :=
  fun _ => Sequential.nil

theorem leaves_get : Leaves allowed (get : Action σ ε σ) := fun _ => Sequential.nil

theorem leaves_modify (change : σ → σ) : Leaves allowed (modify change : Action σ ε PUnit) :=
  fun _ => Sequential.nil

/-- Two computations in a row leave only what is allowed if the first one does from where it starts,
and the second one from anywhere. -/
theorem effects_bind {first : Action σ ε α} {next : α → Action σ ε β} {state : σ}
    (here : allowed (first state).effects) (later : ∀ value, Leaves allowed (next value)) :
    allowed ((first >>= next) state).effects := by
  rw [bind_apply]
  cases (first state).result with
  | error failure => exact here
  | ok value => exact Sequential.append here (later value _)

end Sequences

namespace Leaves

variable {action : Action σ ε α}

/-- What leaves only so much leaves no more than that. -/
theorem mono (leaves : Leaves allowed action)
    (widens : ∀ effects, allowed effects → wider effects) : Leaves wider action :=
  fun state => widens _ (leaves state)

/-- **A row of computations leaves what each of them may**: the second one is looked at from any state,
as what the first one leaves is not told apart. -/
theorem bind [Sequential allowed] {next : α → Action σ ε β} (here : Leaves allowed action)
    (later : ∀ value, Leaves allowed (next value)) : Leaves allowed (action >>= next) :=
  fun state => effects_bind (here state) later

/-- So does a loop over items, by as many steps as there are items. -/
theorem forM [Sequential allowed] {ι : Type} {body : ι → Action σ ε Unit}
    (each : ∀ item, Leaves allowed (body item)) (items : List ι) :
    Leaves allowed (items.forM body) := by
  induction items with
  | nil => exact leaves_pure _
  | cons item items ih => exact (each item).bind fun _ => ih

/-- A part of a state leaves what it leaves by itself. -/
theorem within {part : τ → σ} {put : σ → τ → τ} (leaves : Leaves allowed action) :
    Leaves allowed (within part put action) := fun state => leaves (part state)

/-- A refusal by another name comes with the same effects. -/
theorem relabel (leaves : Leaves allowed action) (rename : ε → δ) :
    Leaves allowed (action.relabel rename) := leaves

theorem attempt (leaves : Leaves allowed action) :
    Leaves allowed (action.attempt : Action σ δ (Except ε α)) := by
  intro state
  rw [attempt_effects]
  exact leaves state

theorem ite {condition : Prop} [Decidable condition] {other : Action σ ε α}
    (leaves : Leaves allowed action) (otherwise : Leaves allowed other) :
    Leaves allowed (if condition then action else other) := by
  split
  · exact leaves
  · exact otherwise

end Leaves

end Action

open MiniKernel.Action

/-! ### The heap -/

namespace Heap

variable {ε : Type} {allowed : List Effect → Prop} [Sequential allowed]

/-- A header is stored in silence, and so is one that does not fit into the arena. -/
theorem storeHeader_leaves (offset : Nat) (header : Header) :
    Leaves allowed (storeHeader offset header : Action Heap ε Unit) := by
  refine leaves_get.bind fun heap => (leaves_modify _).bind fun _ => ?_
  cases heap.arena.headerFault? offset with
  | none => exact leaves_pure _
  | some fault => exact leaves_ask _

theorem fetchHeader_leaves (offset : Nat) :
    Leaves allowed (fetchHeader offset : Action Heap ε Header) := by
  refine leaves_get.bind fun heap => ?_
  cases heap.arena.headerFault? offset with
  | none => exact leaves_pure _
  | some fault => exact leaves_ask _

/-- A block is divided by its headers alone. -/
theorem split_leaves (block : Block) (wanted : Nat) :
    Leaves allowed (split block wanted : Action Heap ε Header) := by
  refine .ite ((leaves_ask _).bind fun tail => ?_) (leaves_pure _)
  exact (storeHeader_leaves tail _).bind fun _ => leaves_pure _

/-- Counters are checked before they are changed; one that overflows stops the heap in silence. -/
theorem chargeTaken_leaves (span : Nat) :
    Leaves allowed (chargeTaken span : Action Heap ε Unit) := by
  refine leaves_get.bind fun _ => (leaves_ask _).bind fun _ => (leaves_modify _).bind fun _ => ?_
  refine leaves_get.bind fun _ => (leaves_ask _).bind fun _ => (leaves_modify _).bind fun _ => ?_
  exact leaves_get.bind fun _ => (leaves_ask _).bind fun _ => leaves_modify _

theorem chargeReleased_leaves (span : Nat) :
    Leaves allowed (chargeReleased span : Action Heap ε Unit) := by
  refine leaves_get.bind fun _ => (leaves_ask _).bind fun _ => (leaves_modify _).bind fun _ => ?_
  refine leaves_get.bind fun _ => (leaves_ask _).bind fun _ => (leaves_modify _).bind fun _ => ?_
  exact leaves_get.bind fun _ => (leaves_ask _).bind fun _ => leaves_modify _

/-- A request that finds no block reports it, and nothing else is ever left. -/
theorem allocate_leaves (short : ∀ size free, allowed [.report (.noBlock size free)]) (size : Nat) :
    Leaves allowed (allocate size) := by
  refine leaves_get.bind fun heap => .ite (leaves_ask _) (.ite (leaves_ask _) ?_)
  refine (leaves_ask _).bind fun found => ?_
  cases found with
  | none => exact (leaves_emit (short _ _)).bind fun _ => leaves_ask _
  | some block =>
    refine (split_leaves _ _).bind fun header => (storeHeader_leaves _ _).bind fun _ => ?_
    exact (chargeTaken_leaves _).bind fun _ => leaves_pure _

/-- Joining leaves nothing however long it goes on, since no step of it does. The induction is on how
many steps are allowed. -/
theorem coalesceFrom_leaves (limit cursor : Nat) :
    Leaves allowed (coalesceFrom limit cursor : Action Heap ε Unit) := by
  induction limit generalizing cursor with
  | zero => exact leaves_ask _
  | succ limit ih =>
    refine (fetchHeader_leaves cursor).bind fun current => .ite (leaves_pure _) ?_
    refine (fetchHeader_leaves current.next).bind fun following => .ite ?_ (ih current.next)
    refine (leaves_ask _).bind fun gained => (leaves_ask _).bind fun size => ?_
    exact (storeHeader_leaves cursor _).bind fun _ => ih cursor

/-- A release leaves nothing. -/
theorem release_leaves (handle : Handle) : Leaves allowed (release handle) := by
  refine leaves_get.bind fun heap => (leaves_ask _).bind fun block => ?_
  refine (storeHeader_leaves _ _).bind fun _ => (chargeReleased_leaves _).bind fun _ => ?_
  exact leaves_get.bind fun heap => coalesceFrom_leaves _ _

end Heap

end MiniKernel
