/-
**A bus of byte ports, each with a latch.**

A write sets the port's latch; a read answers the latch, or 0 if the port was never written. Both
are seen from outside.

* `Bus.latch?_set` — a latch holds the last value written to its port.
-/

import MiniKernel.Action

namespace MiniKernel

/-- The latched values, one entry a port. -/
structure Bus where
  latches : List (UInt16 × UInt8) := []
  deriving DecidableEq, Repr

namespace Bus

variable {ε : Type}

/-- The latch of a port in a list of latches. -/
def lookup (port : UInt16) : List (UInt16 × UInt8) → Option UInt8
  | [] => none
  | (other, value) :: rest => if other = port then some value else lookup port rest

/-- A list of latches with one port's value replaced, or added at the end. -/
def replace (port : UInt16) (value : UInt8) : List (UInt16 × UInt8) → List (UInt16 × UInt8)
  | [] => [(port, value)]
  | (other, old) :: rest =>
    if other = port then (other, value) :: rest else (other, old) :: replace port value rest

/-- The value latched on a port, if there is one. -/
def latch? (bus : Bus) (port : UInt16) : Option UInt8 := lookup port bus.latches

/-- The bus after a value is latched on a port. -/
def set (bus : Bus) (port : UInt16) (value : UInt8) : Bus := ⟨replace port value bus.latches⟩

/-- A bus on which these values are latched in order. -/
def ofLatches (latches : List (UInt16 × UInt8)) : Bus :=
  latches.foldl (fun bus entry => bus.set entry.1 entry.2) {}

/-- Write a byte to a port. -/
def write (port : UInt16) (value : UInt8) : Action Bus ε Unit := do
  Action.emit (.portWrite port value)
  modify (·.set port value)

/-- Read a byte from a port. -/
def read (port : UInt16) : Action Bus ε UInt8 := do
  Action.emit (.portRead port)
  return ((← get).latch? port).getD 0

/-- The port written to give a slow device time. -/
def delayPort : UInt16 := 0x80

/-- Spend one port cycle. -/
def pause : Action Bus ε Unit := write delayPort 0

theorem lookup_replace (port other : UInt16) (value : UInt8) (latches : List (UInt16 × UInt8)) :
    lookup other (replace port value latches) =
      if port = other then some value else lookup other latches := by
  induction latches with
  | nil => rfl
  | cons entry rest ih =>
    obtain ⟨key, old⟩ := entry
    by_cases same : key = port
    · subst same
      by_cases asked : key = other <;> simp [replace, lookup, asked]
    · by_cases asked : key = other
      · subst asked
        simp [replace, lookup, same, Ne.symm same]
      · simp [replace, lookup, same, asked, ih]

/-- A latch holds the last value written to its port. -/
theorem latch?_set (bus : Bus) (port other : UInt16) (value : UInt8) :
    (bus.set port value).latch? other = if port = other then some value else bus.latch? other :=
  lookup_replace port other value bus.latches

end Bus

end MiniKernel
