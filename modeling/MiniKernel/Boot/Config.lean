/-
**Fixed values of the system, and what a boot may choose.**
-/

import MiniKernel.Console.Level
import MiniKernel.Interrupt.Windows

namespace MiniKernel

/-- The name of the system. -/
def systemName : String := "NightOS"

/-- The version of the system. -/
def systemVersion : String := "0.1.0"

/-- The machine address the kernel's heap starts at. -/
def heapAddress : Nat := 0x100000

/-- Bytes of the kernel's heap. -/
def heapBytes : Nat := 0x100000

/-- Ticks a second unless a boot chooses otherwise. -/
def standardFrequency : Nat := 100

/-- What a boot may choose. -/
structure Config where
  /-- Ticks a second. -/
  tickRate : Nat := standardFrequency
  /-- Stack bytes of a process. -/
  stackBytes : Nat := 4096
  /-- Where the interrupt lines arrive. -/
  windows : Windows := .standard
  verbosity : Level := .info
  deriving DecidableEq, Repr

end MiniKernel
