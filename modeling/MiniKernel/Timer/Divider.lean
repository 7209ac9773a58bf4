/-
**The interval timer chip.**

Its channel 0 divides an input clock of 1193182 Hz by a 16-bit reload value, written to the chip low
byte first. The chip's ports are only written, never read.

* `Divider.reload` — the reload value for a frequency.
-/

import MiniKernel.Action

namespace MiniKernel.Divider

/-- The chip's input clock in Hz. -/
def inputFrequency : Nat := 1193182

/-- The port that takes the mode of a channel. -/
def commandPort : UInt16 := 0x43

/-- The port that takes the reload value of channel 0. -/
def channelPort : UInt16 := 0x40

/-- Channel 0, low byte then high byte, square wave. -/
def squareWave : UInt8 := 0x36

/-- The reload value for a frequency, kept within what the 16-bit counter holds. -/
def reload (frequency : Nat) : Nat :=
  min (max (inputFrequency / max frequency 1) 1) 65535

/-- Program the chip for a frequency; answers the reload value. -/
def program {σ ε : Type} (frequency : Nat) : Action σ ε Nat := do
  let value := reload frequency
  Action.emit (.portWrite commandPort squareWave)
  Action.emit (.portWrite channelPort (UInt8.ofNat value))
  Action.emit (.portWrite channelPort (UInt8.ofNat (value / 256)))
  return value

theorem reload_lt (frequency : Nat) : reload frequency < 65536 := by
  simp only [reload]; omega

end MiniKernel.Divider
