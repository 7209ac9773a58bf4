/-
**The stack image of an interrupt.**

An entry stub leaves the interrupted registers on the stack, lowest address first: `ds`, the eight
general registers, the interrupt number and error code, then what the processor itself pushed. The
last two words, `useresp` and `ss`, are there only when the interrupt crossed a privilege level,
which the low two bits of the saved `cs` tell.

* `Frame.ofWords` reads an image, and refuses one with too few words.
* `Frame.toWords` writes it back in push order.
* `Frame.ofWords_append` — a well-formed frame is read back from its own image.
-/

import MiniKernel.Refusal

namespace MiniKernel

/-- The interrupted registers in the order the stub leaves them. -/
structure Frame where
  ds : UInt32 := 0
  edi : UInt32 := 0
  esi : UInt32 := 0
  ebp : UInt32 := 0
  /-- The stack pointer when the registers were pushed, not the interrupted stack. -/
  esp : UInt32 := 0
  ebx : UInt32 := 0
  edx : UInt32 := 0
  ecx : UInt32 := 0
  eax : UInt32 := 0
  /-- The interrupt number the stub reported. -/
  number : UInt32 := 0
  errorCode : UInt32 := 0
  eip : UInt32 := 0
  cs : UInt32 := 0
  eflags : UInt32 := 0
  useresp : UInt32 := 0
  ss : UInt32 := 0
  deriving DecidableEq, Repr, Inhabited

namespace Frame

/-- Words of an image taken without a privilege change. -/
def kernelWords : Nat := 14

/-- Words of an image taken from user code. -/
def userWords : Nat := 16

/-- Position of the saved `eax`, where a system call's answer goes. -/
def eaxPosition : Nat := 8

/-- Position of the saved `cs`. -/
def csPosition : Nat := 12

/-- The privilege level held in the low two bits of a code selector. -/
def level (cs : UInt32) : UInt32 := cs &&& 3

/-- The words an image must have, told by its saved `cs`. -/
def wordsNeeded (cs : UInt32) : Nat := if level cs = 0 then kernelWords else userWords

/-- Read an image; words past the frame's own are ignored. -/
def ofWords (words : List UInt32) : Except FrameRefusal Frame :=
  match words with
  | ds :: edi :: esi :: ebp :: esp :: ebx :: edx :: ecx :: eax :: number :: errorCode :: eip ::
      cs :: eflags :: rest =>
    let frame : Frame :=
      { ds, edi, esi, ebp, esp, ebx, edx, ecx, eax, number, errorCode, eip, cs, eflags }
    if level cs = 0 then .ok frame
    else
      match rest with
      | useresp :: ss :: _ => .ok { frame with useresp, ss }
      | _ => .error (.truncated userWords words.length)
  | _ => .error (.truncated kernelWords words.length)

/-- Whether the interrupt came from a ring other than the kernel's. -/
def fromOutside (frame : Frame) : Bool := level frame.cs != 0

/-- The image of a frame in push order. -/
def toWords (frame : Frame) : List UInt32 :=
  [frame.ds, frame.edi, frame.esi, frame.ebp, frame.esp, frame.ebx, frame.edx, frame.ecx,
    frame.eax, frame.number, frame.errorCode, frame.eip, frame.cs, frame.eflags] ++
  if frame.fromOutside then [frame.useresp, frame.ss] else []

/-- The vector of the interrupt; none when the stub reported a number above 255. -/
def vector? (frame : Frame) : Option UInt8 :=
  if frame.number.toNat < 256 then some frame.number.toUInt8 else none

/-- The privilege level the interrupt came from. -/
def privilege (frame : Frame) : Nat := (level frame.cs).toNat

/-- The interrupted stack, present only after a privilege change. -/
def outerStack? (frame : Frame) : Option (UInt32 × UInt32) :=
  if frame.fromOutside then some (frame.useresp, frame.ss) else none

/-- A frame without a privilege change carries no user stack. -/
def WellFormed (frame : Frame) : Prop :=
  level frame.cs = 0 → frame.useresp = 0 ∧ frame.ss = 0

/-- An image taken without a privilege change has no stack words. -/
theorem toWords_inside {frame : Frame} (inside : level frame.cs = 0) :
    frame.toWords = [frame.ds, frame.edi, frame.esi, frame.ebp, frame.esp, frame.ebx, frame.edx,
      frame.ecx, frame.eax, frame.number, frame.errorCode, frame.eip, frame.cs, frame.eflags] := by
  simp [toWords, fromOutside, inside]

theorem toWords_outside {frame : Frame} (outside : level frame.cs ≠ 0) :
    frame.toWords = [frame.ds, frame.edi, frame.esi, frame.ebp, frame.esp, frame.ebx, frame.edx,
      frame.ecx, frame.eax, frame.number, frame.errorCode, frame.eip, frame.cs, frame.eflags,
      frame.useresp, frame.ss] := by
  simp [toWords, fromOutside, outside]

/-- **A well-formed frame is read from its own image**, whatever comes after it. -/
theorem ofWords_append {frame : Frame} (formed : frame.WellFormed) (rest : List UInt32) :
    ofWords (frame.toWords ++ rest) = .ok frame := by
  obtain ⟨_, _, _, _, _, _, _, _, _, _, _, _, cs, _, _, _⟩ := frame
  by_cases inside : level cs = 0
  · obtain ⟨rfl, rfl⟩ := formed inside
    rw [toWords_inside inside]
    exact if_pos inside
  · rw [toWords_outside inside]
    exact if_neg inside

end Frame

end MiniKernel
