/-
**Exceptions and the report of an interrupt nobody handled.**

* `exceptionTitles` — the processor's 32 exceptions in vector order.
* `CrashReport.text` — the lines shown before the machine stops.
-/

import MiniKernel.Interrupt.Frame

namespace MiniKernel

/-- The processor's exceptions in vector order. -/
def exceptionTitles : List String :=
  ["Division By Zero", "Debug", "Non Maskable Interrupt", "Breakpoint", "Overflow",
    "Bound Range Exceeded", "Invalid Opcode", "Device Not Available", "Double Fault",
    "Coprocessor Segment Overrun", "Invalid TSS", "Segment Not Present", "Stack-Segment Fault",
    "General Protection Fault", "Page Fault", "Reserved", "x87 FPU Error", "Alignment Check",
    "Machine Check", "SIMD Floating-Point", "Virtualization"] ++
  List.replicate 9 "Reserved" ++ ["Security Exception", "Reserved"]

/-- The name of the exception on `vector`, for the vectors that are exceptions. -/
def exceptionTitle? (vector : Nat) : Option String := exceptionTitles[vector]?

/-- What is known about an interrupt nobody handled. -/
structure CrashReport where
  vector : UInt32
  errorCode : UInt32
  eip : UInt32
  cs : UInt32
  eflags : UInt32
  deriving DecidableEq, Repr

namespace CrashReport

/-- The report on an interrupted frame. -/
def ofFrame (frame : Frame) : CrashReport where
  vector := frame.number
  errorCode := frame.errorCode
  eip := frame.eip
  cs := frame.cs
  eflags := frame.eflags

/-- Whether the report is on one of the processor's exceptions. -/
def onException (report : CrashReport) : Bool := (exceptionTitle? report.vector.toNat).isSome

/-- The line that says which interrupt it was. -/
def heading (report : CrashReport) : String :=
  match exceptionTitle? report.vector.toNat with
  | some name => "  Exception:  " ++ name ++ " (#" ++ toString report.vector.toNat ++ ")"
  | none => "  Unknown interrupt: " ++ toString report.vector.toNat

/-- The lines shown before the machine stops. -/
def text (report : CrashReport) : String :=
  "KERNEL PANIC\n" ++ report.heading ++ "\n" ++
  "  Error code: " ++ Text.hex report.errorCode.toNat ++ "\n" ++
  "  EIP:        " ++ Text.hexWide 10 report.eip.toNat ++ "\n" ++
  "  CS:         " ++ Text.hexWide 6 report.cs.toNat ++ "\n" ++
  "  EFLAGS:     " ++ Text.hexWide 10 report.eflags.toNat ++ "\n" ++
  "System halted."

end CrashReport

end MiniKernel
