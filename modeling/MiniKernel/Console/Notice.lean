/-
**What the kernel reports.**

A `Notice` is one thing worth a log line, with the facts it is about. Its severity and its wording
are functions of it, so the parts of the kernel report facts and this module alone words them.
-/

import MiniKernel.Console.Level
import MiniKernel.Interrupt.Report

namespace MiniKernel

/-- One thing worth a log line. -/
inductive Notice
  | heapReady (size base : Nat)
  | noBlock (size free : Nat)
  | heapUsage (used free allocations releases : Nat)
  | heapBlock (index offset size : Nat) (isFree : Bool)
  | processCreated (pid : Nat) (name : String) (parent : Nat)
  | processExited (pid : Nat) (code : Int)
  | processKilled (pid : Nat)
  | processReaped (pid : Nat)
  | processSwitched (source target : Nat)
  | stackKept (pid : Nat) (cause : HeapRefusal)
  | controllerRemapped (master slave : UInt8)
  | gatesLoaded (count : Nat)
  | interruptsOn
  | frameRejected (cause : FrameRefusal)
  | interruptRejected (cause : DispatchRefusal)
  | fatal (report : CrashReport)
  | systemCall (name : String) (first second : Nat)
  | unknownCall (number : Nat)
  | timerProgrammed (frequency divisor : Nat)
  | phaseStarted (number count : Nat) (name : String)
  | phaseDone (name : String)
  | phaseFailed (name : String) (cause : KernelRefusal)
  | bootStarted (system version : String)
  | alreadyRunning
  | bootDone
  | bootFailed (cause : KernelRefusal)
  /-- A line of the caller's own. -/
  | message (level : Level) (text : String)
  deriving DecidableEq, Repr

namespace Notice

/-- How severe a notice is. -/
def level : Notice → Level
  | .stackKept .. | .frameRejected _ | .interruptRejected _ | .fatal _ | .phaseFailed ..
  | .bootFailed _ => .error
  | .unknownCall _ | .alreadyRunning => .warn
  | .heapReady .. | .processCreated .. | .processExited .. | .processKilled _
  | .controllerRemapped .. | .gatesLoaded _ | .interruptsOn | .phaseStarted .. | .phaseDone _
  | .bootStarted .. | .bootDone => .info
  | .noBlock .. | .heapUsage .. | .heapBlock .. | .processReaped _ | .timerProgrammed .. => .debug
  | .processSwitched .. | .systemCall .. => .trace
  | .message level _ => level

/-- The wording of a notice. -/
def text : Notice → String
  | .heapReady size base => s!"heap: {size / 1024} KiB arena at " ++ Text.hex base
  | .noBlock size free => s!"heap: no block for {size} bytes ({free} free)"
  | .heapUsage used free allocations releases =>
    s!"heap: used {used} free {free} allocs {allocations} frees {releases}"
  | .heapBlock index offset size isFree =>
    s!"  #{index} " ++ Text.hexWide 8 offset ++ " " ++ Text.rightAligned 8 size ++
      (if isFree then " free" else " used")
  | .processCreated pid name parent => s!"process: created {pid} '{name}' (parent {parent})"
  | .processExited pid code => s!"process: {pid} exited with {code}"
  | .processKilled pid => s!"process: killed {pid}"
  | .processReaped pid => s!"sched: reaped {pid}"
  | .processSwitched source target => s!"sched: {source} -> {target}"
  | .stackKept pid cause => s!"process: stack of {pid} not released: " ++ cause.message
  | .controllerRemapped master slave =>
    "pic: IRQ 0-7 -> " ++ Text.hex master.toNat ++ ", IRQ 8-15 -> " ++ Text.hex slave.toNat
  | .gatesLoaded count => s!"idt: {count} gates loaded"
  | .interruptsOn => "interrupts enabled"
  | .frameRejected cause => "isr: " ++ cause.message
  | .interruptRejected cause => "isr: " ++ cause.message
  | .fatal report => report.text
  | .systemCall name first second =>
    s!"syscall {name} (" ++ Text.hex first ++ ", " ++ Text.hex second ++ ")"
  | .unknownCall number => s!"unknown syscall {number}"
  | .timerProgrammed frequency divisor => s!"pit: {frequency} Hz, divisor {divisor}"
  | .phaseStarted number count name => s!"[{number}/{count}] Initializing {name}..."
  | .phaseDone name => s!"    {name} initialized"
  | .phaseFailed name cause => s!"    {name} failed: " ++ cause.message
  | .bootStarted system version => s!"{system} {version} kernel initialization"
  | .alreadyRunning => "kernel already initialized"
  | .bootDone => "kernel initialization complete"
  | .bootFailed cause => "kernel initialization failed: " ++ cause.message
  | .message _ text => text

end Notice

end MiniKernel
