/-
**The way in: from a stack image to a handler or a system call.**

* `Machine.entry` — one interrupt, given the stub's stack image. A system call is served and its
  answer put in place of the saved `eax`; anything else is routed under the dispatcher's lock and
  run after the lock is free. What cannot go on stops the machine.
* `Machine.entryWith`, `Machine.interruptWith`, `Machine.dispatchWith` — the same over handlers that
  may do anything to the machine.
* `Machine.trap` — the same on the words in memory, of which the saved `cs` tells how many count.
* `Machine.tickHalt`, `Machine.lineHalt` — what a halt amounts to, on a processor that only waits
  for the tick and on one that is woken by the timer's interrupt.
-/

import MiniKernel.Machine.Basic

namespace MiniKernel

/-- How an interrupt was dealt with. -/
inductive Dispatched
  | handled
  | ignored
  | fatal (report : CrashReport)
  deriving DecidableEq, Repr

namespace Machine

variable {C ε α : Type}

/-! ### Interrupts -/

/-- Route an interrupt and run what it calls for, by one who already owns the dispatcher; `run` is
what a handler does. A fatal outcome is answered, not acted upon. -/
def dispatchWith [Controller C] (run : Handler → Frame → Action (Machine C) DispatchRefusal Unit)
    (frame : Frame) : Action (Machine C) DispatchRefusal Dispatched := do
  match ← onDispatcher (Dispatcher.route frame) with
  | .invoke handler =>
    run handler frame
    return .handled
  | .ignore => return .ignored
  | .fatal report => return .fatal report

/-- Deal with an interrupt by the handlers as they are known. -/
def dispatch [Controller C] (frame : Frame) : Action (Machine C) DispatchRefusal Dispatched :=
  dispatchWith invoke frame

/-- The same under the dispatcher's lock with interrupts masked. -/
def dispatchLocked [Controller C] (frame : Frame) :
    Action (Machine C) DispatchRefusal Dispatched :=
  masked (locked Locks.dispatcher (fun dispatcher held => { held with dispatcher })
    (dispatch frame))

/-- Route an interrupt under the dispatcher's lock, and run what it calls for once the lock is free;
`run` is what a handler does. -/
def interruptWith [Controller C] (run : Handler → Frame → Action (Machine C) ε Unit)
    (frame : Frame) : Action (Machine C) ε Unit := do
  match ← (lockDispatcher (Dispatcher.route frame)).attempt with
  | .ok (.invoke handler) => run handler frame
  | .ok .ignore => return ()
  | .ok (.fatal report) => crash report
  | .error cause =>
    Action.report (.interruptRejected cause)
    stop

/-- Deal with an interrupt by the handlers as they are known. -/
def interrupt [Controller C] (frame : Frame) : Action (Machine C) ε Unit :=
  interruptWith invoke frame

/-! ### Halting -/

/-- A halt that lasts until the next tick and does nothing else. -/
def tickHalt : Action (Machine C) ε Unit :=
  Action.within (fun self => (⟨self.timer, self.cpu⟩ : Clock))
    (fun clock self => { self.withCpu clock.cpu with timer := clock.timer }) Clock.halt

/-- The frame of an interrupt that found the kernel halted. -/
def idleFrame (vector : UInt8) : Frame :=
  { ds := 0x10, number := vector.toUInt32, cs := 0x08, eflags := 0x202 }

/-- A halt that ends with the timer's interrupt on line 0. -/
def lineHalt [Controller C] : Action (Machine C) ε Unit := do
  onCpu (modify fun cpu => { cpu with halts := cpu.halts + 1 })
  let vector ← Action.ask ((← get).dispatcher.windows.vector 0)
  interrupt (idleFrame vector)

/-- Halt for the whole ticks in some milliseconds. -/
def sleep (halt : Action (Machine C) ε Unit) (milliseconds : Nat) : Action (Machine C) ε Unit :=
  Wait.sleep Machine.timer halt milliseconds

/-! ### System calls -/

/-- Serve the system call in a frame; answers what goes into `eax`. The core's lock is free before a
sleep starts to wait. -/
def serve (halt : Action (Machine C) ε Unit) (frame : Frame) : Action (Machine C) ε UInt32 := do
  let timer := (← get).timer
  let call := SystemCall.Call.ofFrame frame
  let answer ← (guardCore (SystemCall.perform timer call)).attempt
  let reply : Except KernelRefusal SystemCall.Reply := match answer with
    | .ok (some reply) => .ok reply
    | .ok none => .error .invalidArgument
    | .error cause => .error cause
  match reply with
  | .ok (.sleep milliseconds) => sleep halt milliseconds
  | _ => pure ()
  return SystemCall.encode reply

/-! ### The stack image -/

/-- Handle one interrupt given the stub's stack image; answers the image afterwards. What a handler
does is `run`. -/
def entryWith [Controller C] (run : Handler → Frame → Action (Machine C) ε Unit)
    (halt : Action (Machine C) ε Unit) (words : List UInt32) :
    Action (Machine C) ε (List UInt32) := do
  match Frame.ofWords words with
  | .error cause =>
    Action.report (.frameRejected cause)
    stop
  | .ok frame =>
    if frame.vector? = some systemCallVector then
      let eax ← serve halt frame
      return words.set Frame.eaxPosition eax
    else
      interruptWith run frame
      return words

/-- Handle one interrupt by the handlers as they are known. -/
def entry [Controller C] (halt : Action (Machine C) ε Unit) (words : List UInt32) :
    Action (Machine C) ε (List UInt32) :=
  entryWith invoke halt words

/-- The words in memory from a stack pointer on, as far as a frame reaches; those past the end read
as 0. -/
def frameMemory (words : List UInt32) : List UInt32 :=
  words ++ List.replicate (Frame.userWords - words.length) 0

/-- Handle one interrupt given the words in memory; answers them afterwards. -/
def trap [Controller C] (halt : Action (Machine C) ε Unit) (words : List UInt32) :
    Action (Machine C) ε (List UInt32) := do
  let memory := frameMemory words
  let count := Frame.wordsNeeded (memory[Frame.csPosition]?.getD 0)
  let after ← entry halt (memory.take count)
  return (after ++ memory.drop count).take words.length

end Machine

end MiniKernel
