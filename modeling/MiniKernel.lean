import MiniKernel.Heap.Audit
import MiniKernel.Interrupt.ChainedChips
import MiniKernel.Machine.Boot
import MiniKernel.Proofs.Heap.Merging
import MiniKernel.Text.Quoted
import MiniKernel.Proofs.Effects
import MiniKernel.Proofs.History
import MiniKernel.Proofs.Heap.Owners
import MiniKernel.Proofs.Heap.Requests
import MiniKernel.Proofs.Heap.Integrity
import MiniKernel.Proofs.Heap.Isolation
import MiniKernel.Proofs.Heap.Handles
import MiniKernel.Proofs.Heap.Independence
import MiniKernel.Proofs.Process.Consistency
import MiniKernel.Proofs.Process.Passes
import MiniKernel.Proofs.Process.Lifecycle
import MiniKernel.Proofs.Process.Runs
import MiniKernel.Proofs.Process.Stacks
import MiniKernel.Proofs.Process.Ownership
import MiniKernel.Proofs.Process.Turns
import MiniKernel.Proofs.Interrupt.Requests
import MiniKernel.Proofs.Interrupt.Coverage
import MiniKernel.Proofs.Interrupt.Routing
import MiniKernel.Proofs.SystemCall.Operations
import MiniKernel.Proofs.SystemCall.Origins
import MiniKernel.Proofs.SystemCall.Reports
import MiniKernel.Proofs.SystemCall.Safety
import MiniKernel.Proofs.Process.Moves
import MiniKernel.Proofs.Process.Numbers
import MiniKernel.Proofs.SystemCall.Refusals
import MiniKernel.Proofs.Timer.Waiting
import MiniKernel.Proofs.Machine.Booting
import MiniKernel.Proofs.Machine.Calls
import MiniKernel.Proofs.Machine.Acknowledgement
import MiniKernel.Proofs.Heap.Outstanding
import MiniKernel.Proofs.SystemCall.Memory
import MiniKernel.Proofs.Machine.Memory
import MiniKernel.Proofs.Interrupt.Chips
import MiniKernel.Proofs.Interrupt.VectorChips
import MiniKernel.Proofs.Boot.Phases
import MiniKernel.Proofs.Boot.Record
import MiniKernel.Proofs.Boot.Wiring
import MiniKernel.Proofs.Heap.BestFit
import MiniKernel.Proofs.Interrupt.Discipline
import MiniKernel.Proofs.Interrupt.Lines
import MiniKernel.Proofs.Machine.Stopping
import MiniKernel.Proofs.Heap.Canonical
import MiniKernel.Proofs.Heap.Releasing
import MiniKernel.Proofs.Heap.Reallocating
import MiniKernel.Proofs.Heap.Clearing
import MiniKernel.Proofs.Heap.Auditing
import MiniKernel.Proofs.Process.Rotation
import MiniKernel.Proofs.Process.Accounting
import MiniKernel.Proofs.Process.Creation
import MiniKernel.Proofs.Process.Starting
import MiniKernel.Proofs.Machine.Sleeping
import MiniKernel.Proofs.Boot.Rate
import MiniKernel.Proofs.Interrupt.Installing
import MiniKernel.Proofs.Interrupt.Masks
import MiniKernel.Proofs.Machine.Traps
import MiniKernel.Proofs.Machine.Rebooting
import MiniKernel.Proofs.Process.Names
import MiniKernel.Proofs.Heap.Sweeping
