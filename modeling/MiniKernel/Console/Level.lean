/-
**Severity of a log line.**

Levels are ordered from the most to the least severe; a console set to a level shows that level and
every more severe one.
-/

namespace MiniKernel

/-- Severity, most severe first. -/
inductive Level
  | error
  | warn
  | info
  | debug
  | trace
  deriving DecidableEq, Repr

namespace Level

/-- Position in the order of severity, 0 the most severe. -/
def rank : Level → Nat
  | .error => 0
  | .warn => 1
  | .info => 2
  | .debug => 3
  | .trace => 4

/-- The name of a level. -/
def name : Level → String
  | .error => "Error"
  | .warn => "Warn"
  | .info => "Info"
  | .debug => "Debug"
  | .trace => "Trace"

/-- The word that opens a line of this level. -/
def tag : Level → String
  | .error => "ERROR"
  | .warn => "WARN"
  | .info => "INFO"
  | .debug => "DEBUG"
  | .trace => "TRACE"

/-- Every level, most severe first. -/
def all : List Level := [.error, .warn, .info, .debug, .trace]

/-- Whether a console set to `shown` shows a line of this level. -/
def passes (level shown : Level) : Bool := level.rank ≤ shown.rank

end Level

end MiniKernel
