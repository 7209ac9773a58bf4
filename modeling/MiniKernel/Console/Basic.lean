/-
**The console the log is written to.**

Nothing is written before the console is attached, and no line less severe than its level. What is
written goes out over a serial line to a terminal, on which a backspace or a delete has to erase.

* `Console.sent` — the text that the serial line carries.
* `Console.transcript` — the text that a computation's reports leave.
-/

import MiniKernel.Effect

namespace MiniKernel

/-- Whether the log has somewhere to go, and down to which severity it is shown. -/
structure Console where
  attached : Bool := false
  level : Level := .info
  deriving DecidableEq, Repr

namespace Console

/-- Whether a line of this level is shown, were the console attached. -/
def shows (console : Console) (level : Level) : Bool := level.passes console.level

/-- The line of a notice. -/
def line (notice : Notice) : String := "[" ++ notice.level.tag ++ "] " ++ notice.text ++ "\n"

/-- Whether a character asks the terminal to erase: a backspace or a delete. -/
def erases (c : Char) : Bool := c.toNat == 8 || c.toNat == 127

/-- What goes out for one character. To erase is to step back, write a blank and step back. -/
def signals (c : Char) : List Char := if erases c then ['\x08', ' ', '\x08'] else [c]

/-- The text that the serial line carries. -/
def sent (text : String) : String := String.ofList (text.toList.flatMap signals)

/-- The text of one effect: a report's line if the console shows it, nothing otherwise. -/
def written (console : Console) : Effect → String
  | .report notice =>
    if console.attached && console.shows notice.level then sent (line notice) else ""
  | _ => ""

/-- The text that a computation's reports leave. -/
def transcript (console : Console) (effects : List Effect) : String :=
  String.join (effects.map console.written)

end Console

end MiniKernel
