/-
**The board of a boot.**

A board lists components in the order they were registered, at most eight, each with how far it has
come up.

* `Board.isUp` — there are components and every one has come up.
-/

import MiniKernel.Refusal

namespace MiniKernel

/-- How far a component has come up. -/
inductive Progress
  | notStarted
  | inProgress
  | completed
  | failed (cause : KernelRefusal)
  deriving DecidableEq, Repr

/-- The wording of a progress. -/
def Progress.text : Progress → String
  | .notStarted => "Not Started"
  | .inProgress => "In Progress"
  | .completed => "Completed"
  | .failed cause => "Failed: " ++ cause.message

/-- A component and how far it has come up. -/
structure Component where
  name : String
  progress : Progress := .notStarted
  deriving DecidableEq, Repr

/-- Whether a component has come up. -/
def Component.isUp (component : Component) : Bool := component.progress == .completed

/-- Components in the order they were registered. -/
structure Board where
  components : List Component := []
  deriving DecidableEq, Repr

namespace Board

/-- Components a board has room for. -/
def capacity : Nat := 8

/-- Whether a board has room for one more. -/
def hasRoom (board : Board) : Bool := decide (board.components.length < capacity)

/-- The board with one more component; a full board stays as it is. -/
def register (board : Board) (name : String) : Board :=
  if board.hasRoom then ⟨board.components ++ [⟨name, .notStarted⟩]⟩ else board

/-- The components with the progress of the first one of a name replaced. -/
def updateFirst (name : String) (progress : Progress) : List Component → List Component
  | [] => []
  | component :: rest =>
    if component.name = name then { component with progress } :: rest
    else component :: updateFirst name progress rest

/-- The board with the progress of the first component of a name replaced. -/
def update (board : Board) (name : String) (progress : Progress) : Board :=
  ⟨updateFirst name progress board.components⟩

/-- The progress of the first component of a name. -/
def get? (board : Board) (name : String) : Option Progress :=
  (board.components.find? (·.name == name)).map (·.progress)

/-- Whether there are components and every one has come up. -/
def isUp (board : Board) : Bool :=
  !board.components.isEmpty && board.components.all Component.isUp

/-- A board with these components registered in order. -/
def ofNames (names : List String) : Board := names.foldl register {}

end Board

end MiniKernel
