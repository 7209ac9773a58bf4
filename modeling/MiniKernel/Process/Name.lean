/-
**Process names.**

A name is kept as UTF-8 in a field of 32 bytes, the last of which stays 0. Longer text is cut after
the last character that fits whole.

* `Name.ofString` — the name made of a text.
* `Name.text` — the text of a name.
-/

namespace MiniKernel

/-- Bytes of a name field. -/
def nameField : Nat := 32

/-- A name field and how many of its bytes are used. -/
structure Name where
  bytes : Vector UInt8 32
  length : Nat
  deriving DecidableEq

namespace Name

/-- The characters from the front that fit whole into `room` bytes of UTF-8. -/
def fitting : Nat → List Char → List Char
  | _, [] => []
  | room, c :: rest => if c.utf8Size ≤ room then c :: fitting (room - c.utf8Size) rest else []

/-- The name without text. -/
def empty : Name := ⟨Vector.replicate 32 0, 0⟩

/-- The name that keeps as much of a text as fits. -/
def ofString (text : String) : Name :=
  let kept := (String.ofList (fitting (nameField - 1) text.toList)).toUTF8
  ⟨Vector.ofFn fun i : Fin 32 => kept.data[i.val]?.getD 0, kept.size⟩

/-- The text of a name; empty if the used bytes are not UTF-8. -/
def text (name : Name) : String :=
  (String.fromUTF8? ⟨name.bytes.toArray.extract 0 name.length⟩).getD ""

end Name

end MiniKernel
