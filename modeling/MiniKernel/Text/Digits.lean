/-
**Numbers in text.**

* `hex` — hexadecimal with its `0x`, in lower case and without leading zeros.
* `hexWide` — the same, filled with zeros to a total width that counts the `0x`.
* `rightAligned` — filled with blanks on the left.
-/

namespace MiniKernel.Text

/-- The hexadecimal digits of a number, most significant first. -/
def hexDigits (value : Nat) : List Char := Nat.toDigits 16 value

/-- Hexadecimal with its `0x`. -/
def hex (value : Nat) : String := "0x" ++ String.ofList (hexDigits value)

/-- Characters filled on the left to at least `width`. -/
def fillLeft (filler : Char) (width : Nat) (text : List Char) : List Char :=
  List.replicate (width - text.length) filler ++ text

/-- Hexadecimal with its `0x`, filled with zeros to `width` characters in all. -/
def hexWide (width value : Nat) : String :=
  "0x" ++ String.ofList (fillLeft '0' (width - 2) (hexDigits value))

/-- Decimal, filled with blanks to `width` characters. -/
def rightAligned (width value : Nat) : String :=
  String.ofList (fillLeft ' ' width (Nat.toDigits 10 value))

end MiniKernel.Text
