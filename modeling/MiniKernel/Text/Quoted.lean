/-
**Text in double quotes.**

A quote and a backslash are escaped by a backslash, the common control characters have letters of
their own, and any other control character is written by its number in braces.
-/

import MiniKernel.Text.Digits

namespace MiniKernel.Text

/-- One ASCII character as it is written between quotes. -/
def escaped (c : Char) : String :=
  if c = '\t' then "\\t"
  else if c = '\r' then "\\r"
  else if c = '\n' then "\\n"
  else if c.toNat = 0 then "\\0"
  else if c = '"' then "\\\""
  else if c = '\\' then "\\\\"
  else if c.toNat < 32 ∨ c.toNat = 127 then
    "\\u\x7b" ++ String.ofList (hexDigits c.toNat) ++ "\x7d"
  else c.toString

/-- ASCII text between double quotes; text with other characters has no such form here. -/
def quoted? (text : String) : Option String :=
  if text.toList.all (·.toNat < 128) then
    some ("\"" ++ String.join (text.toList.map escaped) ++ "\"")
  else none

end MiniKernel.Text
