/-
**Arithmetic that must fit its word.**

Numbers are natural numbers; the limit of a word is the count of its values: `byteLimit`,
`wordLimit` for 32 bits and `longLimit` for 64. Each operation answers the exact result when the
word can hold it and aborts otherwise. Sizes, offsets and addresses are computed in native words,
and these are taken to have 64 bits: their limit is `longLimit`.

* `Checked.add_eq_ok`, `Checked.sub_eq_ok`, `Checked.mul_eq_ok` — when the operation answers.
* `Checked.lt_of_add_returns`, `Checked.le_of_sub_returns` — it answers only then.
-/

import MiniKernel.Abort

namespace MiniKernel

/-- Number of values of an 8-bit word. -/
abbrev byteLimit : Nat := 256

/-- Number of values of a 32-bit word. -/
abbrev wordLimit : Nat := 4294967296

/-- Number of values of a 64-bit word. -/
abbrev longLimit : Nat := 18446744073709551616

namespace Checked

variable {ε : Type}

/-- The sum, if it is below `limit`. -/
def add (limit left right : Nat) : Answer ε Nat :=
  if left + right < limit then .ok (left + right) else .abort (.overflow .add)

/-- The difference, if it is not negative. -/
def sub (left right : Nat) : Answer ε Nat :=
  if right ≤ left then .ok (left - right) else .abort (.overflow .subtract)

/-- The product, if it is below `limit`. -/
def mul (limit left right : Nat) : Answer ε Nat :=
  if left * right < limit then .ok (left * right) else .abort (.overflow .multiply)

/-- The whole quotient, if the divisor is not zero. -/
def div (left right : Nat) : Answer ε Nat :=
  if right = 0 then .abort .divideByZero else .ok (left / right)

/-- The byte with only bit `line` set. -/
def bit8 (line : Nat) : Answer ε UInt8 :=
  if line < 8 then .ok (UInt8.ofNat (1 <<< line)) else .abort (.overflow .shiftLeft)

/-- The 16-bit word with only bit `line` set. -/
def bit16 (line : Nat) : Answer ε UInt16 :=
  if line < 16 then .ok (UInt16.ofNat (1 <<< line)) else .abort (.overflow .shiftLeft)

theorem add_eq_ok {limit left right : Nat} (fits : left + right < limit) :
    add limit left right = (.ok (left + right) : Answer ε Nat) := by
  simp [add, fits]

theorem lt_of_add_returns {limit left right : Nat}
    (returns : (add limit left right : Answer ε Nat).Returns) : left + right < limit := by
  refine Decidable.byContradiction fun full => returns (.overflow .add) ?_
  rw [add, if_neg full]
  rfl

theorem le_of_sub_returns {left right : Nat} (returns : (sub left right : Answer ε Nat).Returns) :
    right ≤ left := by
  refine Decidable.byContradiction fun short => returns (.overflow .subtract) ?_
  rw [sub, if_neg short]
  rfl

theorem sub_eq_ok {left right : Nat} (ordered : right ≤ left) :
    sub left right = (.ok (left - right) : Answer ε Nat) := by
  simp [sub, ordered]

theorem mul_eq_ok {limit left right : Nat} (fits : left * right < limit) :
    mul limit left right = (.ok (left * right) : Answer ε Nat) := by
  simp [mul, fits]

theorem div_eq_ok {left right : Nat} (positive : right ≠ 0) :
    div left right = (.ok (left / right) : Answer ε Nat) := by
  simp [div, positive]

end Checked

end MiniKernel
