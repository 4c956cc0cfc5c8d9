/-!
# Rounding to a significand of 53 bits

Times, offsets and iteration counts are kept as binary floating-point numbers, whose significand
has 53 bits. On integers that is one rule: an integer becomes the nearest one of the form
`m * 2 ^ k` with `m < 2 ^ 53`, and of two equally near the one whose significand is even.

Integers up to `2 ^ 53` in absolute value are exact (`round_eq_self`). The safe integers, those up
to `2 ^ 53 - 1`, are also told apart from every other number after rounding.
-/

namespace PromptTemplate.Number

/-- What a significand is below: `2 ^ 53`. -/
def significandEnd : Nat := 9007199254740992

/-- How many bits of `n` do not fit into the significand. -/
def excessBits (n : Nat) : Nat := n.log2 + 1 - 53

/-- The nearest number with a 53-bit significand; a tie goes to the even significand. -/
def roundNat (n : Nat) : Nat :=
  let unit := Nat.pow 2 (excessBits n)
  let significand := n / unit
  let remainder := n % unit
  if 2 * remainder < unit ∨ (2 * remainder = unit ∧ significand % 2 = 0) then significand * unit
  else (significand + 1) * unit

/-- The same for integers: a sign does not change how the absolute value rounds. -/
def round (z : Int) : Int := if z < 0 then -(roundNat z.natAbs : Int) else (roundNat z.natAbs : Int)

/-- The greatest safe integer. -/
def maxSafe : Nat := significandEnd - 1

/-- The integer and its neighbours are all exact. -/
def isSafe (z : Int) : Bool := decide (z.natAbs ≤ maxSafe)

/-! ## Facts -/

theorem excessBits_eq_zero {n : Nat} (h : n < significandEnd) : excessBits n = 0 := by
  unfold excessBits
  by_cases hn : n = 0
  · subst hn
    decide
  · have := (Nat.log2_lt hn).2 (show n < Nat.pow 2 53 from h)
    omega

theorem roundNat_eq_self {n : Nat} (h : n < significandEnd) : roundNat n = n := by
  simp [roundNat, excessBits_eq_zero h, Nat.mod_one]

theorem round_eq_self {z : Int} (h : z.natAbs < significandEnd) : round z = z := by
  unfold round
  rw [roundNat_eq_self h]
  split <;> omega

/-- Above the significand a half goes to the even neighbour. -/
example : round (significandEnd + 1) = significandEnd ∧
    round (significandEnd + 3) = significandEnd + 4 ∧
    round (-(significandEnd + 1)) = -significandEnd := by decide +kernel

end PromptTemplate.Number
