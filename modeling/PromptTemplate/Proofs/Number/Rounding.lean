import Mathlib.Algebra.Group.Nat.Defs
import PromptTemplate.Number.Integer
/-!
# What rounding keeps

The numbers that rounding can give are those with a significand of 53 bits (`IsDouble`). Rounding
gives no others (`isDouble_roundNat`), takes every number to the nearest of them
(`IsDouble.dist_roundNat_le`) and so keeps them as they are (`IsDouble.roundNat_eq`). It leads no
number past one of them: what is at or beyond a double before rounding is at or beyond it
afterwards (`IsDouble.le_roundNat`).

That is why a number that is safe after rounding was that number before (`safe?_eq_some_iff`).
-/

namespace PromptTemplate.Number

/-- The number has a significand of 53 bits. -/
def IsDouble (n : Nat) : Prop :=
  ∃ significand exponent, significand < significandEnd ∧ n = significand * 2 ^ exponent

theorem isDouble_of_lt {n : Nat} (h : n < significandEnd) : IsDouble n := ⟨n, 0, h, by simp⟩

/-! ## Units

`2 ^ excessBits n` is the unit that `n` is rounded to. -/

/-- A number with excess bits fills the significand. -/
theorem two_pow_le_of_excessBits {n : Nat} (h : excessBits n ≠ 0) :
    2 ^ (52 + excessBits n) ≤ n := by
  have hn : n ≠ 0 := by
    rintro rfl
    exact h (excessBits_eq_zero (by decide))
  have hlog : 52 + excessBits n = n.log2 := by
    unfold excessBits at h ⊢
    omega
  rw [hlog]
  exact Nat.log2_self_le hn

theorem div_unit_lt (n : Nat) : n / 2 ^ excessBits n < significandEnd := by
  rw [Nat.div_lt_iff_lt_mul (Nat.two_pow_pos _), show significandEnd = 2 ^ 53 from rfl,
    ← Nat.pow_add]
  refine Nat.lt_of_lt_of_le Nat.lt_log2_self (Nat.pow_le_pow_right (by decide) ?_)
  unfold excessBits
  omega

namespace IsDouble

variable {r n : Nat}

/-- A double that fills the significand at a unit is a multiple of the unit. -/
theorem two_pow_dvd (h : IsDouble r) {k : Nat} (hk : 2 ^ (52 + k) ≤ r) : 2 ^ k ∣ r := by
  obtain ⟨m, j, hm, rfl⟩ := h
  have hlt : m * 2 ^ j < 2 ^ (53 + j) := by
    rw [Nat.pow_add]
    exact Nat.mul_lt_mul_of_pos_right hm (Nat.two_pow_pos j)
  have hle : k ≤ j := by
    have := (Nat.pow_lt_pow_iff_right (by decide)).1 (Nat.lt_of_le_of_lt hk hlt)
    omega
  exact Nat.dvd_mul_left_of_dvd (Nat.pow_dvd_pow 2 hle) m

/-- No double lies between a number and the multiple of the unit below it. -/
theorem le_floor (h : IsDouble r) (hle : r ≤ n) :
    r ≤ n / 2 ^ excessBits n * 2 ^ excessBits n := by
  have hpos := Nat.two_pow_pos (excessBits n)
  by_cases hexcess : excessBits n = 0
  · rw [hexcess, Nat.pow_zero, Nat.div_one, Nat.mul_one]
    exact hle
  by_cases hr : 2 ^ (52 + excessBits n) ≤ r
  · obtain ⟨c, hc⟩ := h.two_pow_dvd hr
    rw [Nat.mul_comm] at hc
    rw [hc]
    exact Nat.mul_le_mul_right _ ((Nat.le_div_iff_mul_le hpos).2 (hc ▸ hle))
  · have hfull : 2 ^ 52 ≤ n / 2 ^ excessBits n := by
      rw [Nat.le_div_iff_mul_le hpos, ← Nat.pow_add]
      exact two_pow_le_of_excessBits hexcess
    have := Nat.mul_le_mul_right (2 ^ excessBits n) hfull
    rw [← Nat.pow_add] at this
    omega

/-- No double lies between a number and the multiple of the unit above it. -/
theorem ceil_le (h : IsDouble r) (hlt : n < r) :
    (n / 2 ^ excessBits n + 1) * 2 ^ excessBits n ≤ r := by
  have hpos := Nat.two_pow_pos (excessBits n)
  have hdvd : 2 ^ excessBits n ∣ r := by
    by_cases hexcess : excessBits n = 0
    · rw [hexcess]
      exact Nat.one_dvd r
    · exact h.two_pow_dvd (Nat.le_trans (two_pow_le_of_excessBits hexcess) (Nat.le_of_lt hlt))
  obtain ⟨c, hc⟩ := hdvd
  rw [Nat.mul_comm] at hc
  rw [hc]
  exact Nat.mul_le_mul_right _ ((Nat.div_lt_iff_lt_mul hpos).2 (hc ▸ hlt))

end IsDouble

/-! ## The nearest double -/

/-- The number and its unit give the rounded number by the rule of the remainder. -/
theorem roundNat_cases (n : Nat) :
    (roundNat n = n / 2 ^ excessBits n * 2 ^ excessBits n ∧
        2 * (n % 2 ^ excessBits n) ≤ 2 ^ excessBits n) ∨
      (roundNat n = (n / 2 ^ excessBits n + 1) * 2 ^ excessBits n ∧
        2 ^ excessBits n ≤ 2 * (n % 2 ^ excessBits n)) := by
  unfold roundNat
  simp only [Nat.pow_eq]
  split <;> omega

theorem isDouble_roundNat (n : Nat) : IsDouble (roundNat n) := by
  have hlt := div_unit_lt n
  rcases roundNat_cases n with ⟨h, -⟩ | ⟨h, -⟩
  · exact ⟨_, _, hlt, h⟩
  · by_cases hnext : n / 2 ^ excessBits n + 1 < significandEnd
    · exact ⟨_, _, hnext, h⟩
    · -- The significand has become `2 ^ 53`, which is one bit of a larger exponent.
      have hfull : n / 2 ^ excessBits n + 1 = 2 ^ 53 := by
        unfold significandEnd at hlt hnext
        omega
      refine ⟨1, 53 + excessBits n, by decide, ?_⟩
      rw [h, hfull, Nat.one_mul, Nat.pow_add]

namespace IsDouble

variable {r : Nat}

/-- No double is nearer to a number than the rounded one. -/
theorem dist_roundNat_le (h : IsDouble r) (n : Nat) :
    ((roundNat n : Int) - n).natAbs ≤ ((r : Int) - n).natAbs := by
  have hmod := Nat.div_add_mod' n (2 ^ excessBits n)
  have hrem := Nat.mod_lt n (Nat.two_pow_pos (excessBits n))
  have hnext := Nat.add_one_mul (n / 2 ^ excessBits n) (2 ^ excessBits n)
  have hsides : r ≤ n / 2 ^ excessBits n * 2 ^ excessBits n ∨
      (n / 2 ^ excessBits n + 1) * 2 ^ excessBits n ≤ r := by
    by_cases hle : r ≤ n
    · exact .inl (h.le_floor hle)
    · exact .inr (h.ceil_le (by omega))
  rcases roundNat_cases n with ⟨hround, hhalf⟩ | ⟨hround, hhalf⟩ <;> omega

theorem roundNat_eq (h : IsDouble r) : roundNat r = r := by
  have := h.dist_roundNat_le r
  omega

theorem le_roundNat (h : IsDouble r) {n : Nat} (hle : r ≤ n) : r ≤ roundNat n := by
  have hfloor := h.le_floor hle
  have hpos := Nat.two_pow_pos (excessBits n)
  have hnext := Nat.add_one_mul (n / 2 ^ excessBits n) (2 ^ excessBits n)
  rcases roundNat_cases n with ⟨hround, -⟩ | ⟨hround, -⟩ <;> omega

end IsDouble

/-! ## Integers -/

theorem natAbs_round (z : Int) : (round z).natAbs = roundNat z.natAbs := by
  unfold round
  split <;> omega

theorem round_of_isDouble {z : Int} (h : IsDouble z.natAbs) : round z = z := by
  unfold round
  rw [h.roundNat_eq]
  split <;> omega

/-- Rounding makes no number safe and leaves those that are safe as they are. -/
theorem safe?_eq_some_iff {exact value : Int} :
    safe? exact = some value ↔ value = exact ∧ exact.natAbs ≤ maxSafe := by
  have hend : maxSafe < significandEnd := by decide
  unfold safe? isSafe
  by_cases hsafe : exact.natAbs ≤ maxSafe
  · simp only [round_eq_self (Nat.lt_of_le_of_lt hsafe hend), hsafe]
    simp [eq_comm]
  · -- The first number that is not safe is a double, so rounding stays beyond it.
    have hfirst : IsDouble significandEnd := ⟨1, 53, by decide, rfl⟩
    have hbeyond := hfirst.le_roundNat (n := exact.natAbs) (by unfold maxSafe at hsafe; omega)
    rw [← natAbs_round] at hbeyond
    have hlarge : ¬ (round exact).natAbs ≤ maxSafe := by omega
    simp [hlarge, hsafe]

theorem natAbs_le_of_signed? {cs : List Char} {value : Int} (h : signed? cs = some value) :
    value.natAbs ≤ maxSafe := by
  obtain ⟨exact, -, hsafe⟩ := Option.bind_eq_some_iff.1 h
  obtain ⟨rfl, hle⟩ := safe?_eq_some_iff.1 hsafe
  exact hle

end PromptTemplate.Number
