import Mathlib.Data.Int.Range
import PromptTemplate.Proofs.Number.Rounding
/-!
# Counting in rounded numbers

A loop counts up from its first bound and rounds at every step (`CountsUp`). Between safe bounds no
step is lost: the count passes every integer, in order and once, and the step behind the last one
leads past the bound (`countsUp_iff`). How many there are is worked out with two roundings, each of
which is off by one at most (`natAbs_round_sub_le`), and by nothing up to `2 ^ 53`.
-/

namespace PromptTemplate.Number

/-- Counting up from a number in rounded steps, for as long as it is at most `last`, passes these
numbers and comes to an end. -/
inductive CountsUp (last : Int) : Int → List Int → Prop
  | done {n : Int} (h : last < n) : CountsUp last n []
  | pass {n : Int} {ns : List Int} (h : n ≤ last) (hrest : CountsUp last (round (n + 1)) ns) :
    CountsUp last n (n :: ns)

/-! ## Integers one after the other -/

theorem range_of_le {m n : Int} (h : n ≤ m) : Int.range m n = [] := by
  unfold Int.range
  rw [Int.toNat_of_nonpos (by omega)]
  rfl

theorem range_of_lt {m n : Int} (h : m < n) : Int.range m n = m :: Int.range (m + 1) n := by
  unfold Int.range
  rw [show (n - m).toNat = (n - (m + 1)).toNat + 1 by omega, List.range_succ_eq_map, List.map_cons,
    List.map_map, Int.natCast_zero, Int.add_zero]
  refine congrArg (m :: ·) (List.map_congr_left fun k _ => ?_)
  show m + ((k + 1 : Nat) : Int) = m + 1 + k
  omega

theorem pairwise_range (m n : Int) : (Int.range m n).Pairwise (· < ·) := by
  unfold Int.range
  rw [List.pairwise_map]
  exact List.pairwise_lt_range.imp fun h => by omega

/-! ## Steps -/

theorem isDouble_of_le {n : Nat} (h : n ≤ significandEnd) : IsDouble n := by
  rcases Nat.lt_or_eq_of_le h with hlt | rfl
  · exact isDouble_of_lt hlt
  · exact ⟨1, 53, by decide, rfl⟩

/-- The step from the greatest safe integer is the last that is not lost. -/
theorem round_add_one {n : Int} (h : n.natAbs ≤ maxSafe) : round (n + 1) = n + 1 := by
  refine round_of_isDouble (isDouble_of_le ?_)
  unfold maxSafe significandEnd at h
  unfold significandEnd
  omega

/-- The induction is on how far the count is from the end. -/
theorem countsUp_range {n last : Int} (hn : -maxSafe ≤ n) (hlast : last ≤ maxSafe) :
    CountsUp last n (Int.range n (last + 1)) := by
  obtain ⟨k, hk⟩ : ∃ k, k = (last + 1 - n).toNat := ⟨_, rfl⟩
  induction k generalizing n with
  | zero =>
    rw [range_of_le (by omega)]
    exact .done (by omega)
  | succ k ih =>
    rw [range_of_lt (by omega)]
    refine .pass (by omega) ?_
    rw [round_add_one (by omega)]
    exact ih (by omega) (by omega)

theorem CountsUp.unique {n last : Int} {ns ns' : List Int} (h : CountsUp last n ns)
    (h' : CountsUp last n ns') : ns = ns' := by
  induction h generalizing ns' with
  | done hlt =>
    cases h' with
    | done => rfl
    | pass hle => omega
  | pass hle _ ih =>
    cases h' with
    | done hlt => omega
    | pass _ hrest => rw [ih hrest]

theorem countsUp_iff {n last : Int} {ns : List Int} (hn : n.natAbs ≤ maxSafe)
    (hlast : last.natAbs ≤ maxSafe) : CountsUp last n ns ↔ ns = Int.range n (last + 1) := by
  have hrange := @countsUp_range n last (by omega) (by omega)
  constructor
  · exact fun h => h.unique hrange
  · rintro rfl
    exact hrange

/-! ## The number of steps -/

theorem exists_isDouble_near {n : Nat} (h : n ≤ 2 * significandEnd + 1) :
    ∃ r, IsDouble r ∧ r ≤ n ∧ n ≤ r + 1 := by
  by_cases hsmall : n ≤ significandEnd
  · exact ⟨n, isDouble_of_le hsmall, Nat.le_refl n, Nat.le_succ n⟩
  · -- Twice a double is a double, and every second number is twice one.
    obtain ⟨m, k, hm, heq⟩ := isDouble_of_le (n := n / 2) (by omega)
    refine ⟨2 * (n / 2), ⟨m, k + 1, hm, ?_⟩, by omega, by omega⟩
    rw [heq, Nat.pow_succ, Nat.mul_left_comm, Nat.mul_comm 2]

/-- Up to `2 ^ 54 + 1` rounding is off by one at most. -/
theorem natAbs_round_sub_le {z : Int} (h : z.natAbs ≤ 2 * significandEnd + 1) :
    (round z - z).natAbs ≤ 1 := by
  obtain ⟨r, hr, hle, hge⟩ := exists_isDouble_near h
  have hnear := hr.dist_roundNat_le z.natAbs
  unfold round
  split <;> omega

theorem round_nonpos {z : Int} (h : z ≤ 0) : round z ≤ 0 := by
  rcases Int.lt_or_eq_of_le h with hlt | rfl
  · unfold round
    rw [if_pos hlt]
    omega
  · decide

theorem round_neg {z : Int} (h : z < 0) : round z < 0 := by
  have hone := (isDouble_of_lt (n := 1) (by decide)).le_roundNat (n := z.natAbs) (by omega)
  unfold round
  rw [if_pos h]
  omega

/-- The number of steps over a difference, rounded twice, is exact as long as it is a double. -/
theorem max_round_eq_toNat {z : Int} (h : (z + 1).toNat ≤ significandEnd) :
    max 0 (round (round z + 1)) = (z + 1).toNat := by
  by_cases hneg : z < 0
  · have := round_neg hneg
    have := round_nonpos (z := round z + 1) (by omega)
    omega
  · rw [round_of_isDouble (isDouble_of_le (n := z.natAbs) (by omega)),
      round_of_isDouble (isDouble_of_le (n := (z + 1).natAbs) (by omega))]
    omega

theorem natAbs_max_round_sub_toNat_le {z : Int} (h : z.natAbs < 2 * significandEnd) :
    (max 0 (round (round z + 1)) - (z + 1).toNat).natAbs ≤ 2 := by
  have hdiff := @natAbs_round_sub_le z (by omega)
  have hsum := @natAbs_round_sub_le (round z + 1) (by omega)
  omega

end PromptTemplate.Number
