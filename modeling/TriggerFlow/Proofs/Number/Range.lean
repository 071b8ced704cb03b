import Mathlib.Algebra.Group.Nat.Defs
import TriggerFlow.Number.Binary64
import TriggerFlow.Number.Numeral

/-!
Which integers have a nearest double. The rank of an integer is settled by its magnitude, so those
from halfway past the largest double on have none; and the integers that are doubles have few
digits.
-/

namespace TriggerFlow.Binary64

variable {n num den factor : Nat}

-- the exponent is kept out of the way of evaluation
theorem exists_unitsPerOne : ∃ e, e = 1074 ∧ unitsPerOne = 2 ^ e := by
  delta unitsPerOne
  generalize 1074 = e
  exact ⟨e, rfl, Nat.pow_eq⟩

theorem unitsPerOne_pos : 0 < unitsPerOne := by
  obtain ⟨e, -, units⟩ := exists_unitsPerOne
  exact units ▸ Nat.two_pow_pos e

theorem roundDiv_le (num den : Nat) : roundDiv num den ≤ num / den + 1 := by
  unfold roundDiv
  simp only
  split
  · omega
  · split <;> omega

theorem le_roundDiv (num den : Nat) : num / den ≤ roundDiv num den := by
  unfold roundDiv
  simp only
  split
  · omega
  · split <;> omega

theorem roundDiv_mul_right (positive : 0 < factor) :
    roundDiv (num * factor) (den * factor) = roundDiv num den := by
  have less (a b : Nat) : 2 * (a * factor) < b * factor ↔ 2 * a < b := by
    rw [← Nat.mul_assoc, Nat.mul_lt_mul_right positive]
  have more (a b : Nat) : b * factor < 2 * (a * factor) ↔ b < 2 * a := by
    rw [← Nat.mul_assoc, Nat.mul_lt_mul_right positive]
  simp only [roundDiv, Nat.mul_div_mul_right _ _ positive, Nat.mul_mod_mul_right, less, more]

theorem log2_mul_unitsPerOne (h : n ≠ 0) : Nat.log2 (n * unitsPerOne) = Nat.log2 n + 1074 := by
  obtain ⟨e, exponent, units⟩ := exists_unitsPerOne
  rw [← exponent]
  have positive : n * unitsPerOne ≠ 0 := Nat.mul_ne_zero h (Nat.ne_of_gt unitsPerOne_pos)
  rw [units] at positive ⊢
  refine (Nat.log2_eq_iff positive).mpr ⟨?_, ?_⟩
  · rw [Nat.pow_add]
    exact Nat.mul_le_mul_right _ (Nat.log2_self_le h)
  · rw [Nat.add_right_comm, Nat.pow_add]
    exact Nat.mul_lt_mul_of_pos_right Nat.lt_log2_self (Nat.two_pow_pos _)

/-- The rank of a positive integer: its magnitude picks the block, and rounding the place in it. -/
theorem nearestRank_of_pos (h : n ≠ 0) :
    nearestRank n 1 = (Nat.log2 n + 1022) * block +
      roundDiv (n * unitsPerOne) (2 ^ (Nat.log2 n + 1022)) := by
  have shift : Nat.log2 n + 1074 - 52 = Nat.log2 n + 1022 := by omega
  rw [nearestRank]
  simp only [Nat.div_one, log2_mul_unitsPerOne h, Nat.one_mul, shift, Nat.pow_eq]

theorem nearestRank_lt_ranks (h : n ≠ 0) (small : Nat.log2 n < 1023) : nearestRank n 1 < ranks := by
  obtain ⟨e, exponent, units⟩ := exists_unitsPerOne
  have place : n * unitsPerOne / 2 ^ (Nat.log2 n + 1022) < 2 ^ 53 := by
    refine (Nat.div_lt_iff_lt_mul (Nat.two_pow_pos _)).mpr ?_
    calc n * unitsPerOne < 2 ^ (Nat.log2 n + 1) * unitsPerOne :=
          Nat.mul_lt_mul_of_pos_right Nat.lt_log2_self unitsPerOne_pos
      _ = 2 ^ 53 * 2 ^ (Nat.log2 n + 1022) := by
          rw [units, ← Nat.pow_add, ← Nat.pow_add]
          exact congrArg _ (by omega)
  have rounded := roundDiv_le (n * unitsPerOne) (2 ^ (Nat.log2 n + 1022))
  have blocks : (Nat.log2 n + 1022) * block ≤ 2044 * block := Nat.mul_le_mul_right _ (by omega)
  have size : block = 2 ^ 52 := rfl
  rw [nearestRank_of_pos h, ranks]
  omega

theorem ranks_le_nearestRank (h : n ≠ 0) (large : 1024 ≤ Nat.log2 n) : ranks ≤ nearestRank n 1 := by
  obtain ⟨e, exponent, units⟩ := exists_unitsPerOne
  have place : 2 ^ 52 ≤ n * unitsPerOne / 2 ^ (Nat.log2 n + 1022) := by
    refine (Nat.le_div_iff_mul_le (Nat.two_pow_pos _)).mpr ?_
    calc 2 ^ 52 * 2 ^ (Nat.log2 n + 1022) = 2 ^ Nat.log2 n * unitsPerOne := by
          rw [units, ← Nat.pow_add, ← Nat.pow_add]
          exact congrArg _ (by omega)
      _ ≤ n * unitsPerOne := Nat.mul_le_mul_right _ (Nat.log2_self_le h)
  have rounded := le_roundDiv (n * unitsPerOne) (2 ^ (Nat.log2 n + 1022))
  have blocks : 2046 * block ≤ (Nat.log2 n + 1022) * block := Nat.mul_le_mul_right _ (by omega)
  have size : block = 2 ^ 52 := rfl
  rw [nearestRank_of_pos h, ranks]
  omega

/-- Rounding a place goes up to the next block from half a unit below it. -/
theorem le_roundDiv_iff {half : Nat} (positive : 0 < half) (below : n < 2 ^ 53 * (2 * half)) :
    2 ^ 53 ≤ roundDiv n (2 * half) ↔ (2 ^ 54 - 1) * half ≤ n := by
  have whole := Nat.div_add_mod n (2 * half)
  have rest := Nat.mod_lt n (Nat.mul_pos Nat.two_pos positive)
  have quotient : n / (2 * half) < 2 ^ 53 := by
    rw [Nat.div_lt_iff_lt_mul (Nat.mul_pos Nat.two_pos positive)]
    exact below
  obtain last | before : n / (2 * half) = 2 ^ 53 - 1 ∨ n / (2 * half) + 1 < 2 ^ 53 := by omega
  · rw [last] at whole
    simp only [roundDiv, last]
    split
    · omega
    · split <;> omega
  · have rounded := roundDiv_le n (2 * half)
    have products : 2 * half * (n / (2 * half)) ≤ 2 * half * (2 ^ 53 - 2) :=
      Nat.mul_le_mul_left _ (by omega)
    omega

/-- Integers round past the largest double from halfway between it and `2^1024` on. -/
theorem ranks_le_nearestRank_iff (n : Nat) :
    ranks ≤ nearestRank n 1 ↔ (2 ^ 54 - 1) * 2 ^ 970 ≤ n := by
  obtain ⟨half, same, positive, powers⟩ :
      ∃ half, half = 2 ^ 970 ∧ 0 < half ∧ ∀ k, 2 ^ (k + 970) = 2 ^ k * half := by
    obtain ⟨e, exponent⟩ : ∃ e, e = 970 := ⟨_, rfl⟩
    rw [← exponent]
    exact ⟨2 ^ e, rfl, Nat.two_pow_pos e, fun k => Nat.pow_add 2 k e⟩
  rw [← same]
  by_cases zero : n = 0
  · subst zero
    have first : nearestRank 0 1 = 0 := by simp [nearestRank, roundDiv]
    rw [first, ranks]
    have size : block = 2 ^ 52 := rfl
    omega
  · have bits (k : Nat) (few : Nat.log2 n < k + 970) : n < 2 ^ k * half :=
      powers k ▸ (Nat.log2_lt zero).mp few
    have full (k : Nat) (many : k + 970 ≤ Nat.log2 n) : 2 ^ k * half ≤ n :=
      powers k ▸ (Nat.le_log2 zero).mp many
    obtain small | exact | large :
        Nat.log2 n < 1023 ∨ Nat.log2 n = 1023 ∨ 1024 ≤ Nat.log2 n := by omega
    · have low := nearestRank_lt_ranks zero small
      have below := bits 53 (by omega)
      omega
    · have below := bits 54 (by omega)
      obtain ⟨e, exponent, units⟩ := exists_unitsPerOne
      have spacing : 2 ^ (Nat.log2 n + 1022) = 2 * half * unitsPerOne := by
        have sum : Nat.log2 n + 1022 = 1 + e + 970 := by omega
        rw [sum, powers, Nat.pow_add, Nat.pow_one, units, Nat.mul_right_comm]
      have rank : nearestRank n 1 = 2045 * block + roundDiv n (2 * half) := by
        rw [nearestRank_of_pos zero, spacing, roundDiv_mul_right unitsPerOne_pos, exact]
      have size : block = 2 ^ 52 := rfl
      rw [rank, ranks, ← le_roundDiv_iff positive (by omega)]
      omega
    · have high := ranks_le_nearestRank zero large
      have above := full 54 (by omega)
      omega

theorem ofInt?_eq_none_iff (n : Int) :
    ofInt? n = none ↔ (2 ^ 54 - 1) * 2 ^ 970 ≤ n.natAbs := by
  refine Iff.trans ?_ (ranks_le_nearestRank_iff n.natAbs)
  rw [ofInt?, ofRatio]
  by_cases finite : nearestRank n.natAbs 1 < ranks
  · rw [ofRank_finite finite]
    exact iff_of_false (Option.some_ne_none _) (Nat.not_le_of_lt finite)
  · rw [ofRank, dif_neg finite]
    exact iff_of_true rfl (Nat.le_of_not_lt finite)

/-- The last spacing bounds all magnitudes. -/
theorem units_lt (rank : Fin ranks) : units rank < 2 ^ 53 * 2 ^ 2046 := by
  have blocks : rank.val / block < 2047 := Nat.div_lt_of_lt_mul (Nat.mul_comm _ _ ▸ rank.isLt)
  have place : rank.val % block < block := Nat.mod_lt _ (by decide)
  have size : block = 2 ^ 52 := rfl
  obtain ⟨e, exponent⟩ : ∃ e, e = 2046 := ⟨_, rfl⟩
  rw [← exponent, units]
  split
  · next first =>
    have spread : 2 ^ 53 * 1 ≤ 2 ^ 53 * 2 ^ e := Nat.mul_le_mul_left _ Nat.one_le_two_pow
    have small := Nat.lt_of_div_eq_zero (by decide) first
    omega
  · calc (block + rank.val % block) * 2 ^ (rank.val / block - 1)
        ≤ (block + rank.val % block) * 2 ^ e :=
          Nat.mul_le_mul_left _ (Nat.pow_le_pow_right Nat.two_pos (by omega))
      _ < 2 ^ 53 * 2 ^ e := Nat.mul_lt_mul_of_pos_right (by omega) (Nat.two_pow_pos e)

theorem natAbs_of_toInt? {x : Binary64} {n : Int} (h : x.toInt? = some n) :
    n.natAbs < 10 ^ Numeral.maxDigits := by
  have within : x.signedUnits.natAbs < 2 ^ 53 * 2 ^ 2046 := by
    match x, h with
    | .finite false r, _ => exact units_lt r
    | .finite true r, _ =>
      rw [signedUnits, Int.natAbs_neg]
      exact units_lt r
  have quotient : n = x.signedUnits / unitsPerOne := by
    match x, h with
    | .finite s r, h =>
      rw [toInt?] at h
      split at h
      · cases h
        rfl
      · cases h
  obtain ⟨e, exponent⟩ : ∃ e, e = 2046 := ⟨_, rfl⟩
  rw [← exponent] at within
  calc n.natAbs ≤ x.signedUnits.natAbs := quotient ▸ Int.natAbs_ediv_le_natAbs _ _
    _ < 2 ^ (53 + e) := by rwa [Nat.pow_add]
    _ ≤ 10 ^ (53 + e) := Nat.pow_le_pow_left (by decide) _
    _ ≤ 10 ^ Numeral.maxDigits := Nat.pow_le_pow_right (by decide) (by rw [exponent]; decide)

end TriggerFlow.Binary64
