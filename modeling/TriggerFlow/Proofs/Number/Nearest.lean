import TriggerFlow.Number.Shortest
import TriggerFlow.Proofs.Number.Range

/-!
The rank nearest to a ratio. It depends on the ratio alone, the nearest one to the magnitude of a
rank is that rank, and so the shortest decimal of a rank reads back as it.
-/

namespace TriggerFlow.Binary64

variable {num den factor rank : Nat}

theorem roundDiv_mul_self (n : Nat) (positive : 0 < den) : roundDiv (n * den) den = n := by
  simp [roundDiv, Nat.mul_div_cancel n positive, positive]

theorem nearestRank_mul_right (num den : Nat) (positive : 0 < factor) :
    nearestRank (num * factor) (den * factor) = nearestRank num den := by
  have scaled : num * factor * unitsPerOne = num * unitsPerOne * factor :=
    Nat.mul_right_comm ..
  have spacing (k : Nat) : den * factor * Nat.pow 2 k = den * Nat.pow 2 k * factor :=
    Nat.mul_right_comm ..
  simp only [nearestRank, scaled, Nat.mul_div_mul_right _ _ positive, spacing,
    roundDiv_mul_right positive]

/-- Equal ratios have the same nearest rank. -/
theorem nearestRank_congr {num' den' : Nat} (positive : 0 < den) (positive' : 0 < den')
    (same : num * den' = num' * den) : nearestRank num den = nearestRank num' den' := by
  calc nearestRank num den = nearestRank (num * den') (den * den') :=
        (nearestRank_mul_right num den positive').symm
    _ = nearestRank (num' * den) (den' * den) := by rw [same, Nat.mul_comm den den']
    _ = nearestRank num' den' := nearestRank_mul_right num' den' positive

theorem units_of_lt (small : rank < block) : units rank = rank := by
  rw [units, if_pos (Nat.div_eq_of_lt small)]

theorem units_add_mul (shift : Nat) {place : Nat} (inside : place < block) :
    units ((shift + 1) * block + place) = (block + place) * 2 ^ shift := by
  have positive : 0 < block := by decide
  have quotient : ((shift + 1) * block + place) / block = shift + 1 := by
    rw [Nat.add_comm, Nat.add_mul_div_right _ _ positive, Nat.div_eq_of_lt inside, Nat.zero_add]
  have rest : ((shift + 1) * block + place) % block = place := by
    rw [Nat.add_comm, Nat.add_mul_mod_self_right, Nat.mod_eq_of_lt inside]
  rw [units, quotient, rest, if_neg (Nat.succ_ne_zero shift), Nat.add_sub_cancel, Nat.pow_eq]

/-- The nearest rank to a magnitude is its own. -/
theorem nearestRank_units (rank : Nat) : nearestRank (units rank) unitsPerOne = rank := by
  have size : block = 2 ^ 52 := rfl
  rw [nearestRank]
  simp only [Nat.mul_div_cancel _ unitsPerOne_pos]
  by_cases small : rank < block
  · have first : Nat.log2 rank - 52 = 0 := by
      by_cases zero : rank = 0
      · rw [zero, Nat.log2_zero]
      · have bits := (Nat.log2_lt zero).mpr (size ▸ small)
        omega
    rw [units_of_lt small, first, Nat.pow_eq, Nat.pow_zero, Nat.mul_one,
      roundDiv_mul_self rank unitsPerOne_pos, Nat.zero_mul, Nat.zero_add]
  · obtain ⟨shift, place, inside, rfl⟩ :
        ∃ shift place, place < block ∧ rank = (shift + 1) * block + place := by
      have whole := Nat.div_add_mod' rank block
      have later : 1 ≤ rank / block :=
        (Nat.le_div_iff_mul_le (by decide)).mpr (by rw [Nat.one_mul]; exact Nat.le_of_not_lt small)
      refine ⟨rank / block - 1, rank % block, Nat.mod_lt _ (by decide), ?_⟩
      rw [Nat.sub_add_cancel later, whole]
    have magnitude : Nat.log2 ((block + place) * 2 ^ shift) = 52 + shift := by
      refine (Nat.log2_eq_iff (Nat.mul_ne_zero (by omega) (Nat.ne_of_gt (Nat.two_pow_pos _)))).mpr
        ⟨?_, ?_⟩
      · rw [Nat.pow_add]
        exact Nat.mul_le_mul_right _ (by omega)
      · rw [Nat.add_right_comm, Nat.pow_add]
        exact Nat.mul_lt_mul_of_pos_right (by omega) (Nat.two_pow_pos _)
    have exact_place : roundDiv ((block + place) * 2 ^ shift * unitsPerOne)
        (unitsPerOne * 2 ^ shift) = block + place := by
      rw [Nat.mul_assoc, Nat.mul_comm (2 ^ shift) unitsPerOne]
      exact roundDiv_mul_self _ (Nat.mul_pos unitsPerOne_pos (Nat.two_pow_pos _))
    rw [units_add_mul shift inside, magnitude, Nat.add_sub_cancel_left, Nat.pow_eq, exact_place,
      Nat.add_mul, Nat.one_mul, Nat.add_assoc]

namespace Decimal

/-- The rank of a decimal as that of a ratio, in which one of the powers is one. -/
theorem nearestRank_eq (d : Decimal) :
    d.nearestRank =
      Binary64.nearestRank (d.digits * 10 ^ d.exponent.toNat) (10 ^ (-d.exponent).toNat) := by
  rw [nearestRank]
  split
  · next whole =>
    have none : (-d.exponent).toNat = 0 := by omega
    rw [none, Nat.pow_zero, Nat.pow_eq]
  · next fraction =>
    have none : d.exponent.toNat = 0 := by omega
    rw [none, Nat.pow_zero, Nat.mul_one, Nat.pow_eq]

theorem nearestRank_mul_pow (digits shift : Nat) (exponent : Int) :
    (Decimal.mk (digits * 10 ^ shift) (exponent - shift)).nearestRank =
      (Decimal.mk digits exponent).nearestRank := by
  rw [nearestRank_eq, nearestRank_eq]
  refine nearestRank_congr (Nat.pow_pos (by decide)) (Nat.pow_pos (by decide)) ?_
  have balance : shift + (exponent - shift).toNat + (-exponent).toNat =
      exponent.toNat + (-(exponent - shift)).toNat := by omega
  simp only [Nat.mul_assoc, ← Nat.pow_add]
  rw [balance]

theorem nearestRank_stripped (d : Decimal) (fuel : Nat) :
    (d.stripped fuel).nearestRank = d.nearestRank := by
  induction fuel generalizing d with
  | zero => rfl
  | succ fuel ih =>
      rw [stripped]
      split
      · next zero =>
        have whole : d.digits = d.digits / 10 * 10 ^ 1 := by omega
        have shifted := nearestRank_mul_pow (d.digits / 10) 1 (d.exponent + 1)
        rw [← whole, Int.natCast_one, Int.add_sub_cancel] at shifted
        exact (ih _).trans shifted.symm
      · rfl

theorem nearestRank_zero (exponent : Int) : (Decimal.mk 0 exponent).nearestRank = 0 := by
  simp [nearestRank_eq, Binary64.nearestRank, roundDiv, Nat.log2_zero]

end Decimal

theorem nearestRank_expansion {e : Nat} (one : unitsPerOne = 2 ^ e) (rank : Nat) :
    (Decimal.mk (units rank * 5 ^ e) (-(e : Int))).nearestRank = rank := by
  have none : (-(e : Int)).toNat = 0 := by omega
  have shift : (-(-(e : Int))).toNat = e := by omega
  rw [Decimal.nearestRank_eq]
  simp only [none, shift, Nat.pow_zero, Nat.mul_one]
  refine (nearestRank_congr (Nat.pow_pos (by decide)) unitsPerOne_pos ?_).trans
    (nearestRank_units rank)
  rw [one, Nat.mul_assoc, ← Nat.mul_pow]

/-- The shortest decimal of a rank reads back as it. -/
theorem nearestRank_shortest (rank : Nat) : (shortest rank).nearestRank = rank := by
  rw [shortest, Decimal.nearestRank_stripped]
  cases found : (List.range 17).findSome? fun (n : Nat) =>
      (neighbours (units rank) (pointBound (units rank) - n - 1)).find?
        fun d => d.nearestRank == rank with
  | none =>
      obtain ⟨e, exponent, one⟩ := exists_unitsPerOne
      change (Decimal.mk (units rank * Nat.pow 5 1074) (-((1074 : Nat) : Int))).nearestRank = rank
      rw [← exponent]
      exact nearestRank_expansion one rank
  | some d =>
      obtain ⟨n, -, near⟩ := List.exists_of_findSome?_eq_some found
      have same := List.find?_some near
      exact beq_iff_eq.mp same

theorem ofRank_of_le (negative : Bool) (past : ranks ≤ rank) :
    ofRank negative rank = .infinite negative := by
  rw [ofRank, dif_neg (Nat.not_lt_of_le past)]

/-- An exponent past 400 leads past the finite numbers. -/
theorem ranks_le_of_large {digits : Nat} {exponent : Int} (some : digits ≠ 0)
    (large : 400 < exponent) : ranks ≤ (Decimal.mk digits exponent).nearestRank := by
  have whole : (-exponent).toNat = 0 := by omega
  rw [Decimal.nearestRank_eq]
  simp only [whole, Nat.pow_zero]
  refine (ranks_le_nearestRank_iff _).mpr ?_
  obtain ⟨e, last⟩ : ∃ e, e = 970 := ⟨_, rfl⟩
  obtain ⟨k, same⟩ : ∃ k, k = exponent.toNat := ⟨_, rfl⟩
  rw [← last]
  calc (2 ^ 54 - 1) * 2 ^ e ≤ 2 ^ 54 * 2 ^ e := Nat.mul_le_mul_right _ (Nat.sub_le _ _)
    _ = 2 ^ (54 + e) := (Nat.pow_add 2 54 e).symm
    _ ≤ 2 ^ (3 * k) := Nat.pow_le_pow_right Nat.two_pos (by omega)
    _ = 8 ^ k := Nat.pow_mul 2 3 k
    _ ≤ 10 ^ k := Nat.pow_le_pow_left (by decide) k
    _ ≤ digits * 10 ^ exponent.toNat := by
        rw [same]
        exact Nat.le_mul_of_pos_left _ (Nat.pos_of_ne_zero some)

/-- Less than half of the smallest positive number is nearest to zero. -/
theorem nearestRank_of_small (small : 2 * (num * unitsPerOne) < den) : nearestRank num den = 0 := by
  have none : num * unitsPerOne / den = 0 := Nat.div_eq_of_lt (by omega)
  have all : num * unitsPerOne % den = num * unitsPerOne := Nat.mod_eq_of_lt (by omega)
  simp [nearestRank, roundDiv, none, all, small, Nat.log2_zero]

theorem nearestRank_of_tiny {digits : Nat} {exponent : Int}
    (tiny : exponent < -(400 + (Nat.log2 digits : Int))) :
    (Decimal.mk digits exponent).nearestRank = 0 := by
  have fraction : exponent.toNat = 0 := by omega
  rw [Decimal.nearestRank_eq]
  simp only [fraction, Nat.pow_zero, Nat.mul_one]
  refine nearestRank_of_small ?_
  obtain ⟨e, size, one⟩ := exists_unitsPerOne
  obtain ⟨k, same⟩ : ∃ k, k = (-exponent).toNat := ⟨_, rfl⟩
  rw [one, ← same]
  calc 2 * (digits * 2 ^ e) < 2 * (2 ^ (Nat.log2 digits + 1) * 2 ^ e) :=
        Nat.mul_lt_mul_of_pos_left
          (Nat.mul_lt_mul_of_pos_right Nat.lt_log2_self (Nat.two_pow_pos e)) Nat.two_pos
    _ = 2 ^ (1 + (Nat.log2 digits + 1 + e)) := by
        rw [← Nat.pow_add, ← Nat.pow_add_one']
        exact congrArg _ (by omega)
    _ ≤ 2 ^ (3 * k) := Nat.pow_le_pow_right Nat.two_pos (by omega)
    _ = 8 ^ k := Nat.pow_mul 2 3 k
    _ ≤ 10 ^ k := Nat.pow_le_pow_left (by decide) k

/-- The shortcuts for large and small exponents agree with what the digits say. -/
theorem ofDecimal_eq (negative : Bool) (digits : Nat) (exponent : Int) :
    ofDecimal negative digits exponent =
      ofRank negative (Decimal.mk digits exponent).nearestRank := by
  unfold ofDecimal
  split
  · next none => rw [none, Decimal.nearestRank_zero]
  · next some =>
    split
    · next large => rw [ofRank_of_le negative (ranks_le_of_large some large)]
    · split
      · next tiny => rw [nearestRank_of_tiny tiny]
      · rw [Decimal.nearestRank]
        split <;> rfl

/-- The shortest decimal of a finite number is read as it. -/
theorem ofDecimal_shortest (negative : Bool) (rank : Fin ranks) :
    ofDecimal negative (shortest rank).digits (shortest rank).exponent =
      .finite negative rank := by
  rw [ofDecimal_eq, nearestRank_shortest, ofRank_finite rank.isLt]

theorem digits_shortest_ne_zero (positive : rank ≠ 0) : (shortest rank).digits ≠ 0 := by
  intro none
  have whole : shortest rank = ⟨0, (shortest rank).exponent⟩ := by rw [← none]
  have zero := nearestRank_shortest rank
  rw [whole, Decimal.nearestRank_zero] at zero
  exact positive zero.symm

end TriggerFlow.Binary64
