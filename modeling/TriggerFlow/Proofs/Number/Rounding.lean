import TriggerFlow.Proofs.Number.Nearest

/-!
How far a double lies from the ratio that it is nearest to. The magnitude of the nearest rank is the
ratio rounded to as many binary places as leave 53 digits, and rounding is off by half a unit at
most; from halfway below an even number it goes up.
-/

namespace TriggerFlow.Binary64

variable {num den places m : Nat}

section Quotients

/-- The nearest whole number: the quotient or the next one. -/
theorem roundDiv_cases (num den : Nat) :
    (roundDiv num den * den + num % den = num ∧ 2 * (num % den) ≤ den) ∨
      roundDiv num den * den + num % den = num + den ∧ den ≤ 2 * (num % den) := by
  have whole := Nat.div_add_mod' num den
  have next : (num / den + 1) * den = num / den * den + den := Nat.succ_mul ..
  unfold roundDiv
  dsimp only
  split
  · exact .inl (by omega)
  · split
    · exact .inr (by omega)
    · obtain even | odd := Nat.mod_two_eq_zero_or_one (num / den)
      · rw [even, Nat.add_zero]
        exact .inl (by omega)
      · rw [odd]
        exact .inr (by omega)

theorem le_two_mul_roundDiv (positive : 0 < den) :
    2 * num ≤ 2 * (roundDiv num den * den) + den := by
  obtain ⟨whole, near⟩ | ⟨whole, near⟩ := roundDiv_cases num den
  · omega
  · have rest := Nat.mod_lt num positive
    omega

theorem two_mul_roundDiv_le (num den : Nat) :
    2 * (roundDiv num den * den) ≤ 2 * num + den := by
  obtain ⟨whole, near⟩ | ⟨whole, near⟩ := roundDiv_cases num den <;> omega

/-- An even number is reached from halfway below it. -/
theorem le_roundDiv_even_iff (positive : 0 < den) (even : m % 2 = 0) :
    m ≤ roundDiv num den ↔ 2 * (m * den) ≤ 2 * num + den := by
  constructor
  · intro reached
    have products := Nat.mul_le_mul_right den reached
    have high := two_mul_roundDiv_le num den
    omega
  · refine fun near => Nat.le_of_not_lt fun short => ?_
    have whole := Nat.div_add_mod' num den
    have rest := Nat.mod_lt num positive
    have quotient := le_roundDiv num den
    have below : (num / den + 1) * den ≤ m * den := Nat.mul_le_mul_right den (by omega)
    have next : (num / den + 1) * den = num / den * den + den := Nat.succ_mul ..
    obtain odd | gap : m = num / den + 1 ∨ num / den + 2 ≤ m := by omega
    · -- halfway between an odd number and `m`
      have up : roundDiv num den = num / den + 1 := by
        unfold roundDiv
        dsimp only
        split
        · subst odd
          omega
        · split
          · rfl
          · omega
      omega
    · have far : (num / den + 2) * den ≤ m * den := Nat.mul_le_mul_right den gap
      have twice : (num / den + 2) * den = num / den * den + 2 * den := Nat.add_mul ..
      omega

end Quotients

section Magnitudes

/-- A place from the first of a block to the first of the next. -/
theorem units_place (shift : Nat) {place : Nat} (low : block ≤ place) (high : place ≤ 2 * block) :
    units (shift * block + place) = place * 2 ^ shift := by
  obtain inside | last : place < 2 * block ∨ place = 2 * block := by omega
  · have same : shift * block + place = (shift + 1) * block + (place - block) := by
      rw [Nat.succ_mul]
      omega
    rw [same, units_add_mul shift (by omega), Nat.add_sub_cancel' low]
  · have same : shift * block + place = (shift + 1 + 1) * block + 0 := by
      rw [Nat.succ_mul, Nat.succ_mul]
      omega
    rw [same, units_add_mul (shift + 1) (by decide), last, Nat.add_zero, Nat.pow_succ]
    rw [Nat.mul_comm (2 ^ shift), ← Nat.mul_assoc, Nat.mul_comm block]

/-- `Digits num den places`: the ratio has 53 binary digits in front of its last place, `places` of
them after the point. -/
structure Digits (num den places : Nat) : Prop where
  positive : 0 < den
  few : places ≤ 1074
  low : block * den ≤ num * 2 ^ places
  high : num * 2 ^ places < 2 * block * den

namespace Digits

theorem block_le_roundDiv (h : Digits num den places) :
    block ≤ roundDiv (num * 2 ^ places) den :=
  Nat.le_trans ((Nat.le_div_iff_mul_le h.positive).mpr h.low) (le_roundDiv _ _)

theorem roundDiv_le_blocks (h : Digits num den places) :
    roundDiv (num * 2 ^ places) den ≤ 2 * block :=
  Nat.le_trans (roundDiv_le _ _) ((Nat.div_lt_iff_lt_mul h.positive).mpr h.high)

/-- The nearest rank is that of the ratio rounded to its last place. -/
theorem exists_rank (h : Digits num den places) :
    ∃ shift, unitsPerOne = 2 ^ places * 2 ^ shift ∧ shift ≤ 1074 ∧
      nearestRank num den = shift * block + roundDiv (num * 2 ^ places) den := by
  obtain ⟨positive, few, low, high⟩ := h
  obtain ⟨e, exponent, one⟩ := exists_unitsPerOne
  obtain ⟨shift, rfl⟩ : ∃ shift, e = places + shift := ⟨e - places, by omega⟩
  rw [Nat.pow_add] at one
  have scaled : num * unitsPerOne = num * 2 ^ places * 2 ^ shift := by rw [one, Nat.mul_assoc]
  have size : block = 2 ^ 52 := rfl
  have bits : Nat.log2 (num * unitsPerOne / den) = 52 + shift := by
    have first : 2 ^ (52 + shift) ≤ num * unitsPerOne / den := by
      rw [Nat.le_div_iff_mul_le positive, scaled, Nat.pow_add, ← size, Nat.mul_right_comm]
      exact Nat.mul_le_mul_right _ low
    have last : num * unitsPerOne / den < 2 ^ (52 + shift + 1) := by
      rw [Nat.div_lt_iff_lt_mul positive, scaled, Nat.pow_succ', Nat.pow_add, ← size,
        ← Nat.mul_assoc, Nat.mul_right_comm (2 * block)]
      exact Nat.mul_lt_mul_of_pos_right high (Nat.two_pow_pos shift)
    have filled : num * unitsPerOne / den ≠ 0 :=
      Nat.ne_of_gt (Nat.lt_of_lt_of_le (Nat.two_pow_pos _) first)
    exact (Nat.log2_eq_iff filled).mpr ⟨first, last⟩
  have rounded :
      roundDiv (num * unitsPerOne) (den * 2 ^ shift) = roundDiv (num * 2 ^ places) den := by
    rw [scaled, roundDiv_mul_right (Nat.two_pow_pos shift)]
  refine ⟨shift, one, by omega, ?_⟩
  rw [nearestRank]
  simp only [bits, Nat.add_sub_cancel_left, Nat.pow_eq, rounded]

theorem units_nearestRank (h : Digits num den places) :
    units (nearestRank num den) * 2 ^ places = roundDiv (num * 2 ^ places) den * unitsPerOne := by
  obtain ⟨shift, one, -, rank⟩ := h.exists_rank
  rw [rank, units_place shift h.block_le_roundDiv h.roundDiv_le_blocks, one, Nat.mul_assoc,
    Nat.mul_comm (2 ^ shift)]

/-- A whole number of so many digits is a double. -/
theorem units_whole (h : Digits num 1 places) : units (nearestRank num 1) = num * unitsPerOne := by
  have scaled := h.units_nearestRank
  have whole := roundDiv_mul_self (num * 2 ^ places) Nat.one_pos
  rw [Nat.mul_one] at whole
  rw [whole, Nat.mul_right_comm] at scaled
  exact Nat.eq_of_mul_eq_mul_right (Nat.two_pow_pos places) scaled

theorem nearestRank_ne_zero (h : Digits num den places) : nearestRank num den ≠ 0 := by
  obtain ⟨shift, -, -, rank⟩ := h.exists_rank
  have place := h.block_le_roundDiv
  have size : block = 2 ^ 52 := rfl
  omega

theorem nearestRank_lt_ranks (h : Digits num den places) : nearestRank num den < ranks := by
  obtain ⟨shift, -, few, rank⟩ := h.exists_rank
  have blocks : shift * block ≤ 1074 * block := Nat.mul_le_mul_right _ few
  have place := h.roundDiv_le_blocks
  have size : block = 2 ^ 52 := rfl
  rw [rank, ranks]
  omega

end Digits

theorem ofRank_mul_whole (h : Digits num 1 places) (rank : Nat) : ∃ rank',
    (∀ negative, (ofRank negative rank).mul (ofRatio false num 1) = ofRank negative rank') ∧
      (rank < ranks → rank' = nearestRank (units rank * num) unitsPerOne) := by
  have whole : ofRatio false num 1 = .finite false ⟨_, h.nearestRank_lt_ranks⟩ := by
    rw [ofRatio, ofRank_finite h.nearestRank_lt_ranks]
  rw [whole]
  by_cases finite : rank < ranks
  · refine ⟨nearestRank (units rank * num) unitsPerOne, fun negative => ?_, fun _ => rfl⟩
    rw [ofRank_finite finite, mul, Bool.bne_false, ofRatio]
    dsimp only
    rw [h.units_whole, ← Nat.mul_assoc, nearestRank_mul_right _ _ unitsPerOne_pos]
  · have past := Nat.le_of_not_lt finite
    refine ⟨rank, fun negative => ?_, fun finite' => absurd finite' finite⟩
    rw [ofRank_of_le negative past, mul, if_neg h.nearestRank_ne_zero, Bool.bne_false]

theorem truncate_ofRank (negative : Bool) (rank : Nat) :
    (ofRank negative rank).truncate =
      if negative then -(((ofRank false rank).signedUnits.toNat / unitsPerOne : Nat) : Int)
      else ((ofRank false rank).signedUnits.toNat / unitsPerOne : Nat) := by
  by_cases finite : rank < ranks
  · rw [ofRank_finite finite, ofRank_finite finite]
    cases negative <;> rfl
  · have past := Nat.le_of_not_lt finite
    rw [ofRank_of_le negative past, ofRank_of_le false past]
    cases negative <;> simp [truncate, signedUnits]

/-- A ratio that is large enough with some places after the point has digits with at most these. -/
theorem exists_digits {bound : Nat} (positive : 0 < den) (few : bound ≤ 1074)
    (small : num < 2 * block * den) (large : block * den ≤ num * 2 ^ bound) :
    ∃ places, places ≤ bound ∧ Digits num den places := by
  induction bound with
  | zero =>
      refine ⟨0, Nat.le_refl 0, positive, few, large, ?_⟩
      rwa [Nat.pow_zero, Nat.mul_one]
  | succ bound ih =>
      by_cases enough : block * den ≤ num * 2 ^ bound
      · obtain ⟨places, within, digits⟩ := ih (by omega) enough
        exact ⟨places, by omega, digits⟩
      · refine ⟨bound + 1, Nat.le_refl _, positive, few, large, ?_⟩
        rw [Nat.pow_succ, ← Nat.mul_assoc, Nat.mul_assoc 2]
        omega

end Magnitudes
end TriggerFlow.Binary64
