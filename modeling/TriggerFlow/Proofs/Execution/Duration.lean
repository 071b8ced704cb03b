import TriggerFlow.Execution.Basic
import TriggerFlow.Proofs.Number.Rounding

/-!
How exact the duration in a summary is. It is computed by way of the nearest double of the seconds;
the thousandfold of that is rounded again, and may then lie on the other side of a whole number of
milliseconds. Below `2^52` microseconds this happens to whole numbers of milliseconds only, which
lose one, and it can be said of which ones.
-/

namespace TriggerFlow.Duration

open Binary64

variable {n m k places : Nat} {span : Int}

section Product

/-- The magnitude of the double of the milliseconds in `n` microseconds, in units of `2^-1074`. -/
def product (n : Nat) : Nat :=
  ((ofRatio false n 1000000).mul (ofRatio false 1000 1)).signedUnits.toNat

theorem digits_thousand : Digits 1000 1 43 := ⟨by decide, by decide, by decide, by decide⟩

/-- The duration has the sign of the span, and the magnitude of the product cut off. -/
theorem millisecondsOf_eq (span : Int) :
    millisecondsOf span =
      if span < 0 then -((product span.natAbs / unitsPerOne : Nat) : Int)
      else (product span.natAbs / unitsPerOne : Nat) := by
  obtain ⟨rank, signed, -⟩ :=
    ofRank_mul_whole digits_thousand (nearestRank span.natAbs 1000000)
  rw [millisecondsOf, ofRatio, signed, truncate_ofRank, product, ofRatio, signed]
  simp only [decide_eq_true_eq]

/-- The seconds in `n` microseconds, rounded to so many binary places. The unit is the last place,
here and in what follows. -/
def seconds (n places : Nat) : Nat := roundDiv (n * 2 ^ places) 1000000

/-- How far apart doubles of that size are. -/
def spacing (magnitude : Nat) : Nat := if magnitude < 2 ^ 62 then 512 else 1024

/-- The thousandfold of the rounded seconds, rounded again. -/
def milliseconds (n places : Nat) : Nat :=
  roundDiv (1000 * seconds n places) (spacing (1000 * seconds n places)) *
    spacing (1000 * seconds n places)

theorem digits_thousandfold (h : Digits n 1000000 places) (room : 10 ≤ places) :
    ∃ lost ≤ places, spacing (1000 * seconds n places) = 2 ^ lost ∧
      Digits (1000 * seconds n places) (2 ^ places) (places - lost) := by
  have low : block ≤ seconds n places := h.block_le_roundDiv
  have high : seconds n places ≤ 2 * block := h.roundDiv_le_blocks
  have few := h.few
  generalize seconds n places = whole at low high ⊢
  have size : block = 2 ^ 52 := rfl
  rw [size] at low high
  have digits (lost : Nat) (within : lost ≤ places) (from' : 2 ^ 52 * 2 ^ lost ≤ 1000 * whole)
      (below : 1000 * whole < 2 * 2 ^ 52 * 2 ^ lost) :
      Digits (1000 * whole) (2 ^ places) (places - lost) := by
    obtain ⟨rest, rfl⟩ : ∃ rest, places = lost + rest := ⟨places - lost, by omega⟩
    rw [Nat.add_sub_cancel_left, Nat.pow_add]
    refine ⟨Nat.mul_pos (Nat.two_pow_pos lost) (Nat.two_pow_pos rest), by omega, ?_, ?_⟩
    · rw [size, ← Nat.mul_assoc]
      exact Nat.mul_le_mul_right _ from'
    · rw [size, ← Nat.mul_assoc]
      exact Nat.mul_lt_mul_of_pos_right below (Nat.two_pow_pos rest)
  unfold spacing
  split
  · exact ⟨9, by omega, rfl, digits 9 (by omega) (by omega) (by omega)⟩
  · exact ⟨10, room, rfl, digits 10 room (by omega) (by omega)⟩

theorem product_eq (h : Digits n 1000000 places) (room : 10 ≤ places) :
    product n * 2 ^ places = milliseconds n places * unitsPerOne := by
  obtain ⟨rank, signed, nearest⟩ := ofRank_mul_whole digits_thousand (nearestRank n 1000000)
  obtain ⟨lost, within, gap, digits⟩ := digits_thousandfold h room
  have scaled := h.units_nearestRank
  have rank_eq : rank = nearestRank (1000 * seconds n places) (2 ^ places) := by
    rw [nearest h.nearestRank_lt_ranks]
    refine nearestRank_congr unitsPerOne_pos (Nat.two_pow_pos places) ?_
    rw [Nat.mul_right_comm, scaled, seconds, Nat.mul_comm 1000, Nat.mul_right_comm]
  have finite : rank < ranks := rank_eq ▸ digits.nearestRank_lt_ranks
  have magnitude : product n = units rank := by
    rw [product, ofRatio, signed, ofRank_finite finite]
    rfl
  have power : 2 ^ places = 2 ^ lost * 2 ^ (places - lost) := by
    rw [← Nat.pow_add, Nat.add_sub_cancel' within]
  have rounded : roundDiv (1000 * seconds n places * 2 ^ (places - lost)) (2 ^ places) =
      roundDiv (1000 * seconds n places) (2 ^ lost) := by
    rw [power, roundDiv_mul_right (Nat.two_pow_pos _)]
  calc product n * 2 ^ places
      = units rank * 2 ^ (places - lost) * 2 ^ lost := by
        rw [magnitude, power, Nat.mul_assoc, Nat.mul_comm (2 ^ lost)]
    _ = roundDiv (1000 * seconds n places) (2 ^ lost) * unitsPerOne * 2 ^ lost := by
        rw [rank_eq, digits.units_nearestRank, rounded]
    _ = milliseconds n places * unitsPerOne := by
        rw [milliseconds, gap, Nat.mul_right_comm]

/-- The duration reaches the whole numbers of milliseconds that the rounded ones reach. -/
theorem le_product_div_iff (h : Digits n 1000000 places) (room : 10 ≤ places) :
    m ≤ product n / unitsPerOne ↔ m * 2 ^ places ≤ milliseconds n places := by
  have power : 0 < 2 ^ places := Nat.two_pow_pos places
  have eq := product_eq h room
  rw [Nat.le_div_iff_mul_le unitsPerOne_pos, ← Nat.mul_le_mul_right_iff power, eq,
    Nat.mul_right_comm, Nat.mul_le_mul_right_iff unitsPerOne_pos]

end Product

section Distance

theorem spacing_le (magnitude : Nat) : spacing magnitude ≤ 1024 := by
  unfold spacing
  split <;> decide

/-- Rounding twice moves the milliseconds by half a unit of the seconds, a thousandfold, and by half
a unit of their own. -/
theorem milliseconds_near (n places : Nat) :
    1000 * milliseconds n places ≤ n * 2 ^ places + 1012000 ∧
      n * 2 ^ places ≤ 1000 * milliseconds n places + 1012000 := by
  have gap := spacing_le (1000 * seconds n places)
  have positive : 0 < spacing (1000 * seconds n places) := by
    unfold spacing
    split <;> decide
  have down : 2 * (n * 2 ^ places) ≤ 2 * (seconds n places * 1000000) + 1000000 :=
    le_two_mul_roundDiv (by decide)
  have up : 2 * (seconds n places * 1000000) ≤ 2 * (n * 2 ^ places) + 1000000 :=
    two_mul_roundDiv_le _ _
  have below : 2 * (1000 * seconds n places) ≤
      2 * milliseconds n places + spacing (1000 * seconds n places) :=
    le_two_mul_roundDiv positive
  have above : 2 * milliseconds n places ≤
      2 * (1000 * seconds n places) + spacing (1000 * seconds n places) :=
    two_mul_roundDiv_le _ _
  omega

/-- The fewer microseconds there are, the more binary places their seconds have. -/
theorem exists_places (bound : Nat) (positive : n ≠ 0) (bounded : n < 10 ^ 18)
    (small : n * 2 ^ bound < 2 ^ 52 * 1000000) :
    ∃ places, Digits n 1000000 places ∧ bound < places ∧ 2 ^ (bound + 1) ≤ 2 ^ places := by
  have size : block = 2 ^ 52 := rfl
  obtain ⟨places, -, digits⟩ : ∃ places, places ≤ 72 ∧ Digits n 1000000 places := by
    refine exists_digits (by decide) (by decide) ?_ ?_ <;> rw [size] <;> omega
  have low := digits.low
  rw [size] at low
  have more : bound < places := by
    refine Nat.lt_of_not_le fun few => ?_
    have powers : 2 ^ places ≤ 2 ^ bound := Nat.pow_le_pow_right (by decide) few
    have products : n * 2 ^ places ≤ n * 2 ^ bound := Nat.mul_le_mul_left n powers
    omega
  exact ⟨places, digits, more, Nat.pow_le_pow_right (by decide) more⟩

theorem product_zero : product 0 / unitsPerOne = 0 := by
  have one := unitsPerOne_pos
  obtain ⟨rank, signed, rank_eq⟩ := ofRank_mul_whole digits_thousand 0
  have zero : rank = 0 := by
    rw [rank_eq (by decide), units_of_lt (by decide)]
    exact nearestRank_of_small (by omega)
  have seconds_zero : nearestRank 0 1000000 = 0 := nearestRank_of_small (by omega)
  have magnitude : product 0 = units 0 := by
    rw [product, ofRatio, seconds_zero, signed, zero, ofRank_finite (by decide)]
    rfl
  rw [magnitude, units_of_lt (by decide), Nat.zero_div]

/-- What lies far enough below is reached, and what lies far enough above is not. -/
theorem le_product_div_of_le (h : Digits n 1000000 places) (room : 10 ≤ places)
    (distance : Nat) (far : 1000 * m + distance ≤ n) (scale : 1012000 ≤ distance * 2 ^ places) :
    m ≤ product n / unitsPerOne := by
  obtain ⟨-, near⟩ := milliseconds_near n places
  have products := Nat.mul_le_mul_right (2 ^ places) far
  rw [Nat.add_mul, Nat.mul_assoc] at products
  exact (le_product_div_iff h room).mpr (by omega)

theorem product_div_lt_of_le (h : Digits n 1000000 places) (room : 10 ≤ places)
    (distance : Nat) (far : n + distance ≤ 1000 * m) (scale : 1012000 < distance * 2 ^ places) :
    product n / unitsPerOne < m := by
  obtain ⟨near, -⟩ := milliseconds_near n places
  have products := Nat.mul_le_mul_right (2 ^ places) far
  rw [Nat.add_mul, Nat.mul_assoc 1000] at products
  exact Nat.lt_of_not_le fun reached => absurd ((le_product_div_iff h room).mp reached) (by omega)

/-- The duration is one millisecond off at most. -/
theorem product_div_near (bounded : n < 10 ^ 18) :
    product n / unitsPerOne ≤ n / 1000 + 1 ∧ n / 1000 ≤ product n / unitsPerOne + 1 := by
  obtain rfl | positive := Nat.eq_zero_or_pos n
  · rw [product_zero]
    decide
  · obtain ⟨places, digits, room, scale⟩ := exists_places 12 (by omega) bounded (by omega)
    have above : product n / unitsPerOne < n / 1000 + 2 :=
      product_div_lt_of_le digits (by omega) 1000 (by omega) (by omega)
    refine ⟨by omega, ?_⟩
    obtain first | later := Nat.eq_zero_or_pos (n / 1000)
    · rw [first]
      exact Nat.zero_le _
    · have below : n / 1000 - 1 ≤ product n / unitsPerOne :=
        le_product_div_of_le digits (by omega) 1000 (by omega) (by omega)
      omega

/-- Below `2^52` microseconds the duration is never too long, and it is exact between two whole
numbers of milliseconds. -/
theorem product_div_small (small : n < 2 ^ 52) :
    product n / unitsPerOne ≤ n / 1000 ∧ (¬1000 ∣ n → product n / unitsPerOne = n / 1000) := by
  obtain rfl | positive := Nat.eq_zero_or_pos n
  · rw [product_zero]
    decide
  · obtain ⟨places, digits, room, scale⟩ :=
      exists_places 19 (by omega) (Nat.lt_of_lt_of_le small (by decide)) (by omega)
    have above : product n / unitsPerOne < n / 1000 + 1 :=
      product_div_lt_of_le digits (by omega) 1 (by omega) (by omega)
    refine ⟨by omega, fun between => ?_⟩
    have below : n / 1000 ≤ product n / unitsPerOne :=
      le_product_div_of_le digits (by omega) 1 (by omega) (by omega)
    omega

end Distance

section Whole

/-- The whole numbers of milliseconds that lose one. Their seconds have 53 binary digits, `places`
of them after the point. Rounding these down takes the remainder off the thousandfold, and below
`2^62`, where doubles are 512 apart, more than half of that is not made up for. -/
def FallsShort (k : Nat) : Prop :=
  ∃ places < 63, 1000 * 2 ^ 52 ≤ k * 2 ^ places ∧ k * 2 ^ places < 1024 * 2 ^ 52 ∧
    256 < k * 2 ^ places % 1000 ∧ k * 2 ^ places % 1000 < 500

instance : Decidable (FallsShort k) := inferInstanceAs (Decidable (∃ places < 63, _))

example : FallsShort 1001 ∧ ¬FallsShort 1000 ∧ ¬FallsShort 2047 := by decide

theorem fallsShort_iff (h : Digits (1000 * k) 1000000 places) :
    FallsShort k ↔ k * 2 ^ places < 1024 * 2 ^ 52 ∧
      256 < k * 2 ^ places % 1000 ∧ k * 2 ^ places % 1000 < 500 := by
  have size : block = 2 ^ 52 := rfl
  obtain ⟨-, -, low, high⟩ := h
  rw [size, Nat.mul_assoc] at low high
  constructor
  · rintro ⟨others, -, low', high', rest⟩
    have twice {few many : Nat} (more : few < many) : k * 2 ^ few * 2 ≤ k * 2 ^ many := by
      rw [Nat.mul_assoc, ← Nat.pow_succ]
      exact Nat.mul_le_mul_left k (Nat.pow_le_pow_right (by decide) more)
    have same : others = places := by
      obtain fewer | same | more := Nat.lt_trichotomy others places
      · have double := twice fewer
        omega
      · exact same
      · have double := twice more
        omega
    subst same
    exact ⟨high', rest⟩
  · rintro ⟨high', rest⟩
    refine ⟨places, Nat.lt_of_not_le fun many => ?_, by omega, high', rest⟩
    have power : 2 ^ 63 ≤ 2 ^ places := Nat.pow_le_pow_right (by decide) many
    obtain rfl | positive := Nat.eq_zero_or_pos k
    · omega
    · have product : 2 ^ places ≤ k * 2 ^ places := Nat.le_mul_of_pos_left _ positive
      omega

theorem spacing_eq (magnitude : Nat) : ∃ lost ≤ 10, spacing magnitude = 2 ^ lost := by
  unfold spacing
  split
  · exact ⟨9, by decide, rfl⟩
  · exact ⟨10, by decide, rfl⟩

/-- A whole number of milliseconds is reached from half the distance below it: it is an even
multiple of the distance. -/
theorem whole_le_milliseconds_iff (room : 20 ≤ places) :
    k * 2 ^ places ≤ milliseconds (1000 * k) places ↔
      2 * (k * 2 ^ places) ≤
        2 * (1000 * seconds (1000 * k) places) + spacing (1000 * seconds (1000 * k) places) := by
  unfold milliseconds
  generalize 1000 * seconds (1000 * k) places = magnitude
  obtain ⟨lost, few, gap⟩ := spacing_eq magnitude
  obtain ⟨rest, rfl⟩ : ∃ rest, places = rest + 1 + lost := ⟨places - lost - 1, by omega⟩
  have positive : 0 < 2 ^ lost := Nat.two_pow_pos lost
  have even : k * 2 ^ (rest + 1) % 2 = 0 := by
    rw [Nat.pow_succ, ← Nat.mul_assoc, Nat.mul_mod_left]
  rw [gap, Nat.pow_add, ← Nat.mul_assoc, Nat.mul_le_mul_right_iff positive]
  exact le_roundDiv_even_iff positive even

/-- How much the rounding of the seconds may take off. The remainder is a multiple of eight, so the
seconds are never halfway; nor is `2^62` rounded down. -/
theorem taken_off_iff {K : Nat} (even : K % 2 ^ 20 = 0) :
    2 * K ≤ 2 * (1000 * roundDiv K 1000) + spacing (1000 * roundDiv K 1000) ↔
      ¬(K < 1024 * 2 ^ 52 ∧ 256 < K % 1000 ∧ K % 1000 < 500) := by
  have cases := roundDiv_cases K 1000
  unfold spacing
  split <;> omega

theorem reached_iff (h : Digits (1000 * k) 1000000 places) (room : 20 ≤ places) :
    k ≤ product (1000 * k) / unitsPerOne ↔ ¬FallsShort k := by
  have seconds_eq : seconds (1000 * k) places = roundDiv (k * 2 ^ places) 1000 := by
    have thousands : 1000 * k * 2 ^ places = k * 2 ^ places * 1000 := by
      rw [Nat.mul_assoc, Nat.mul_comm]
    have million : 1000000 = 1000 * 1000 := rfl
    rw [seconds, thousands, million, roundDiv_mul_right (by decide)]
  have even : k * 2 ^ places % 2 ^ 20 = 0 := by
    obtain ⟨rest, rfl⟩ : ∃ rest, places = rest + 20 := ⟨places - 20, by omega⟩
    rw [Nat.pow_add, ← Nat.mul_assoc, Nat.mul_mod_left]
  rw [le_product_div_iff h (by omega), whole_le_milliseconds_iff room, seconds_eq,
    taken_off_iff even, fallsShort_iff h]

theorem product_div_whole (small : 1000 * k < 2 ^ 52) :
    product (1000 * k) / unitsPerOne + (if FallsShort k then 1 else 0) = k := by
  obtain rfl | positive := Nat.eq_zero_or_pos k
  · rw [product_zero, if_neg (by decide)]
  · obtain ⟨places, digits, room, scale⟩ :=
      exists_places 19 (by omega) (Nat.lt_of_lt_of_le small (by decide)) (by omega)
    obtain ⟨above, -⟩ := product_div_small small
    have below : k - 1 ≤ product (1000 * k) / unitsPerOne :=
      le_product_div_of_le digits (by omega) 1000 (by omega) (by omega)
    have reached := reached_iff digits room
    split
    · next short =>
      have missed : ¬k ≤ product (1000 * k) / unitsPerOne := fun met => reached.mp met short
      omega
    · next kept =>
      have met := reached.mpr kept
      omega

end Whole

section Summary

/-- Whether rounding has carried the milliseconds of a span across a whole number of them. -/
def Crosses (span : Int) : Prop :=
  ∃ m : Nat, (1000 * m ≤ span.natAbs ∧ product span.natAbs < m * unitsPerOne) ∨
    (span.natAbs < 1000 * m ∧ m * unitsPerOne ≤ product span.natAbs)

theorem crosses_iff (span : Int) :
    Crosses span ↔ product span.natAbs / unitsPerOne ≠ span.natAbs / 1000 := by
  have reached (m : Nat) :
      m * unitsPerOne ≤ product span.natAbs ↔ m ≤ product span.natAbs / unitsPerOne :=
    (Nat.le_div_iff_mul_le unitsPerOne_pos).symm
  have elapsed (m : Nat) : 1000 * m ≤ span.natAbs ↔ m ≤ span.natAbs / 1000 := by omega
  simp only [Crosses, ← Nat.not_le, reached, elapsed]
  generalize product span.natAbs / unitsPerOne = given, span.natAbs / 1000 = due
  constructor
  · rintro ⟨m, short | long⟩ <;> omega
  · intro different
    obtain short | long := Nat.lt_or_gt_of_ne different
    · exact ⟨due, .inl (by omega)⟩
    · exact ⟨given, .inr (by omega)⟩

theorem crosses_iff_of_small (small : span.natAbs < 2 ^ 52) :
    Crosses span ↔ 1000 ∣ span ∧ FallsShort (span.natAbs / 1000) := by
  have magnitudes : 1000 ∣ span ↔ 1000 ∣ span.natAbs := by omega
  rw [crosses_iff, magnitudes]
  by_cases whole : 1000 ∣ span.natAbs
  · obtain ⟨k, thousands⟩ := whole
    rw [thousands] at small ⊢
    have given := product_div_whole small
    rw [Nat.mul_div_cancel_left k (by decide)]
    split at given
    · next short => exact ⟨fun _ => ⟨⟨k, rfl⟩, short⟩, fun _ => by omega⟩
    · next kept =>
      rw [Nat.add_zero] at given
      exact ⟨fun lost => absurd given lost, fun short => absurd short.2 kept⟩
  · have given := (product_div_small small).2 whole
    exact ⟨fun lost => absurd given lost, fun short => absurd short.1 whole⟩

theorem crosses_of_small (small : span.natAbs < 2 ^ 52) (crossed : Crosses span) :
    product span.natAbs / unitsPerOne + 1 = span.natAbs / 1000 := by
  obtain ⟨whole, short⟩ := (crosses_iff_of_small small).mp crossed
  obtain ⟨k, thousands⟩ : 1000 ∣ span.natAbs := by omega
  rw [thousands] at small short ⊢
  rw [Nat.mul_div_cancel_left _ (by decide)] at short ⊢
  have given := product_div_whole small
  rwa [if_pos short] at given

theorem tdiv_thousand (span : Int) :
    span.tdiv 1000 =
      if span < 0 then -((span.natAbs / 1000 : Nat) : Int) else (span.natAbs / 1000 : Nat) := by
  split
  · next negative =>
    obtain ⟨n, rfl⟩ : ∃ n : Nat, span = -n := ⟨span.natAbs, by omega⟩
    rw [Int.neg_tdiv, Int.natAbs_neg]
    rfl
  · next positive =>
    rw [Int.tdiv_eq_ediv_of_nonneg (by omega)]
    omega

theorem millisecondsOf_exact_iff (span : Int) :
    millisecondsOf span = span.tdiv 1000 ↔ ¬Crosses span := by
  rw [crosses_iff, millisecondsOf_eq, tdiv_thousand]
  generalize product span.natAbs / unitsPerOne = given
  split <;> omega

theorem millisecondsOf_of_crosses (small : span.natAbs < 2 ^ 52) (crossed : Crosses span) :
    millisecondsOf span = span.tdiv 1000 - span.sign := by
  have lost := crosses_of_small small crossed
  rw [millisecondsOf_eq, tdiv_thousand]
  generalize product span.natAbs / unitsPerOne = given at lost
  obtain negative | zero | positive := Int.lt_trichotomy span 0
  · rw [Int.sign_eq_neg_one_of_neg negative, if_pos negative, if_pos negative]
    omega
  · omega
  · rw [Int.sign_eq_one_of_pos positive, if_neg (by omega), if_neg (by omega)]
    omega

theorem millisecondsOf_near (bounded : span.natAbs < 10 ^ 18) :
    (millisecondsOf span - span.tdiv 1000).natAbs ≤ 1 := by
  obtain ⟨above, below⟩ := product_div_near bounded
  rw [millisecondsOf_eq, tdiv_thousand]
  generalize product span.natAbs / unitsPerOne = given at above below
  split <;> omega

/-- The duration is the difference in whole milliseconds, truncated toward zero, unless rounding has
crossed one of them. Below 142 years only whole numbers of milliseconds are lost, which are then one
too short; up to 31 000 years it is a matter of one millisecond. -/
theorem exact_unless_crossed {e : Execution} {finish : Moment}
    (completed : e.completedAt = some finish) (alike : finish.comparable e.startedAt = true)
    (difference : finish.instant - e.startedAt.instant = span) :
    ∃ s duration, e.summary = .ok s ∧ s.duration = some duration ∧
      (duration = span.tdiv 1000 ↔ ¬Crosses span) ∧
      (span.natAbs < 2 ^ 52 →
        (Crosses span ↔ 1000 ∣ span ∧ FallsShort (span.natAbs / 1000)) ∧
          (Crosses span → duration = span.tdiv 1000 - span.sign)) ∧
      (span.natAbs < 10 ^ 18 → (duration - span.tdiv 1000).natAbs ≤ 1) := by
  have since : finish.since? e.startedAt = some span := by
    rw [Moment.since?, if_pos alike, difference]
  have summed : ∃ s, e.summary = .ok s ∧ s.duration = some (millisecondsOf span) := by
    rw [Execution.summary, completed]
    simp only [since]
    exact ⟨_, rfl, rfl⟩
  obtain ⟨s, given, duration⟩ := summed
  exact ⟨s, _, given, duration, millisecondsOf_exact_iff span,
    fun small => ⟨crosses_iff_of_small small, millisecondsOf_of_crosses small⟩,
    millisecondsOf_near⟩

def brief : Execution where
  id := "e"
  workflow := "wf"
  tenant := "tenant-1"
  status := .completed
  triggerData := []
  steps := []
  startedAt := .utc 0
  completedAt := some (.utc 1001000)
  error := none

theorem brief_is_one_short : Int.natAbs 1001000 < 2 ^ 52 ∧ FallsShort 1001 ∧
    ∃ s, brief.summary = .ok s ∧ s.duration = some (Int.tdiv 1001000 1000 - 1) := by
  have short : FallsShort 1001 := by decide
  have small : Int.natAbs 1001000 < 2 ^ 52 := by decide
  obtain ⟨s, duration, given, is, -, below, -⟩ :=
    exact_unless_crossed (e := brief) rfl rfl rfl
  obtain ⟨crosses, loses⟩ := below small
  refine ⟨small, short, s, given, is.trans (congrArg some ?_)⟩
  exact loses (crosses.mpr ⟨by decide, short⟩)

theorem brief_loses_one : ∃ finish, brief.completedAt = some finish ∧
    finish.comparable brief.startedAt = true ∧
    ∃ s, brief.summary = .ok s ∧ s.duration = some 1000 ∧
      (finish.instant - brief.startedAt.instant).tdiv 1000 = 1001 :=
  ⟨_, rfl, rfl, _, rfl, by decide +kernel, rfl⟩

end Summary
end TriggerFlow.Duration
