import TriggerFlow.Json.Reader
import TriggerFlow.Proofs.Number.Nearest

/-!
Numbers read back from their text: integers within the digit limit, and doubles from the shortest
decimal in either form.
-/

namespace TriggerFlow

namespace Numeral

variable {ds tail : List Char} {n : Nat}

theorem ofDigits_toDigits (n : Nat) : ofDigits (Nat.toDigits 10 n) = n :=
  Nat.ofDigitChars_ten_toDigits

theorem ofDigits_append (xs ys : List Char) :
    ofDigits (xs ++ ys) = 10 ^ ys.length * ofDigits xs + ofDigits ys :=
  (Nat.ofDigitChars_append 0).trans Nat.ofDigitChars_eq_ofDigitChars_zero

theorem ofDigits_zeros (k : Nat) : ofDigits (List.replicate k '0') = 0 :=
  Nat.ofDigitChars_replicate_zero.trans (Nat.mul_zero _)

theorem ofDigits_zeros_append (k : Nat) (ds : List Char) :
    ofDigits (List.replicate k '0' ++ ds) = ofDigits ds := by
  rw [ofDigits_append, ofDigits_zeros, Nat.mul_zero, Nat.zero_add]

theorem ofDigits_append_zeros (ds : List Char) (k : Nat) :
    ofDigits (ds ++ List.replicate k '0') = ofDigits ds * 10 ^ k := by
  rw [ofDigits_append, ofDigits_zeros, List.length_replicate, Nat.add_zero, Nat.mul_comm]

theorem isDigit_of_mem_toDigits {c : Char} (h : c ∈ Nat.toDigits 10 n) : c.isDigit = true :=
  Nat.isDigit_of_mem_toDigits (by decide) (by decide) h

theorem head?_toDigits_ne_zero (positive : n ≠ 0) : (Nat.toDigits 10 n).head? ≠ some '0' := by
  induction n using Nat.strongRecOn with
  | ind n ih =>
      rw [Nat.toDigits_eq_if (by decide)]
      split
      · simpa using positive
      · next large =>
        have before := ih (n / 10) (by omega) (by omega)
        obtain ⟨d, ds, same⟩ := List.exists_cons_of_ne_nil (Nat.toDigits_ne_nil (n := n / 10))
        rwa [same] at before ⊢

/-- Text that no further digit follows. -/
def Stops (tail : List Char) : Prop := ∀ c ∈ tail.head?, c.isDigit = false

theorem takeWhile_digits (digits : ∀ c ∈ ds, c.isDigit = true) (stops : Stops tail) :
    (ds ++ tail).takeWhile Char.isDigit = ds := by
  rw [List.takeWhile_append_of_pos digits]
  cases tail with
  | nil => simp
  | cons c tail => simp [stops c rfl]

theorem dropWhile_digits (digits : ∀ c ∈ ds, c.isDigit = true) (stops : Stops tail) :
    (ds ++ tail).dropWhile Char.isDigit = tail := by
  rw [List.dropWhile_append_of_pos digits]
  cases tail with
  | nil => rfl
  | cons c tail => simp [stops c rfl]

end Numeral

namespace Json

open Numeral

variable {ds tail rest whole after fraction after' : List Char} {exponent : Option Int}

/-- What may stand after a value: a separator, a bracket or nothing. -/
def Closes (rest : List Char) : Prop := ∀ c ∈ rest.head?, c = ',' ∨ c = ']' ∨ c = '\x7d'

theorem closes_nil : Closes [] := by
  intro _ first
  cases first

theorem closes_cons {c : Char} (h : c = ',' ∨ c = ']' ∨ c = '\x7d') (cs : List Char) :
    Closes (c :: cs) := by
  rintro _ ⟨⟩
  exact h

theorem Closes.stops (h : Closes rest) : Stops rest := by
  intro c first
  obtain rfl | rfl | rfl := h c first <;> rfl

theorem wholeDigits_zero (tail : List Char) : wholeDigits ('0' :: tail) = (['0'], tail) := rfl

theorem wholeDigits_append (digits : ∀ c ∈ ds, c.isDigit = true) (first : ds.head? ≠ some '0')
    (filled : ds ≠ []) (stops : Stops tail) : wholeDigits (ds ++ tail) = (ds, tail) := by
  obtain ⟨d, ds, rfl⟩ := List.exists_cons_of_ne_nil filled
  unfold wholeDigits
  split
  · next zero => exact absurd (congrArg List.head? zero) first
  · rw [takeWhile_digits digits stops, dropWhile_digits digits stops]

theorem fractionDigits_append (digits : ∀ c ∈ ds, c.isDigit = true) (filled : ds ≠ [])
    (stops : Stops tail) : fractionDigits ('.' :: (ds ++ tail)) = (ds, tail) := by
  obtain ⟨d, ds, rfl⟩ := List.exists_cons_of_ne_nil filled
  have first : (d :: ds ++ tail).head?.any Char.isDigit = true := digits d List.mem_cons_self
  simp only [fractionDigits, first, if_true]
  rw [takeWhile_digits digits stops, dropWhile_digits digits stops]

theorem fractionDigits_of_closes (h : Closes rest) : fractionDigits rest = ([], rest) := by
  unfold fractionDigits
  split
  · obtain same | same | same := h _ rfl <;> cases same
  · rfl

theorem exponentPart_of_closes (h : Closes rest) : exponentPart rest = (none, rest) := by
  unfold exponentPart
  split
  · obtain rfl | rfl | rfl := h _ rfl <;> rfl
  · rfl

theorem exponentPart_append (negative : Bool) (digits : ∀ c ∈ ds, c.isDigit = true)
    (filled : ds ≠ []) (stops : Stops tail) :
    exponentPart ('e' :: (if negative then '-' else '+') :: (ds ++ tail)) =
      (.some (if negative then -(ofDigits ds : Int) else ofDigits ds), tail) := by
  have first : (ds ++ tail).head?.any Char.isDigit = true := by
    obtain ⟨d, ds, rfl⟩ := List.exists_cons_of_ne_nil filled
    exact digits d List.mem_cons_self
  have sign : takeSign ((if negative then '-' else '+') :: (ds ++ tail)) =
      (negative, ds ++ tail) := by
    cases negative <;> rfl
  simp only [exponentPart, sign, first, takeWhile_digits digits stops,
    dropWhile_digits digits stops]
  rfl

theorem readNumber_eq (negative : Bool) {body : List Char} (unsigned : body.head? ≠ some '-')
    (wholes : wholeDigits body = (whole, after)) (some : whole ≠ [])
    (fractions : fractionDigits after = (fraction, after'))
    (exponents : exponentPart after' = (exponent, rest)) :
    readNumber (if negative then '-' :: body else body) =
      if fraction.isEmpty && exponent.isNone then
        if maxDigits < whole.length then .error (.integerTooLong whole.length)
        else .ok (.int (if negative then -(ofDigits whole : Int) else ofDigits whole), rest)
      else .ok (.float (Binary64.ofDecimal negative (ofDigits (whole ++ fraction))
        (exponent.getD 0 - fraction.length)), rest) := by
  have filled : whole.isEmpty = false := by simpa using some
  cases negative with
  | true => simp [readNumber, wholes, filled, fractions, exponents]
  | false =>
      simp only [Bool.false_eq_true, if_false, readNumber]
      split
      · exact absurd rfl unsigned
      · simp [wholes, filled, fractions, exponents]

theorem wholeDigits_toDigits (n : Nat) (stops : Stops tail) :
    wholeDigits (Nat.toDigits 10 n ++ tail) = (Nat.toDigits 10 n, tail) := by
  by_cases zero : n = 0
  · rw [zero, Nat.toDigits_zero]
    exact wholeDigits_zero tail
  · exact wholeDigits_append (fun c => isDigit_of_mem_toDigits) (head?_toDigits_ne_zero zero)
      Nat.toDigits_ne_nil stops

theorem head?_ne_minus (digits : ∀ c ∈ ds, c.isDigit = true) (filled : ds ≠ []) :
    (ds ++ tail).head? ≠ some '-' := by
  obtain ⟨d, ds, rfl⟩ := List.exists_cons_of_ne_nil filled
  intro minus
  have digit := digits d List.mem_cons_self
  rw [Option.some.inj minus] at digit
  cases digit

/-- The text of an integer reads back as it. -/
theorem readNumber_integer {n : Int} {text : List Char} (written : integerText n = .ok text)
    (closes : Closes rest) : readNumber (text ++ rest) = .ok (.int n, rest) := by
  have short : ¬ maxDigits < (Nat.toDigits 10 n.natAbs).length := by
    intro long
    rw [integerText, if_pos long] at written
    cases written
  rw [integerText, if_neg short] at written
  cases written
  have signed : (if n < 0 then '-' :: Nat.toDigits 10 n.natAbs else Nat.toDigits 10 n.natAbs) ++
      rest = if decide (n < 0) = true then '-' :: (Nat.toDigits 10 n.natAbs ++ rest)
        else Nat.toDigits 10 n.natAbs ++ rest := by
    split <;> simp_all
  have value : (if decide (n < 0) = true then -(ofDigits (Nat.toDigits 10 n.natAbs) : Int)
      else ofDigits (Nat.toDigits 10 n.natAbs)) = n := by
    rw [ofDigits_toDigits]
    split
    next below =>
      have below := of_decide_eq_true below
      omega
    next above =>
      rw [decide_eq_true_eq] at above
      omega
  rw [signed, readNumber_eq (decide (n < 0))
    (head?_ne_minus (fun c => isDigit_of_mem_toDigits) Nat.toDigits_ne_nil)
    (wholeDigits_toDigits _ closes.stops) Nat.toDigits_ne_nil (fractionDigits_of_closes closes)
    (exponentPart_of_closes closes), value]
  exact if_neg short

end Json

namespace Binary64

open Json Numeral

variable {digits rest : List Char}

theorem ofDecimal_mul_pow (negative : Bool) (n shift : Nat) (exponent : Int) :
    ofDecimal negative (n * 10 ^ shift) (exponent - shift) = ofDecimal negative n exponent := by
  rw [ofDecimal_eq, ofDecimal_eq, Decimal.nearestRank_mul_pow]

/-- Digits that begin with no zero. -/
structure Leading (ds : List Char) : Prop where
  digits : ∀ c ∈ ds, c.isDigit = true
  filled : ds ≠ []
  first : ds.head? ≠ some '0'

theorem isDigit_of_mem_zeros {k : Nat} {c : Char} (h : c ∈ zeros k) : c.isDigit = true := by
  rw [List.eq_of_mem_replicate h]
  rfl

theorem stops_cons {c : Char} {cs : List Char} (h : c.isDigit = false) : Stops (c :: cs) := by
  intro d first
  cases first
  exact h

theorem readNumber_fraction (negative : Bool) {whole fraction : List Char}
    (wholes : wholeDigits (whole ++ '.' :: (fraction ++ rest)) = (whole, '.' :: (fraction ++ rest)))
    (digits : ∀ c ∈ whole ++ fraction, c.isDigit = true) (filled : whole ≠ [])
    (more : fraction ≠ []) (closes : Closes rest) :
    readNumber (if negative then '-' :: (whole ++ '.' :: (fraction ++ rest))
      else whole ++ '.' :: (fraction ++ rest)) =
      .ok (.float (ofDecimal negative (ofDigits (whole ++ fraction)) (-(fraction.length : Int))),
        rest) := by
  rw [List.forall_mem_append] at digits
  rw [readNumber_eq negative (head?_ne_minus digits.1 filled) wholes filled
    (fractionDigits_append digits.2 more closes.stops) (exponentPart_of_closes closes)]
  simp [more]

/-- What is written positionally reads back as the digits with their exponent. -/
theorem readNumber_positional (negative : Bool) (leading : Leading digits) (point : Int)
    (closes : Closes rest) :
    readNumber (if negative then '-' :: (positional digits point ++ rest)
      else positional digits point ++ rest) =
      .ok (.float (ofDecimal negative (ofDigits digits) (point - digits.length)), rest) := by
  by_cases below : point ≤ 0
  · have shape : positional digits point ++ rest =
        ['0'] ++ '.' :: ((zeros (-point).toNat ++ digits) ++ rest) := by
      rw [positional, if_pos below]
      rfl
    have digits' : ∀ c ∈ ['0'] ++ (zeros (-point).toNat ++ digits), c.isDigit = true := by
      simp only [List.forall_mem_append]
      exact ⟨by simp, fun c => isDigit_of_mem_zeros, leading.digits⟩
    have value : ofDigits (['0'] ++ (zeros (-point).toNat ++ digits)) = ofDigits digits :=
      (ofDigits_zeros_append 1 _).trans (ofDigits_zeros_append _ _)
    have places : -((zeros (-point).toNat ++ digits).length : Int) = point - digits.length := by
      rw [List.length_append, zeros, List.length_replicate]
      omega
    rw [shape, readNumber_fraction negative (wholeDigits_zero _) digits' (List.cons_ne_nil _ _)
      (List.append_ne_nil_of_right_ne_nil _ leading.filled) closes, value, places]
  by_cases whole : digits.length ≤ point.toNat
  · obtain ⟨z, filling⟩ : ∃ z, z = point.toNat - digits.length := ⟨_, rfl⟩
    have shape : positional digits point ++ rest =
        (digits ++ zeros z) ++ '.' :: (['0'] ++ rest) := by
      rw [positional, if_neg below, if_pos whole, ← filling, List.append_assoc]
      rfl
    have digits' : ∀ c ∈ digits ++ zeros z, c.isDigit = true := by
      rw [List.forall_mem_append]
      exact ⟨leading.digits, fun c => isDigit_of_mem_zeros⟩
    have filled : digits ++ zeros z ≠ [] := List.append_ne_nil_of_left_ne_nil leading.filled _
    have first : (digits ++ zeros z).head? ≠ some '0' := by
      obtain ⟨d, ds, same⟩ := List.exists_cons_of_ne_nil leading.filled
      have first := leading.first
      rwa [same] at first ⊢
    have value : ofDigits (digits ++ zeros z ++ ['0']) = ofDigits digits * 10 ^ (z + 1) := by
      rw [Nat.pow_add, ← Nat.mul_assoc, ← ofDigits_append_zeros digits z]
      exact ofDigits_append_zeros _ 1
    have places : -((['0'].length : Nat) : Int) =
        point - digits.length - ((z + 1 : Nat) : Int) := by
      rw [List.length_singleton]
      omega
    rw [shape, readNumber_fraction negative
      (wholeDigits_append digits' first filled (stops_cons rfl))
      (List.forall_mem_append.mpr ⟨digits', by simp⟩) filled (List.cons_ne_nil _ _) closes, value,
      places, ofDecimal_mul_pow]
  · obtain ⟨p, split⟩ : ∃ p, p = point.toNat := ⟨_, rfl⟩
    have shape : positional digits point ++ rest =
        digits.take p ++ '.' :: (digits.drop p ++ rest) := by
      rw [positional, if_neg below, if_neg whole, ← split, List.append_assoc]
      rfl
    have digits' : ∀ c ∈ digits.take p ++ digits.drop p, c.isDigit = true := by
      rw [List.take_append_drop]
      exact leading.digits
    have filled : digits.take p ≠ [] := by
      simp [List.take_eq_nil_iff, leading.filled]
      omega
    have first : (digits.take p).head? ≠ some '0' := by
      rw [List.head?_take, if_neg (by omega)]
      exact leading.first
    have places : -((digits.drop p).length : Int) = point - digits.length := by
      rw [List.length_drop]
      omega
    rw [shape, readNumber_fraction negative
      (wholeDigits_append (fun c mem => digits' c (List.mem_append_left _ mem)) first filled
        (stops_cons rfl)) digits' filled (by simp; omega) closes, List.take_append_drop, places]

/-- The digits of an exponent, at least two. -/
theorem exponentDigits (n : Nat) :
    ∃ ds, (if (Nat.toDigits 10 n).length < 2 then '0' :: Nat.toDigits 10 n
      else Nat.toDigits 10 n) = ds ∧ (∀ c ∈ ds, c.isDigit = true) ∧ ds ≠ [] ∧ ofDigits ds = n := by
  have digits : ∀ c ∈ Nat.toDigits 10 n, c.isDigit = true := fun c => isDigit_of_mem_toDigits
  refine ⟨_, rfl, ?_⟩
  split
  · exact ⟨List.forall_mem_cons.mpr ⟨rfl, digits⟩, List.cons_ne_nil _ _,
      (ofDigits_zeros_append 1 _).trans (ofDigits_toDigits n)⟩
  · exact ⟨digits, Nat.toDigits_ne_nil, ofDigits_toDigits n⟩

theorem readNumber_exponential (negative : Bool) (leading : Leading digits) (exponent : Int)
    (closes : Closes rest) :
    readNumber (if negative then '-' :: (exponential digits exponent ++ rest)
      else exponential digits exponent ++ rest) =
      .ok (.float (ofDecimal negative (ofDigits digits) (exponent + 1 - digits.length)), rest) := by
  obtain ⟨ds, written, digits', filled, value⟩ := exponentDigits exponent.natAbs
  have exponents : exponentPart ('e' :: (if exponent < 0 then '-' else '+') :: (ds ++ rest)) =
      (some exponent, rest) := by
    have read := exponentPart_append (decide (exponent < 0)) digits' filled closes.stops
    have signed : (if exponent < 0 then -(ofDigits ds : Int) else ofDigits ds) = exponent := by
      rw [value]
      split <;> omega
    simpa only [decide_eq_true_eq, signed] using read
  match digits, leading with
  | [], leading => exact absurd rfl leading.filled
  | [d], leading =>
      have shape : exponential [d] exponent ++ rest =
          [d] ++ 'e' :: (if exponent < 0 then '-' else '+') :: (ds ++ rest) := by
        rw [← written]
        rfl
      have fractions : fractionDigits ('e' :: (if exponent < 0 then '-' else '+') :: (ds ++ rest)) =
          ([], 'e' :: (if exponent < 0 then '-' else '+') :: (ds ++ rest)) := rfl
      rw [shape, readNumber_eq negative (head?_ne_minus leading.digits leading.filled)
        (wholeDigits_append leading.digits leading.first leading.filled (stops_cons rfl))
        leading.filled fractions exponents]
      simp
  | d :: d' :: more, leading =>
      have shape : exponential (d :: d' :: more) exponent ++ rest = [d] ++ '.' ::
          ((d' :: more) ++ 'e' :: (if exponent < 0 then '-' else '+') :: (ds ++ rest)) := by
        rw [← written]
        exact List.append_assoc (d :: '.' :: d' :: more) ('e' :: _ :: _) rest
      obtain ⟨one, others⟩ := List.forall_mem_cons.mp leading.digits
      have one : ∀ c ∈ [d], c.isDigit = true := List.forall_mem_singleton.mpr one
      have places : exponent - ((d' :: more).length : Int) =
          exponent + 1 - ((d :: d' :: more).length : Int) := by
        simp only [List.length_cons]
        omega
      rw [shape, readNumber_eq negative (head?_ne_minus one (List.cons_ne_nil _ _))
        (wholeDigits_append one leading.first (List.cons_ne_nil _ _) (stops_cons rfl))
        (List.cons_ne_nil _ _)
        (fractionDigits_append others (List.cons_ne_nil _ _) (stops_cons rfl)) exponents, ← places]
      rfl

theorem leading_toDigits {n : Nat} (positive : n ≠ 0) : Leading (Nat.toDigits 10 n) :=
  ⟨fun _ => isDigit_of_mem_toDigits, Nat.toDigits_ne_nil, head?_toDigits_ne_zero positive⟩

theorem readNumber_magnitudeText (negative : Bool) (rank : Fin ranks) (closes : Closes rest) :
    readNumber (if negative then '-' :: (magnitudeText rank ++ rest)
      else magnitudeText rank ++ rest) = .ok (.float (.finite negative rank), rest) := by
  by_cases zero : rank.val = 0
  · have shape : magnitudeText rank ++ rest = ['0'] ++ '.' :: (['0'] ++ rest) := by
      rw [magnitudeText, if_pos zero]
      rfl
    have value : ofDecimal negative (ofDigits (['0'] ++ ['0']))
        (-((['0'] : List Char).length : Int)) = .finite negative rank := by
      have nothing : ofDigits (['0'] ++ ['0']) = 0 := rfl
      rw [ofDecimal, if_pos nothing, ofRank_finite (zero ▸ rank.isLt)]
      exact congrArg _ (Fin.ext zero.symm)
    rw [shape, readNumber_fraction negative (wholeDigits_zero _) (by simp)
      (List.cons_ne_nil _ _) (List.cons_ne_nil _ _) closes, value]
  · have leading := leading_toDigits (digits_shortest_ne_zero zero)
    obtain ⟨point, place⟩ : ∃ point, point =
        (Nat.toDigits 10 (shortest rank).digits).length + (shortest rank).exponent := ⟨_, rfl⟩
    have value (e : Int) (same : e = (shortest rank).exponent) :
        ofDecimal negative (ofDigits (Nat.toDigits 10 (shortest rank).digits)) e =
          .finite negative rank := by
      rw [ofDigits_toDigits, same, ofDecimal_shortest]
    by_cases near : -4 < point ∧ point ≤ 16
    · have shape : magnitudeText rank =
          positional (Nat.toDigits 10 (shortest rank).digits) point := by
        rw [magnitudeText, if_neg zero]
        dsimp only
        rw [← place, if_pos near]
      rw [shape, readNumber_positional negative leading _ closes, value _ (by omega)]
    · have shape : magnitudeText rank =
          exponential (Nat.toDigits 10 (shortest rank).digits) (point - 1) := by
        rw [magnitudeText, if_neg zero]
        dsimp only
        rw [← place, if_neg near]
      rw [shape, readNumber_exponential negative leading _ closes, value _ (by omega)]

/-- The text of a finite number reads back as it. -/
theorem readNumber_text (negative : Bool) (rank : Fin ranks) (closes : Closes rest) :
    readNumber ((text (.finite negative rank)).toList ++ rest) =
      .ok (.float (.finite negative rank), rest) := by
  rw [← readNumber_magnitudeText negative rank closes, text, String.toList_ofList]
  cases negative <;> rfl

end Binary64
end TriggerFlow
