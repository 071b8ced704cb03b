import TriggerFlow.Text.Case
import TriggerFlow.Text.Search

/-!
Lower case of a part of a text. Only a capital sigma depends on what stands around it, so a part is
written in the text as it is written alone exactly if each of its capital sigmas ends a word in both
or in neither. What is in lower case already stays as it is.
-/

namespace TriggerFlow.Text

variable {before after cs ds : List Char} {c d : Char}

theorem isInfix_iff {needle : List Char} : isInfix needle cs = true ↔ needle <:+: cs := by
  induction cs with
  | nil => rw [isInfix, List.isEmpty_iff, List.infix_nil]
  | cons c cs ih =>
      rw [isInfix, Bool.or_eq_true, List.isPrefixOf_iff_prefix, ih, List.infix_cons_iff]

section Sigmas

/-- Whether a capital sigma between two texts, the one in front nearest character first, ends a
word. -/
def isFinal (before after : List Char) : Bool := casedNext before && !casedNext after

/-- The lower case of a part that stands between two others. -/
def lowerBetween (before : List Char) : List Char → List Char → List Char
  | [], _ => []
  | c :: cs, after =>
    (if c = 'Σ' then [if isFinal before (cs ++ after) then 'ς' else 'σ'] else lowerChar c)
      ++ lowerBetween (c :: before) cs after

theorem lowerAfter_append (before cs after : List Char) :
    lowerAfter before (cs ++ after) =
      lowerBetween before cs after ++ lowerAfter (cs.reverse ++ before) after := by
  induction cs generalizing before with
  | nil => rfl
  | cons c cs ih =>
      rw [List.cons_append, lowerAfter, lowerBetween, ih, List.append_assoc, List.reverse_cons,
        List.append_assoc]
      rfl

theorem lowerAfter_eq (before cs : List Char) :
    lowerAfter before cs = lowerBetween before cs [] := by
  have whole := lowerAfter_append before cs []
  rwa [List.append_nil, lowerAfter, List.append_nil] at whole

theorem length_lowerBetween (before before' cs after after' : List Char) :
    (lowerBetween before cs after).length = (lowerBetween before' cs after').length := by
  induction cs generalizing before before' with
  | nil => rfl
  | cons c cs ih =>
      rw [lowerBetween, lowerBetween, List.length_append, List.length_append,
        ih (c :: before) (c :: before')]
      by_cases sigma : c = 'Σ' <;> simp [sigma]

/-- Every capital sigma of a part ends a word between the first two texts exactly if it does between
the last two. -/
def SameFinals (cs before after before' after' : List Char) : Prop :=
  ∀ left right, cs = left ++ 'Σ' :: right →
    isFinal (left.reverse ++ before) (right ++ after) =
      isFinal (left.reverse ++ before') (right ++ after')

theorem sameFinals_cons {before' after' : List Char} :
    SameFinals (c :: cs) before after before' after' ↔
      (c = 'Σ' → isFinal before (cs ++ after) = isFinal before' (cs ++ after')) ∧
        SameFinals cs (c :: before) after (c :: before') after' := by
  constructor
  · intro same
    refine ⟨fun sigma => same [] cs (by rw [sigma]; rfl), fun left right split => ?_⟩
    simpa using same (c :: left) right (by rw [split]; rfl)
  · rintro ⟨first, rest⟩ left right split
    cases left with
    | nil =>
        obtain ⟨rfl, rfl⟩ := List.cons.inj split
        exact first rfl
    | cons d left =>
        obtain ⟨rfl, same⟩ := List.cons.inj split
        simpa using rest left right same

/-- A part is written alike in two places exactly if its sigmas are. -/
theorem lowerBetween_eq_iff {before' after' : List Char} :
    lowerBetween before cs after = lowerBetween before' cs after' ↔
      SameFinals cs before after before' after' := by
  induction cs generalizing before before' with
  | nil =>
      refine ⟨fun _ left right split => ?_, fun _ => rfl⟩
      cases left <;> cases split
  | cons c cs ih =>
      rw [sameFinals_cons, ← ih, lowerBetween, lowerBetween]
      by_cases sigma : c = 'Σ'
      · simp only [sigma, if_true, List.cons_append, List.nil_append, List.cons.injEq,
          forall_const]
        refine and_congr_left fun _ => ?_
        cases isFinal before (cs ++ after) <;> cases isFinal before' (cs ++ after') <;> decide
      · simp only [sigma, if_false, List.append_cancel_left_eq, false_implies, true_and]

end Sigmas

section Fixed

/-- Whether a run moves its characters to code points of characters. -/
def lands : Nat × Nat × Nat × Int → Bool
  | (first, last, step, shift) =>
    0 < first + shift && (step == 1 || step == 2) &&
      (last + shift < 0xd800 || (0xdfff < first + shift && last + shift < 0x110000))

/-- Whether a run has none of the places from `first` up to `last` that are `step` apart. -/
def clears (first last step : Nat) : Nat × Nat × Nat × Int → Bool
  | (first', last', step', _) =>
    last.blt first' || last'.blt first ||
      (step' == 2 && (first == last || step == 2) && (first + first') % 2 == 1)

theorem lowerRuns_land : Tables.lowerRuns.all lands = true := by decide +kernel

/-- No image is in a run again, and none is the dotted capital I, which is in no run. -/
theorem lowerRuns_clear :
    (Tables.lowerRuns.all fun (first, last, step, shift) =>
      ((0x130, 0x130, 1, 0) :: Tables.lowerRuns).all
        (clears (first + shift).toNat (last + shift).toNat step)) = true := by
  decide +kernel

def Covers : Nat × Nat × Nat × Int → Nat → Prop
  | (first, last, step, _), n => first ≤ n ∧ n ≤ last ∧ (n - first) % step = 0

theorem not_covers_of_clears {first last step n : Nat} {r : Nat × Nat × Nat × Int}
    (h : clears first last step r = true) (low : first ≤ n) (high : n ≤ last)
    (steps : (n - first) % step = 0) : ¬ Covers r n := by
  obtain ⟨first', last', step', shift'⟩ := r
  simp only [clears, Bool.or_eq_true, Bool.and_eq_true, beq_iff_eq, Nat.blt_eq] at h
  rintro ⟨low', high', steps'⟩
  rcases h with (before | after) | ⟨⟨rfl, rfl | rfl⟩, odd⟩ <;> omega

section Runs

variable {runs : List (Nat × Nat × Nat × Int)}

theorem mapRun_eq_or :
    mapRun runs c = c ∨ ∃ r ∈ runs, Covers r c.toNat ∧
      mapRun runs c = Char.ofNat (c.toNat + r.2.2.2).toNat := by
  rw [mapRun]
  split
  · next found =>
    have within := List.find?_some found
    simp only [Bool.and_eq_true, decide_eq_true_eq, beq_iff_eq, and_assoc] at within
    exact .inr ⟨_, List.mem_of_find?_eq_some found, within, rfl⟩
  · exact .inl rfl

theorem mapRun_of_away (away : ∀ r ∈ runs, ¬ Covers r c.toNat) : mapRun runs c = c := by
  rw [mapRun, List.find?_eq_none.mpr]
  intro r mem within
  simp only [Bool.and_eq_true, decide_eq_true_eq, beq_iff_eq, and_assoc] at within
  exact away r mem within

end Runs

/-- A character that stays as it is. -/
def IsLower (c : Char) : Prop := lowerChar c = [c]

instance : Decidable (IsLower c) := inferInstanceAs (Decidable (_ = _))

@[simp] theorem lowerChar_sigma : lowerChar 'Σ' = ['σ'] := rfl

theorem IsLower.ne_sigma (h : IsLower c) : c ≠ 'Σ' := by
  rintro rfl
  exact absurd (lowerChar_sigma.symm.trans h) (by decide)

/-- A character stays, or moves to one that stays. -/
theorem mapRun_lower :
    mapRun Tables.lowerRuns c = c ∨ IsLower (mapRun Tables.lowerRuns c) := by
  refine mapRun_eq_or.imp_right ?_
  rintro ⟨⟨first, last, step, shift⟩, mem, ⟨low, high, steps⟩, moved⟩
  have landed := List.all_eq_true.mp lowerRuns_land _ mem
  simp only [lands, Bool.and_eq_true, Bool.or_eq_true, decide_eq_true_eq] at landed
  obtain ⟨⟨positive, -⟩, valid⟩ := landed
  have place : (Char.ofNat (c.toNat + shift).toNat).toNat = (c.toNat + shift).toNat := by
    rw [Char.ofNat, dif_pos (by unfold Nat.isValidChar; omega)]
    rfl
  have away : ∀ r ∈ (0x130, 0x130, 1, 0) :: Tables.lowerRuns,
      ¬ Covers r (c.toNat + shift).toNat := by
    intro r mem'
    have cleared : clears (first + shift).toNat (last + shift).toNat step r = true :=
      List.all_eq_true.mp (List.all_eq_true.mp lowerRuns_clear _ mem) _ mem'
    have same : (c.toNat + shift).toNat - (first + shift).toNat = c.toNat - first := by omega
    exact not_covers_of_clears cleared (by omega) (by omega) (by rw [same, steps])
  rw [moved, IsLower, lowerChar, if_neg, mapRun_of_away]
  · rw [place]
    exact fun r mem' => away r (List.mem_cons_of_mem _ mem')
  · intro dotted
    rw [dotted] at place
    exact away _ List.mem_cons_self
      ⟨Nat.le_of_eq place, Nat.le_of_eq place.symm, Nat.mod_one _⟩

theorem lowerChar_eq (ne : c ≠ 'İ') : lowerChar c = [mapRun Tables.lowerRuns c] := if_neg ne

theorem isLower_of_mem_lowerChar (h : d ∈ lowerChar c) : IsLower d := by
  by_cases dotted : c = 'İ'
  · subst dotted
    have image : d = 'i' ∨ d = '\u0307' := by simpa [lowerChar] using h
    rcases image with rfl | rfl <;> exact rfl
  · rw [lowerChar_eq dotted, List.mem_singleton] at h
    subst h
    rcases mapRun_lower (c := c) with stays | lower
    · rw [stays, IsLower, lowerChar_eq dotted, stays]
    · exact lower

theorem isLower_of_mem_lowerAfter (h : d ∈ lowerAfter before cs) : IsLower d := by
  induction cs generalizing before with
  | nil => cases h
  | cons c cs ih =>
      rw [lowerAfter, List.mem_append] at h
      rcases h with h | h
      · by_cases sigma : c = 'Σ'
        · have finals : ∀ last : Bool, IsLower (if last then 'ς' else 'σ') :=
            Bool.forall_bool.mpr ⟨rfl, rfl⟩
          rw [if_pos sigma, List.mem_singleton] at h
          rw [h]
          exact finals _
        · rw [if_neg sigma] at h
          exact isLower_of_mem_lowerChar h
      · exact ih h

theorem lowerChar_ne_nil (c : Char) : lowerChar c ≠ [] := by
  rw [lowerChar]
  split <;> exact List.cons_ne_nil _ _

theorem lowerAfter_eq_nil_iff : lowerAfter before cs = [] ↔ cs = [] := by
  cases cs with
  | nil => simp only [lowerAfter]
  | cons c cs =>
      rw [lowerAfter, List.append_eq_nil_iff]
      refine ⟨fun empty => ?_, fun empty => absurd empty (List.cons_ne_nil c cs)⟩
      split at empty
      · exact absurd empty.1 (List.cons_ne_nil _ _)
      · exact absurd empty.1 (lowerChar_ne_nil c)

theorem lowerAfter_of_isLower (h : ∀ c ∈ cs, IsLower c) : lowerAfter before cs = cs := by
  induction cs generalizing before with
  | nil => rfl
  | cons c cs ih =>
      have lower := h c List.mem_cons_self
      have rest : ∀ d ∈ cs, IsLower d := fun d mem => h d (List.mem_cons_of_mem c mem)
      rw [lowerAfter, if_neg lower.ne_sigma, lower, ih rest]
      rfl

end Fixed

end TriggerFlow.Text
