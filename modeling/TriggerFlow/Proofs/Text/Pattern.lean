import TriggerFlow.Proofs.Text.Letters

/-!
The patterns of SQL, without regard to case. A percent sign stands for any text, an underscore for
any one character, and a backslash takes the character behind it for itself; any other character
stands for its letter. A text that is put between two percent signs is found in the same texts as
its lower case is exactly if it is plain and steady.
-/

namespace TriggerFlow.Text

/-- A pattern that ends with a lone backslash matches nothing. -/
inductive Like : List Char → List Char → Prop
  | nil : Like [] []
  | any {pattern text : List Char} (skipped : List Char) (h : Like pattern text) :
    Like ('%' :: pattern) (skipped ++ text)
  | one {pattern text : List Char} (c : Char) (h : Like pattern text) :
    Like ('_' :: pattern) (c :: text)
  | escaped {pattern text : List Char} {c d : Char} (same : SameLetter c d)
    (h : Like pattern text) : Like ('\\' :: c :: pattern) (d :: text)
  | plain {pattern text : List Char} {c d : Char} (percent : c ≠ '%') (underscore : c ≠ '_')
    (backslash : c ≠ '\\') (same : SameLetter c d) (h : Like pattern text) :
    Like (c :: pattern) (d :: text)

variable {pattern rest text before before' cs : List Char} {c : Char}

/-- No character of the text means anything but itself. -/
def Plain (cs : List Char) : Prop := ∀ c ∈ cs, c ≠ '%' ∧ c ≠ '_' ∧ c ≠ '\\'

theorem plain_cons : Plain (c :: cs) ↔ (c ≠ '%' ∧ c ≠ '_' ∧ c ≠ '\\') ∧ Plain cs :=
  List.forall_mem_cons

namespace Like

theorem percent_iff : Like ('%' :: pattern) text ↔ ∃ kept, kept <:+ text ∧ Like pattern kept := by
  constructor
  · intro h
    cases h with
    | any skipped h => exact ⟨_, ⟨skipped, rfl⟩, h⟩
    | plain percent => exact absurd rfl percent
  · rintro ⟨kept, ⟨skipped, rfl⟩, h⟩
    exact .any skipped h

theorem percent : Like ['%'] text := percent_iff.mpr ⟨[], List.nil_suffix, .nil⟩

theorem plain_iff (plain : c ≠ '%' ∧ c ≠ '_' ∧ c ≠ '\\') :
    Like (c :: pattern) text ↔ ∃ d kept, text = d :: kept ∧ SameLetter c d ∧ Like pattern kept := by
  obtain ⟨percent, underscore, backslash⟩ := plain
  constructor
  · intro h
    cases h with
    | any | one | escaped => contradiction
    | plain _ _ _ same h => exact ⟨_, _, rfl, same, h⟩
  · rintro ⟨d, kept, rfl, same, h⟩
    exact .plain percent underscore backslash same h

theorem plain_append_iff (plain : Plain cs) : Like (cs ++ rest) text ↔
    ∃ ds kept, text = ds ++ kept ∧ List.Forall₂ SameLetter cs ds ∧ Like rest kept := by
  induction cs generalizing text with
  | nil =>
      constructor
      · exact fun h => ⟨[], text, rfl, .nil, h⟩
      · rintro ⟨_, _, rfl, ⟨⟩, h⟩
        exact h
  | cons c cs ih =>
      obtain ⟨first, plain⟩ := plain_cons.mp plain
      rw [List.cons_append, plain_iff first]
      constructor
      · rintro ⟨d, _, rfl, same, matched⟩
        obtain ⟨ds, kept, rfl, all, h⟩ := (ih plain).mp matched
        exact ⟨d :: ds, kept, rfl, .cons same all, h⟩
      · rintro ⟨_, kept, rfl, whole, h⟩
        obtain ⟨d, ds, same, all, rfl⟩ := List.forall₂_cons_left_iff.mp whole
        exact ⟨d, ds ++ kept, rfl, same, (ih plain).mpr ⟨ds, kept, rfl, all, h⟩⟩

end Like

def searched (cs : List Char) : List Char := '%' :: (cs ++ ['%'])

theorem like_searched (plain : Plain cs) : Like (searched cs) text ↔
    ∃ ds, ds <:+: text ∧ List.Forall₂ SameLetter cs ds := by
  rw [searched, Like.percent_iff]
  constructor
  · rintro ⟨_, ⟨skipped, rfl⟩, h⟩
    obtain ⟨ds, kept, rfl, same, -⟩ := (Like.plain_append_iff plain).mp h
    exact ⟨ds, ⟨skipped, kept, List.append_assoc _ _ _⟩, same⟩
  · rintro ⟨ds, ⟨skipped, kept, rfl⟩, same⟩
    refine ⟨ds ++ kept, ⟨skipped, (List.append_assoc _ _ _).symm⟩, ?_⟩
    exact (Like.plain_append_iff plain).mpr ⟨ds, kept, rfl, same, .percent⟩

/-- What stands in a sample for a character that no backslash is in front of. -/
def standIn (c : Char) : Char := if c = '%' ∨ c = '_' then ' ' else if c = '\\' then '%' else c

/-- A text that a search finds: what a backslash takes for itself, blanks in place of the other
marks, and the closing percent sign where the text ends with a backslash. -/
def sample : List Char → List Char
  | [] => []
  | '\\' :: c :: cs => c :: sample cs
  | c :: cs => standIn c :: sample cs

theorem sample_cons (alone : ∀ d ds, c = '\\' → cs ≠ d :: ds) :
    sample (c :: cs) = standIn c :: sample cs := by
  rw [sample]
  exact alone

theorem like_sample (cs : List Char) : Like (cs ++ ['%']) (sample cs) := by
  induction cs using sample.induct with
  | case1 => exact .percent
  | case2 c cs ih => exact .escaped rfl ih
  | case3 c cs alone ih =>
      rw [sample_cons alone, standIn]
      by_cases percent : c = '%'
      · subst percent
        exact .any [' '] ih
      by_cases underscore : c = '_'
      · subst underscore
        exact .one ' ' ih
      by_cases backslash : c = '\\'
      · cases cs with
        | nil =>
          subst backslash
          exact .escaped rfl .nil
        | cons d cs => exact absurd rfl (alone d cs backslash)
      · rw [if_neg (not_or_intro percent underscore), if_neg backslash]
        exact .plain percent underscore backslash rfl ih

theorem standIn_eq_or (c : Char) :
    standIn c = c ∧ (c ≠ '%' ∧ c ≠ '_' ∧ c ≠ '\\') ∨
      standIn c ≠ c ∧ IsLower (standIn c) ∧ IsLower c := by
  rw [standIn]
  by_cases percent : c = '%'
  · subst percent
    exact .inr ⟨by decide, rfl, rfl⟩
  by_cases underscore : c = '_'
  · subst underscore
    exact .inr ⟨by decide, rfl, rfl⟩
  by_cases backslash : c = '\\'
  · subst backslash
    exact .inr ⟨by decide, rfl, rfl⟩
  · rw [if_neg (not_or_intro percent underscore), if_neg backslash]
    exact .inl ⟨rfl, percent, underscore, backslash⟩

theorem length_letters_sample_le (cs : List Char) :
    (letters (sample cs)).length ≤ (letters cs).length := by
  induction cs using sample.induct with
  | case1 => exact Nat.le_refl 0
  | case2 c cs ih =>
      simp only [sample, letters_cons, List.length_append]
      omega
  | case3 c cs alone ih =>
      rw [sample_cons alone, letters_cons, letters_cons, List.length_append, List.length_append]
      obtain ⟨stays, -⟩ | ⟨-, lower, lower'⟩ := standIn_eq_or c
      · rw [stays]
        omega
      · rw [lower, lower']
        exact Nat.add_le_add_left ih 1

/-- Only for a plain text is that one written like the text itself. -/
theorem plain_of_lowerAfter_sample (same : lowerAfter before (sample cs) = lowerAfter before' cs) :
    Plain cs := by
  induction cs using sample.induct generalizing before before' with
  | case1 => exact fun _ mem => absurd mem List.not_mem_nil
  | case2 c cs ih =>
      have long := congrArg List.length same
      have short := length_letters_sample_le cs
      have filled := List.length_pos_iff.mpr (lowerChar_ne_nil '\\')
      simp only [sample, length_lowerAfter, letters_cons, List.length_append] at long
      omega
  | case3 c cs alone ih =>
      rw [sample_cons alone] at same
      obtain ⟨stays, plain⟩ | ⟨other, lower, lower'⟩ := standIn_eq_or c
      · rw [stays, lowerAfter, lowerAfter] at same
        refine plain_cons.mpr ⟨plain, ih (List.append_inj_right same ?_)⟩
        split <;> rfl
      · rw [lowerAfter, lowerAfter, if_neg lower.ne_sigma, if_neg lower'.ne_sigma, lower,
          lower'] at same
        exact absurd (List.cons.inj same).1 other

/-- A pattern made of a text finds what its lower case finds exactly if the text is plain and
steady. -/
theorem like_agrees_iff (cs : List Char) :
    (∀ text, lowerAfter [] cs <:+: lowerAfter [] text ↔ Like (searched cs) text) ↔
      Plain cs ∧ Steady cs := by
  constructor
  · intro agree
    have plain : Plain cs := by
      have inside := (agree (sample cs)).mpr (.any [] (like_sample cs))
      refine plain_of_lowerAfter_sample (inside.eq_of_length_le ?_).symm
      rw [length_lowerAfter, length_lowerAfter]
      exact length_letters_sample_le cs
    exact ⟨plain, steady_iff.mpr fun text => (agree text).trans (like_searched plain)⟩
  · rintro ⟨plain, steady⟩ text
    rw [like_searched plain]
    exact steady.found_iff

end TriggerFlow.Text
