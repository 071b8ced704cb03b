import TriggerFlow.Condition
import TriggerFlow.Proofs.Text.LowerCase

/-!
What the textual operators make of a literal match. Both sides are put in lower case on their own,
so a match is kept exactly if every capital sigma of what is expected ends a word where it is found
if, and only if, it does in the expected text alone; without a capital sigma every match is kept.
-/

namespace TriggerFlow.Condition

variable {before expected after : String}

/-- Each capital sigma of the text ends a word between the two others exactly if it does in the text
alone. -/
def KeepsSigmas (before text after : String) : Prop :=
  Text.SameFinals text.toList before.toList.reverse after.toList [] []

theorem keepsSigmas_of_not_mem (h : 'Σ' ∉ expected.toList) : KeepsSigmas before expected after :=
  fun _ _ split => absurd (split ▸ List.mem_append_cons_self) h

theorem keepsSigmas_iff :
    KeepsSigmas before expected after ↔
      Text.lowerBetween before.toList.reverse expected.toList after.toList =
        Text.lowerAfter [] expected.toList := by
  rw [Text.lowerAfter_eq, Text.lowerBetween_eq_iff]
  rfl

theorem textual_of_texts (test : String → String → Bool) (actual : String) :
    textual test (some (.str actual)) (.str expected) =
      .ok (test (Text.lower actual) (Text.lower expected)) := rfl

theorem startsWith_lower_iff :
    Text.startsWith (Text.lower (expected ++ after)) (Text.lower expected) = true ↔
      KeepsSigmas "" expected after := by
  rw [Text.startsWith, List.isPrefixOf_iff_prefix, Text.lower, Text.lower, String.toList_ofList,
    String.toList_ofList, String.toList_append, Text.lowerAfter_append, keepsSigmas_iff]
  -- a part is as long in lower case wherever it stands, so it is found where it was or differs
  have long : (Text.lowerAfter [] expected.toList).length =
      (Text.lowerBetween [] expected.toList after.toList).length := by
    rw [Text.lowerAfter_eq, Text.length_lowerBetween]
  constructor
  · rintro ⟨rest, split⟩
    exact (List.append_inj split long).1.symm
  · intro alike
    exact ⟨_, congrArg (· ++ _) alike.symm⟩

theorem endsWith_lower_iff :
    Text.endsWith (Text.lower (before ++ expected)) (Text.lower expected) = true ↔
      KeepsSigmas before expected "" := by
  rw [Text.endsWith, List.isSuffixOf_iff_suffix, Text.lower, Text.lower, String.toList_ofList,
    String.toList_ofList, String.toList_append, Text.lowerAfter_append, List.append_nil,
    Text.lowerAfter_eq before.toList.reverse, keepsSigmas_iff]
  have long : (Text.lowerAfter [] expected.toList).length =
      (Text.lowerBetween before.toList.reverse expected.toList []).length := by
    rw [Text.lowerAfter_eq, Text.length_lowerBetween]
  constructor
  · rintro ⟨rest, split⟩
    exact (List.append_inj_right' split long).symm
  · intro alike
    exact ⟨_, congrArg (_ ++ ·) alike.symm⟩

theorem contains_lower (h : KeepsSigmas before expected after) :
    Text.contains (Text.lower (before ++ expected ++ after)) (Text.lower expected) = true := by
  rw [Text.contains, Text.isInfix_iff, Text.lower, Text.lower, String.toList_ofList,
    String.toList_ofList, String.toList_append, String.toList_append, List.append_assoc,
    Text.lowerAfter_append, Text.lowerAfter_append, List.append_nil, keepsSigmas_iff.mp h]
  exact ⟨_, _, List.append_assoc _ _ _⟩

/-- A literal match is denied for a capital sigma only: one that ends a word in the expected text
and not where the text is found, or the other way round. -/
theorem literal_matches_kept (before expected after : String) :
    (compare (some (.str (expected ++ after))) .startsWith (.str expected) = .ok true ↔
      KeepsSigmas "" expected after) ∧
    (compare (some (.str (before ++ expected))) .endsWith (.str expected) = .ok true ↔
      KeepsSigmas before expected "") ∧
    (KeepsSigmas before expected after →
      compare (some (.str (before ++ expected ++ after))) .contains (.str expected) = .ok true ∧
      compare (some (.str (before ++ expected ++ after))) .notContains (.str expected) =
        .ok false) ∧
    ('Σ' ∉ expected.toList → KeepsSigmas before expected after) := by
  simp only [compare, textual_of_texts, Except.ok.injEq]
  refine ⟨startsWith_lower_iff, endsWith_lower_iff, fun keeps => ?_, keepsSigmas_of_not_mem⟩
  rw [contains_lower keeps]
  exact ⟨rfl, rfl⟩

theorem final_sigma_is_denied :
    "ΑΣΑ" = "" ++ "ΑΣ" ++ "Α" ∧
    compare (some (.str "ΑΣΑ")) .contains (.str "ΑΣ") = .ok false ∧
    compare (some (.str "ΑΣΑ")) .notContains (.str "ΑΣ") = .ok true ∧
    compare (some (.str "ΑΣΑ")) .startsWith (.str "ΑΣ") = .ok false ∧
    "ΑΣ" = "Α" ++ "Σ" ∧ compare (some (.str "ΑΣ")) .endsWith (.str "Σ") = .ok false := by
  simp only [compare, textual_of_texts, Except.ok.injEq]
  decide +kernel

end TriggerFlow.Condition
