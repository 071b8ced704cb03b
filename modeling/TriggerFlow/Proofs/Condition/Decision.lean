import Mathlib.Data.List.Forall2
import TriggerFlow.Proofs.Condition.Operands

/-!
When conditions are decided. A condition trips over digits on its path that name no index, over an
integer that no double is near to, and over an integer that is too long to write; all others have a
result, and conditions are decided exactly when none of them trips.
-/

namespace TriggerFlow

section Paths
namespace Path

variable {v : Value} {path : String} {parts : List (List Char)}

/-- Where the walk comes to a list, the path has digits that name no index. -/
def Breaks (v : Value) (parts : List (List Char)) : Prop :=
  ∃ before segment after xs, parts = before ++ segment :: after ∧
    walk v before = .ok (some (.arr xs)) ∧ Unreadable segment

theorem breaks_of_step {segment : List Char} {f : Failure} (h : step v segment = .error f) :
    ∃ xs, v = .arr xs ∧ Unreadable segment := by
  cases v with
  | arr xs =>
      refine ⟨xs, rfl, ?_⟩
      rw [step] at h
      split at h
      · next digits =>
        by_contra readable
        obtain ⟨n, found⟩ := exists_index digits readable
        rw [found] at h
        cases h
      · cases h
  | null | bool _ | int _ | float _ | str _ | time _ | obj _ => cases h

theorem breaks_of_walk {f : Failure} (h : walk v parts = .error f) : Breaks v parts := by
  induction parts generalizing v with
  | nil => cases h
  | cons segment parts ih =>
      rw [walk] at h
      cases taken : step v segment with
      | error g =>
          obtain ⟨xs, rfl, unreadable⟩ := breaks_of_step taken
          exact ⟨[], segment, parts, xs, rfl, rfl, unreadable⟩
      | ok next =>
          rw [taken] at h
          cases next with
          | none => cases h
          | some w =>
              obtain ⟨before, segment', after, xs, rfl, walked, unreadable⟩ := ih h
              refine ⟨segment :: before, segment', after, xs, rfl, ?_, unreadable⟩
              rw [walk, taken]
              exact walked

theorem walk_of_breaks (h : Breaks v parts) : ∃ f, walk v parts = .error f := by
  obtain ⟨before, segment, after, xs, rfl, walked, unreadable⟩ := h
  obtain ⟨f, failed⟩ := index_of_unreadable unreadable
  refine ⟨f, ?_⟩
  rw [walk_append, walked]
  show walk (.arr xs) (segment :: after) = _
  rw [walk, step, if_pos unreadable.1, failed]
  rfl

theorem exists_walk (h : ¬ Breaks v parts) : ∃ found, walk v parts = .ok found := by
  cases walked : walk v parts with
  | error f => exact absurd (breaks_of_walk walked) h
  | ok found => exact ⟨found, rfl⟩

end Path
end Paths

def Operator.isNumeric : Operator → Bool
  | .greaterThan | .lessThan => true
  | _ => false

namespace Condition

variable {c : Condition} {conditions : List Condition} {logic : Logic} {context expected v : Value}
  {actual : Option Value} {operator : Operator} {results : List Bool} {f : Failure} {n : Int}

/-- What a condition cannot be evaluated for. -/
inductive Trips (context : Value) (c : Condition) : Prop
  | path (breaks : Path.Breaks context (Path.segments c.field))
  | number {n : Int} (numeric : c.operator.isNumeric = true)
      (found : Path.lookup context c.field = .ok (some (.int n)))
      (past : (2 ^ 54 - 1) * 2 ^ 970 ≤ n.natAbs)
  | text {v : Value} (textual : c.operator.isNumeric = false)
      (found : Path.lookup context c.field = .ok (some v)) (long : v.HoldsLong)

/-- A numeric operator between sides of which one is no number. -/
def Incomparable (context : Value) (c : Condition) : Prop :=
  c.operator.isNumeric = true ∧ ¬ c.Trips context ∧
    ∃ found, Path.lookup context c.field = .ok found ∧
      (numberOf found = .ok none ∨ (Value.str c.value).number = .ok none)

section Comparing

theorem compare_eq_numeric (h : operator.isNumeric = true) :
    ∃ test, ∀ actual expected, compare actual operator expected = numeric test actual expected := by
  cases operator with
  | greaterThan => exact ⟨_, fun _ _ => rfl⟩
  | lessThan => exact ⟨_, fun _ _ => rfl⟩
  | equals | notEquals | contains | notContains | startsWith | endsWith => cases h

theorem compare_eq_textual (h : operator.isNumeric = false) :
    ∃ test, ∀ actual expected, compare actual operator expected = textual test actual expected := by
  cases operator with
  | equals | notEquals | contains | notContains | startsWith | endsWith =>
      exact ⟨_, fun _ _ => rfl⟩
  | greaterThan | lessThan => cases h

theorem exists_number_of_text (s : String) : ∃ r, (Value.str s).number = .ok r :=
  Value.exists_number nofun

end Comparing

theorem evaluate_of_trips (h : c.Trips context) : ∃ f, c.evaluate context = .error f := by
  cases h with
  | path breaks =>
      obtain ⟨f, failed⟩ := Path.walk_of_breaks breaks
      exact ⟨f, by rw [evaluate, Path.lookup, failed]; rfl⟩
  | number numeric found past =>
      obtain ⟨test, compared⟩ := compare_eq_numeric numeric
      refine ⟨.integerPastDoubles, ?_⟩
      rw [evaluate, found]
      show compare _ _ _ = _
      rw [compared, Condition.numeric, numberOf, Option.getD_some, Value.number_of_past past]
      rfl
  | text textual found long =>
      obtain ⟨test, compared⟩ := compare_eq_textual textual
      obtain ⟨f, failed⟩ := Value.text_of_holdsLong long
      refine ⟨f, ?_⟩
      rw [evaluate, found]
      show compare _ _ _ = _
      rw [compared, Condition.textual, foldedText, Option.getD_some, failed]
      rfl

theorem exists_numberOf (h : ¬ c.Trips context) (kind : c.operator.isNumeric = true)
    (looked : Path.lookup context c.field = .ok actual) : ∃ r, numberOf actual = .ok r := by
  refine Value.exists_number fun n same => Nat.lt_of_not_le fun past => ?_
  cases actual with
  | none => cases same
  | some v => exact h (.number kind (same ▸ looked) past)

theorem exists_evaluate (h : ¬ c.Trips context) : ∃ b, c.evaluate context = .ok b := by
  obtain ⟨found, looked⟩ : ∃ found, Path.lookup context c.field = .ok found :=
    Path.exists_walk fun breaks => h (.path breaks)
  rw [evaluate, looked]
  show ∃ b, compare _ _ _ = _
  cases kind : c.operator.isNumeric with
  | true =>
      obtain ⟨test, compared⟩ := compare_eq_numeric kind
      obtain ⟨left, read⟩ := exists_numberOf h kind looked
      obtain ⟨right, read'⟩ := exists_number_of_text c.value
      rw [compared, numeric, read, read']
      cases left <;> cases right <;> exact ⟨_, rfl⟩
  | false =>
      obtain ⟨test, compared⟩ := compare_eq_textual kind
      obtain ⟨left, written⟩ : ∃ s, (found.getD .null).text = .ok s := by
        refine Value.exists_text fun long => ?_
        cases found with
        | none => cases long
        | some v => exact h (.text kind looked long)
      rw [compared, textual, foldedText, written]
      exact ⟨_, rfl⟩

theorem evaluate_of_incomparable (h : c.Incomparable context) : c.evaluate context = .ok false := by
  obtain ⟨kind, sound, found, looked, lacking⟩ := h
  obtain ⟨test, compared⟩ := compare_eq_numeric kind
  obtain ⟨left, read⟩ := exists_numberOf sound kind looked
  obtain ⟨right, read'⟩ := exists_number_of_text c.value
  rw [read, read'] at lacking
  rw [evaluate, looked]
  show compare _ _ _ = _
  rw [compared, numeric, read, read']
  obtain ⟨⟨⟩⟩ | ⟨⟨⟩⟩ := lacking
  · rfl
  · cases left <;> rfl

/-- What is missing compares as the empty text does. -/
theorem evaluate_of_missing (h : Path.lookup context c.field = .ok none) :
    c.evaluate context = compare (some (.str "")) c.operator (.str c.value) := by
  rw [evaluate, h]
  show compare _ _ _ = _
  cases c.operator <;> rfl

theorem evaluateAll_of_forall₂
    (h : List.Forall₂ (fun c r => c.evaluate context = .ok r) conditions results) :
    evaluateAll conditions context = .ok results := by
  induction h with
  | nil => rfl
  | cons first _ ih =>
      rw [evaluateAll] at ih ⊢
      rw [List.mapM_cons, first, ih]
      rfl

theorem exists_results (h : ∀ c ∈ conditions, ¬ c.Trips context) :
    ∃ results, List.Forall₂ (fun c r => c.evaluate context = .ok r) conditions results := by
  induction conditions with
  | nil => exact ⟨[], .nil⟩
  | cons c conditions ih =>
      rw [List.forall_mem_cons] at h
      obtain ⟨b, first⟩ := exists_evaluate h.1
      obtain ⟨results, more⟩ := ih h.2
      exact ⟨b :: results, .cons first more⟩

theorem evaluateAll_of_trips (mem : c ∈ conditions) (h : c.Trips context) :
    ∃ f, evaluateAll conditions context = .error f := by
  obtain ⟨f, failed⟩ := evaluate_of_trips h
  induction conditions with
  | nil => cases mem
  | cons d conditions ih =>
      rw [evaluateAll, List.mapM_cons]
      cases first : d.evaluate context with
      | error g => exact ⟨g, rfl⟩
      | ok b =>
          obtain rfl | mem := List.mem_cons.mp mem
          · cases first.symm.trans failed
          · obtain ⟨g, failed'⟩ := ih mem
            rw [evaluateAll] at failed'
            exact ⟨g, by rw [failed']; rfl⟩

theorem hold_of_results
    (h : List.Forall₂ (fun c r => c.evaluate context = .ok r) conditions results) :
    hold conditions logic context = .ok (conditions.isEmpty || logic.join results) := by
  rw [hold]
  cases conditions with
  | nil => rfl
  | cons c conditions =>
      rw [evaluateAll_of_forall₂ h]
      rfl

theorem hold_of_trips (logic : Logic) (mem : c ∈ conditions) (h : c.Trips context) :
    ∃ f, hold conditions logic context = .error f := by
  obtain ⟨f, failed⟩ := evaluateAll_of_trips mem h
  refine ⟨f, ?_⟩
  rw [hold, List.isEmpty_eq_false_iff.mpr (List.ne_nil_of_mem mem), failed]
  rfl

/-- Conditions are decided, by the results of all of them, exactly when none trips. A numeric
operator is false where a side is no number, and a path that leads nowhere stands for the empty
text. -/
theorem hold_unless_trips (conditions : List Condition) (logic : Logic) (context : Value) :
    ((∃ b, hold conditions logic context = .ok b) ↔ ∀ c ∈ conditions, ¬ c.Trips context) ∧
    (∀ b, hold conditions logic context = .ok b → ∃ results,
      List.Forall₂ (fun c r => c.evaluate context = .ok r) conditions results ∧
        b = (conditions.isEmpty || logic.join results)) ∧
    (∀ c : Condition, c.Incomparable context → c.evaluate context = .ok false) ∧
    ∀ c : Condition, Path.lookup context c.field = .ok none →
      c.evaluate context = compare (some (.str "")) c.operator (.str c.value) := by
  have sound {b : Bool} (decided : hold conditions logic context = .ok b) :
      ∀ c ∈ conditions, ¬ c.Trips context := by
    intro c mem trips
    obtain ⟨f, failed⟩ := hold_of_trips logic mem trips
    cases failed.symm.trans decided
  refine ⟨⟨fun ⟨_, decided⟩ => sound decided, fun h => ?_⟩, fun b decided => ?_,
    fun _ => evaluate_of_incomparable, fun _ => evaluate_of_missing⟩
  · obtain ⟨results, evaluated⟩ := exists_results h
    exact ⟨_, hold_of_results evaluated⟩
  · obtain ⟨results, evaluated⟩ := exists_results (sound decided)
    cases (hold_of_results evaluated).symm.trans decided
    exact ⟨results, evaluated, rfl⟩

/-- There are conditions that are not decided: an integer of 401 digits is above and below nothing,
but comparing it fails. -/
theorem hold_not_total :
    ¬ ∀ conditions logic context, ∃ b, hold conditions logic context = .ok b := by
  intro total
  obtain ⟨b, decided⟩ :=
    total [⟨"c", "n", .greaterThan, "5"⟩] .and (.obj [("n", .int (10 ^ 400))])
  have trips : Trips (.obj [("n", .int (10 ^ 400))]) ⟨"c", "n", .greaterThan, "5"⟩ :=
    .number rfl rfl (by decide +kernel)
  obtain ⟨f, failed⟩ := hold_of_trips .and List.mem_cons_self trips
  cases failed.symm.trans decided

end Condition
end TriggerFlow
