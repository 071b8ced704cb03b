/-!
Values under keys, in the order in which the keys came.
-/

namespace TriggerFlow

abbrev Keyed (α : Type) := List (String × α)

namespace Keyed

variable {α : Type}

def get? (m : Keyed α) (key : String) : Option α := m.lookup key

/-- The value put where its key stands, or at the end. -/
def put (m : Keyed α) (key : String) (a : α) : Keyed α :=
  match m with
  | [] => [(key, a)]
  | (k, b) :: rest => if k = key then (k, a) :: rest else (k, b) :: put rest key a

def erase (m : Keyed α) (key : String) : Keyed α := m.filter fun e => e.1 != key

def values (m : Keyed α) : List α := m.map (·.2)

theorem get?_cons (k key : String) (a : α) (m : Keyed α) :
    get? ((k, a) :: m) key = if key = k then some a else get? m key := by
  by_cases h : key = k
  · subst h; simp only [get?, List.lookup_cons, beq_self_eq_true, if_true]
  · have hb : (key == k) = false := by simpa using h
    simp only [get?, List.lookup_cons, hb, h, if_false]

theorem get?_put (m : Keyed α) (k key : String) (a : α) :
    get? (m.put k a) key = if key = k then some a else get? m key := by
  induction m with
  | nil => simp [put, get?_cons]
  | cons e m ih =>
      obtain ⟨k', b⟩ := e
      by_cases h : k' = k
      · subst h
        simp only [put, if_pos, get?_cons]
        split <;> rfl
      · simp only [put, h, if_false, get?_cons, ih]
        by_cases hk : key = k'
        · subst hk; simp [h]
        · simp [hk]

theorem get?_erase (m : Keyed α) (k key : String) :
    get? (m.erase k) key = if key = k then none else get? m key := by
  induction m with
  | nil => simp [erase, get?]
  | cons e m ih =>
      obtain ⟨k', b⟩ := e
      simp only [erase] at ih
      by_cases h : k' = k
      · subst h
        simp only [erase, List.filter_cons, bne_self_eq_false, Bool.false_eq_true, if_false, ih,
          get?_cons]
        split <;> simp_all
      · have hb : (k' != k) = true := by simp [h]
        simp only [erase, List.filter_cons, hb, if_true, get?_cons, ih]
        by_cases hk : key = k'
        · subst hk; simp [h]
        · simp [hk]

end Keyed
end TriggerFlow
