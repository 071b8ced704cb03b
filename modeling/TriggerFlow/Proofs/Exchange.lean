import TriggerFlow.Program

/-!
What a program and its surroundings exchange: the calls of a run with the replies they got, in
order. Nothing is assumed of the replies, so that a statement about all exchanges is one about all
surroundings, whatever state they keep.
-/

namespace TriggerFlow

/-- The last element of a list that is split in two is where it is split, or at the end of the
second part. -/
theorem split_concat {α : Type} {t before after : List α} {x y : α}
    (h : t ++ [x] = before ++ y :: after) :
    (x = y ∧ after = [] ∧ t = before) ∨
      ∃ earlier, after = earlier ++ [x] ∧ t = before ++ y :: earlier := by
  obtain rfl | ⟨earlier, z, rfl⟩ := List.eq_nil_or_concat after
  · obtain ⟨rfl, same⟩ := List.append_inj' h rfl
    exact .inl ⟨(List.cons.inj same).1, rfl, rfl⟩
  · rw [List.concat_eq_append, ← List.cons_append, ← List.append_assoc] at h
    obtain ⟨rfl, same⟩ := List.append_inj' h rfl
    cases same
    exact .inr ⟨earlier, List.concat_eq_append .., rfl⟩

namespace Program

variable {C D : Type} {R : C → Type} {S : D → Type} {α β σ : Type}

/-- A call with the reply it got. -/
abbrev Exchange (R : C → Type) := (c : C) × R c

/-- `p.Ends t a`: with its calls answered as in `t`, the program `p` ends with `a`. -/
inductive Ends : Program C R α → List (Exchange R) → α → Prop
  | done (a : α) : Ends (.done a) [] a
  | call (c : C) (r : R c) {next : R c → Program C R α} {t : List (Exchange R)} {a : α}
      (h : Ends (next r) t a) : Ends (.call c next) (⟨c, r⟩ :: t) a

@[simp] theorem ends_done {a b : α} {t : List (Exchange R)} :
    Ends (.done a : Program C R α) t b ↔ t = [] ∧ b = a := by
  constructor
  · intro h
    cases h
    exact ⟨rfl, rfl⟩
  · rintro ⟨rfl, rfl⟩
    exact .done _

@[simp] theorem ends_pure {a b : α} {t : List (Exchange R)} :
    Ends (pure a : Program C R α) t b ↔ t = [] ∧ b = a := ends_done

theorem ends_call {c : C} {next : R c → Program C R α} {t : List (Exchange R)} {a : α} :
    Ends (.call c next) t a ↔ ∃ r u, Ends (next r) u a ∧ t = ⟨c, r⟩ :: u := by
  constructor
  · intro h
    cases h with
    | call _ r h => exact ⟨r, _, h, rfl⟩
  · rintro ⟨r, u, h, rfl⟩
    exact .call c r h

@[simp] theorem ends_ask {c : C} {t : List (Exchange R)} {r : R c} :
    Ends (ask c) t r ↔ t = [⟨c, r⟩] := by
  rw [ask, ends_call]
  constructor
  · rintro ⟨s, u, h, rfl⟩
    obtain ⟨rfl, rfl⟩ := ends_done.mp h
    rfl
  · rintro rfl
    exact ⟨r, [], .done r, rfl⟩

theorem ends_bind {p : Program C R α} {f : α → Program C R β} {t : List (Exchange R)} {b : β} :
    Ends (p.bind f) t b ↔ ∃ a t₁ t₂, Ends p t₁ a ∧ Ends (f a) t₂ b ∧ t = t₁ ++ t₂ := by
  constructor
  · intro h
    induction p generalizing t with
    | done a => exact ⟨a, [], t, .done a, h, rfl⟩
    | call c next ih =>
        obtain ⟨r, u, hn, rfl⟩ := ends_call.mp h
        obtain ⟨a, t₁, t₂, h₁, h₂, rfl⟩ := ih r hn
        exact ⟨a, ⟨c, r⟩ :: t₁, t₂, .call c r h₁, h₂, rfl⟩
  · rintro ⟨a, t₁, t₂, h₁, h₂, rfl⟩
    induction h₁ with
    | done a => exact h₂
    | call c r _ ih => exact .call c r (ih h₂)

theorem ends_andThen {p : Program C R α} {f : α → Program C R β} {t : List (Exchange R)} {b : β} :
    Ends (p >>= f) t b ↔ ∃ a t₁ t₂, Ends p t₁ a ∧ Ends (f a) t₂ b ∧ t = t₁ ++ t₂ := ends_bind

theorem ends_ask_andThen {c : C} {f : R c → Program C R β} {t : List (Exchange R)} {b : β} :
    Ends (ask c >>= f) t b ↔ ∃ r u, Ends (f r) u b ∧ t = ⟨c, r⟩ :: u := ends_call

/-- The exchange of a run with every call answered at once from a state. -/
def exchange (answer : (c : C) → σ → R c × σ) : Program C R α → σ → List (Exchange R)
  | done _, _ => []
  | call c next, s =>
    ⟨c, (answer c s).1⟩ :: exchange answer (next (answer c s).1) (answer c s).2

/-- Whatever answers the calls, the program comes to its end. -/
theorem ends_run (answer : (c : C) → σ → R c × σ) (p : Program C R α) (s : σ) :
    p.Ends (p.exchange answer s) (p.run answer s).1 := by
  induction p generalizing s with
  | done a => exact .done a
  | call c next ih => exact .call c _ (ih _ _)

theorem mem_exchange {answer : (c : C) → σ → R c × σ} {p : Program C R α} {s : σ} {x : Exchange R}
    (h : x ∈ p.exchange answer s) : ∃ s', x.2 = (answer x.1 s').1 := by
  induction p generalizing s with
  | done a => cases h
  | call c next ih =>
      obtain rfl | h := List.mem_cons.mp h
      · exact ⟨s, rfl⟩
      · exact ih _ h

end Program
end TriggerFlow
