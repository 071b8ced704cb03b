import TriggerFlow.Proofs.Exchange

/-!
Programs in company. What answers the calls of a program may be changed by others between any two of
them; a statement about every exchange in company is one about every order in which the program and
the others come to act.
-/

namespace TriggerFlow.Program

variable {C : Type} {R : C → Type} {σ : Type}

/-- `Amid own others s t s'`: from the state `s` to the state `s'` a program had the exchange `t`,
whose replies came as `own` says, while others acted in between. -/
inductive Amid (own : σ → Exchange R → σ → Prop) (others : σ → σ → Prop) :
    σ → List (Exchange R) → σ → Prop
  | nil (s : σ) : Amid own others s [] s
  | other {s s' s'' : σ} {t : List (Exchange R)} (h : others s s')
      (rest : Amid own others s' t s'') : Amid own others s t s''
  | call {s s' s'' : σ} {x : Exchange R} {t : List (Exchange R)} (h : own s x s')
      (rest : Amid own others s' t s'') : Amid own others s (x :: t) s''

namespace Amid

variable {own : σ → Exchange R → σ → Prop} {others : σ → σ → Prop} {s s' s'' : σ}
  {t u : List (Exchange R)} {x : Exchange R}

theorem append (h : Amid own others s t s') (rest : Amid own others s' u s'') :
    Amid own others s (t ++ u) s'' := by
  induction h with
  | nil => exact rest
  | other h _ ih => exact .other h (ih rest)
  | call h _ ih => exact .call h (ih rest)

theorem of_append (h : Amid own others s (t ++ u) s'') :
    ∃ s', Amid own others s t s' ∧ Amid own others s' u s'' := by
  generalize hv : t ++ u = v at h
  induction h generalizing t with
  | nil s =>
      obtain ⟨rfl, rfl⟩ := List.append_eq_nil_iff.mp hv
      exact ⟨s, .nil s, .nil s⟩
  | other h _ ih =>
      obtain ⟨s', first, rest⟩ := ih hv
      exact ⟨s', .other h first, rest⟩
  | @call s _ _ _ _ h rest ih =>
      cases t with
      | nil =>
          rw [List.nil_append] at hv
          subst hv
          exact ⟨s, .nil s, .call h rest⟩
      | cons y t =>
          obtain ⟨rfl, hw⟩ := List.cons.inj hv
          obtain ⟨s', first, rest⟩ := ih hw
          exact ⟨s', .call h first, rest⟩

theorem preserves {P : σ → Prop} (h : Amid own others s t s') (start : P s)
    (other : ∀ {s s'}, others s s' → P s → P s')
    (call : ∀ {s x s'}, x ∈ t → own s x s' → P s → P s') : P s' := by
  induction h with
  | nil => exact start
  | other h _ ih => exact ih (other h start) call
  | call h _ ih => exact ih (call List.mem_cons_self h start) fun hx => call (.tail _ hx)

theorem of_cons (h : Amid own others s (x :: t) s'') :
    ∃ s₁ s₂, Amid own others s [] s₁ ∧ own s₁ x s₂ ∧ Amid own others s₂ t s'' := by
  generalize hv : x :: t = v at h
  induction h with
  | nil => cases hv
  | other h _ ih =>
      obtain ⟨s₁, s₂, first, call, rest⟩ := ih hv
      exact ⟨s₁, s₂, .other h first, call, rest⟩
  | @call s _ _ y v h rest _ =>
      obtain ⟨rfl, rfl⟩ := List.cons.inj hv
      exact ⟨s, _, .nil s, h, rest⟩

theorem of_still (h : Amid own others s t s') (still : ∀ x ∈ t, ∀ s s', own s x s' → s' = s) :
    Amid own others s [] s' := by
  induction h with
  | nil => exact .nil _
  | other acts _ ih => exact .other acts (ih still)
  | call answers _ ih =>
      rw [List.forall_mem_cons] at still
      obtain rfl := still.1 _ _ answers
      exact ih still.2

end Amid

/-- A run whose calls are answered at once from a state is one in which the others do nothing. -/
theorem amid_exchange {α : Type} {answer : (c : C) → σ → R c × σ} {own : σ → Exchange R → σ → Prop}
    {others : σ → σ → Prop} (fair : ∀ c s, own s ⟨c, (answer c s).1⟩ (answer c s).2)
    (p : Program C R α) (s : σ) : Amid own others s (p.exchange answer s) (p.run answer s).2 := by
  induction p generalizing s with
  | done a => exact .nil s
  | call c next ih => exact .call (fair c s) (ih _ _)

end TriggerFlow.Program
