/-!
Programs that make calls. A program is done, or makes one call and goes on with the reply; what a
call does is decided by whoever runs the program. Calls are the only points at which another
program can come in between.
-/

namespace TriggerFlow

/-- A program over calls `C`, where a call `c` is answered by a value of `R c`. -/
inductive Program (C : Type) (R : C → Type) (α : Type) where
  | done (a : α)
  | call (c : C) (next : R c → Program C R α)

namespace Program

variable {C : Type} {R : C → Type} {α β : Type}

def bind : Program C R α → (α → Program C R β) → Program C R β
  | done a, f => f a
  | call c next, f => call c fun r => (next r).bind f

instance : Monad (Program C R) where
  pure := done
  bind := bind

/-- The program that makes one call and ends with its reply. -/
def ask (c : C) : Program C R (R c) := call c done

/-- A run of the program with every call answered at once from a state. -/
def run {σ : Type} (answer : (c : C) → σ → R c × σ) : Program C R α → σ → α × σ
  | done a, s => (a, s)
  | call c next, s => run answer (next (answer c s).1) (answer c s).2

theorem bind_done (p : Program C R α) : p.bind done = p := by
  induction p with
  | done a => rfl
  | call c next ih => simp only [bind]; congr 1; funext r; exact ih r

theorem bind_assoc {γ : Type} (p : Program C R α) (f : α → Program C R β)
    (g : β → Program C R γ) : (p.bind f).bind g = p.bind fun a => (f a).bind g := by
  induction p with
  | done a => rfl
  | call c next ih => simp only [bind]; congr 1; funext r; exact ih r

theorem run_bind {σ : Type} (answer : (c : C) → σ → R c × σ) (p : Program C R α)
    (f : α → Program C R β) (s : σ) :
    (p.bind f).run answer s = (f (p.run answer s).1).run answer (p.run answer s).2 := by
  induction p generalizing s with
  | done a => rfl
  | call c next ih => exact ih _ _

end Program
end TriggerFlow
