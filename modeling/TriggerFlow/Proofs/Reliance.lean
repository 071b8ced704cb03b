import TriggerFlow.Proofs.Run.Calls
import TriggerFlow.Service

/-!
What a program does among others, as long as the replies it gets are of a kind: its calls are of a
kind too, so that programs which answer for one another can be looked at one by one.
-/

namespace TriggerFlow.Program

variable {C : Type} {R : C → Type} {α β : Type} {P : C → Prop} {Q : Exchange R → Prop}
  {mid post : α → Prop} {p : Program C R α}

/-- `p.Keeps P Q post`: while its replies are such as `Q` admits, `p` makes only calls that `P`
admits, and it ends with what `post` admits. -/
def Keeps (P : C → Prop) (Q : Exchange R → Prop) (post : α → Prop) : Program C R α → Prop
  | done a => post a
  | call c next => P c ∧ ∀ r, Q ⟨c, r⟩ → Keeps P Q post (next r)

theorem keeps_pure {a : α} (h : post a) : (pure a : Program C R α).Keeps P Q post := h

theorem keeps_ask {c : C} {post : R c → Prop} (admits : P c) (h : ∀ r, Q ⟨c, r⟩ → post r) :
    (ask c).Keeps P Q post :=
  ⟨admits, h⟩

theorem keeps_bind {f : α → Program C R β} {post : β → Prop} (h : p.Keeps P Q mid)
    (rest : ∀ a, mid a → (f a).Keeps P Q post) : (p >>= f).Keeps P Q post := by
  induction p with
  | done a => exact rest a h
  | call c next ih => exact ⟨h.1, fun r admits => ih r (h.2 r admits)⟩

theorem Keeps.imp (h : p.Keeps P Q mid) (imp : ∀ a, mid a → post a) : p.Keeps P Q post := by
  induction p with
  | done a => exact imp a h
  | call c next ih => exact ⟨h.1, fun r admits => ih r (h.2 r admits)⟩

theorem Keeps.of_mem {t : List (Exchange R)} {a : α} (h : p.Keeps P (fun _ => True) post)
    (ends : p.Ends t a) : ∀ x ∈ t, P x.1 := by
  induction ends with
  | done a => exact List.forall_mem_nil _
  | call c r _ ih => exact List.forall_mem_cons.mpr ⟨h.1, ih (h.2 r trivial)⟩

end TriggerFlow.Program

namespace TriggerFlow.Service

open Engine Program

variable {P : Call → Prop} {Q : Engine.Exchange → Prop}

/-- A guarded call ends with what the store gave, or with a failure. -/
theorem keeps_guarded {action : String} {workflow : Option String} {c : Store.Call}
    (admits : P (.store c)) :
    (guarded action workflow c).Keeps P Q fun r => ∀ a, r = .ok a → Q ⟨.store c, .ok a⟩ := by
  have asked : (store c).Keeps P Q fun r => Q ⟨.store c, r⟩ := keeps_ask admits fun _ gets => gets
  refine keeps_bind asked fun r gets => ?_
  match r with
  | .ok a =>
      refine keeps_pure fun b same => ?_
      cases same
      exact gets
  | .error f => cases f <;> exact keeps_pure fun _ same => by cases same

theorem keeps_getWorkflow {tenant id : String} (admits : P (.store (.getWorkflow id tenant))) :
    (getWorkflow tenant id).Keeps P Q
      fun r => ∀ w, r = .ok w → Q ⟨.store (.getWorkflow id tenant), .ok (some w)⟩ := by
  refine keeps_bind (keeps_guarded admits) fun r gets => ?_
  match r with
  | .error f => exact keeps_pure fun _ same => by cases same
  | .ok none => exact keeps_pure fun _ same => by cases same
  | .ok (some w) =>
      refine keeps_pure fun v same => ?_
      cases same
      exact gets _ rfl

end TriggerFlow.Service
