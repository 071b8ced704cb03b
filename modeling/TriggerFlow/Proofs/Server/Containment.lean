import TriggerFlow.Proofs.Run.Cancellation
import TriggerFlow.Proofs.Run.Closing
import TriggerFlow.Proofs.Run.Containment
import TriggerFlow.Proofs.Server.Exchanges

/-!
The failure of a store stays where it happens. An operation, or a run in the background, that the
store refuses a call makes no further call of it or of the dispatcher and ends with a persistence
error; nothing is saved that blames a node for it, and a run that was registered leaves the
registry.
-/

namespace TriggerFlow.Server

open Engine Program Service

variable {α β : Type} {tenant id : String} {t t₁ t₂ a b : List Exchange} {f : Failure}
  {c : Store.Call} {l : Execution} {k : Ticket} {request : RunRequest}

section Modest

/-- What has nothing to do with a run. -/
def Aside : Exchange → Prop
  | ⟨.register _, _⟩ | ⟨.attach _, _⟩ | ⟨.invoke _ _ _, _⟩ | ⟨.store (.saveExecution _), _⟩ => False
  | _ => True

/-- A program that runs nothing and quits where the store refuses a call. -/
def Modest (prog : Work (Except Failure α)) : Prop :=
  ∀ t r, prog.Ends t r → Quits t r ∧ ∀ x ∈ t, Aside x

theorem modest_pure (r : Except Failure α) : Modest (pure r) := by
  intro t r' h
  obtain ⟨rfl, rfl⟩ := ends_pure.mp h
  exact ⟨quits_of_stored (stored_iff.mpr rfl) _, List.forall_mem_nil _⟩

theorem modest_guarded {action : String} {workflow : Option String} {c : Store.Call}
    (aside : ∀ reply, Aside ⟨.store c, reply⟩) : Modest (guarded action workflow c) := by
  intro t r h
  obtain ⟨(reply : Store.Reply c), _, rest, rfl⟩ := ends_ask_andThen.mp h
  have one : ∀ x ∈ [(⟨.store c, reply⟩ : Exchange)], Aside x :=
    List.forall_mem_singleton.mpr (aside reply)
  have before : Stored [] := stored_iff.mpr rfl
  have quits {f g : Failure} (given : f.IsForeign → g.IsPersistence) :
      Quits [⟨.store c, .error f⟩] (.error g : Store.Reply c) :=
    quits_of_refused before (List.forall_mem_nil _) given
  cases reply with
  | ok a =>
      obtain ⟨rfl, rfl⟩ := ends_pure.mp rest
      exact ⟨quits_of_stored (stored_iff.mpr rfl) _, one⟩
  | error f =>
      cases f with
      | engine | noAnswer =>
          obtain ⟨rfl, rfl⟩ := ends_pure.mp rest
          exact ⟨quits fun foreign => foreign.elim, one⟩
      | _ =>
          obtain ⟨rfl, rfl⟩ := ends_pure.mp rest
          exact ⟨quits fun _ => rfl, one⟩

theorem modest_bind {prog : Work (Except Failure α)}
    {next : Except Failure α → Work (Except Failure β)}
    (h : Modest prog) (rest : ∀ a, Modest (next (.ok a)))
    (passed : ∀ g, ∃ g', next (.error g) = pure (.error g') ∧
      (g.IsPersistence → g'.IsPersistence)) :
    Modest (prog >>= next) := by
  intro t r ends
  obtain ⟨r₁, t₁, t₂, first, onward, rfl⟩ := ends_andThen.mp ends
  obtain ⟨quits, aside⟩ := h t₁ r₁ first
  rw [List.forall_mem_append]
  cases r₁ with
  | ok a =>
      obtain ⟨quits', aside'⟩ := rest a t₂ r onward
      exact ⟨quits.append quits', aside, aside'⟩
  | error g =>
      obtain ⟨g', same, persists⟩ := passed g
      rw [same] at onward
      obtain ⟨rfl, rfl⟩ := ends_pure.mp onward
      rw [List.append_nil]
      exact ⟨quits.passed persists, aside, List.forall_mem_nil _⟩

theorem modest_ask {c : Call} {next : Reply c → Work (Except Failure β)}
    (aside : ∀ reply, Aside ⟨c, reply⟩) (granted : ∀ reply, refusal? ⟨c, reply⟩ = none)
    (rest : ∀ reply, Modest (next reply)) : Modest (Program.ask c >>= next) := by
  intro t r ends
  obtain ⟨reply, t, onward, rfl⟩ := ends_ask_andThen.mp ends
  obtain ⟨quits, aside'⟩ := rest reply t r onward
  have stored : Stored [⟨c, reply⟩] := by
    rw [stored_iff, List.filterMap_cons, granted]
    rfl
  rw [List.forall_mem_cons]
  exact ⟨quits.prepend stored, aside reply, aside'⟩

theorem passed_on {next : Except Failure α → Work (Except Failure β)}
    (same : ∀ g, next (.error g) = pure (.error g)) (g : Failure) :
    ∃ g', next (.error g) = pure (.error g') ∧ (g.IsPersistence → g'.IsPersistence) :=
  ⟨g, same g, id⟩

theorem modest_getWorkflow (tenant id : String) : Modest (getWorkflow tenant id) := by
  refine modest_bind (modest_guarded fun _ => trivial) (fun found => ?_) (passed_on fun _ => rfl)
  cases found <;> exact modest_pure _

theorem modest_createWorkflow (tenant : String) (d : Draft) (creator : Option String) :
    Modest (createWorkflow tenant d creator) := by
  unfold createWorkflow
  dsimp only
  split
  · exact modest_pure _
  · refine modest_bind (modest_guarded fun _ => trivial) (fun w => modest_pure _) fun g => ?_
    cases g with
    | noAnswer => exact ⟨_, rfl, fun persists => persists.elim⟩
    | _ => exact ⟨_, rfl, fun persists => persists⟩

theorem modest_updateWorkflow (tenant id : String) (c : Changes) :
    Modest (updateWorkflow tenant id c) := by
  refine modest_bind (modest_getWorkflow tenant id) (fun w => ?_) (passed_on fun _ => rfl)
  dsimp only
  split
  · exact modest_pure _
  · exact modest_guarded fun _ => trivial

theorem modest_toggleStatus (tenant id : String) : Modest (toggleStatus tenant id) := by
  refine modest_bind (modest_getWorkflow tenant id) (fun w => ?_) (passed_on fun _ => rfl)
  dsimp only
  split
  · exact modest_pure _
  · exact modest_guarded fun _ => trivial

theorem modest_deleteWorkflow (tenant id : String) : Modest (deleteWorkflow tenant id) := by
  refine modest_bind (modest_guarded fun _ => trivial) (fun deleted => ?_) fun g => ?_
  · cases deleted <;> exact modest_pure _
  · cases g with
    | noAnswer => exact ⟨_, rfl, fun persists => persists.elim⟩
    | _ => exact ⟨_, rfl, fun persists => persists⟩

theorem modest_duplicateWorkflow (tenant id : String) (creator : Option String) :
    Modest (duplicateWorkflow tenant id creator) := by
  refine modest_bind (modest_getWorkflow tenant id) (fun w => ?_) (passed_on fun _ => rfl)
  exact modest_ask (fun _ => trivial) (fun _ => rfl) fun _ => modest_guarded fun _ => trivial

theorem modest_importWorkflow (tenant : String) (p : Portable) (creator : Option String) :
    Modest (importWorkflow tenant p creator) := by
  unfold importWorkflow
  split
  · exact modest_pure _
  · exact modest_createWorkflow _ _ _

theorem modest_listExecutions (s : Settings) (tenant workflow : String) (limit : Option Int) :
    Modest (listExecutions s tenant workflow limit) :=
  modest_bind (modest_getWorkflow tenant workflow) (fun _ => modest_guarded fun _ => trivial)
    (passed_on fun _ => rfl)

theorem modest_getExecution (tenant id : String) : Modest (getExecution tenant id) := by
  refine modest_bind (modest_guarded fun _ => trivial) (fun found => ?_) (passed_on fun _ => rfl)
  cases found <;> exact modest_pure _

theorem modest_cancelExecution (tenant id : String) : Modest (cancelExecution tenant id) := by
  refine modest_bind (modest_getExecution tenant id) (fun e => ?_) (passed_on fun _ => rfl)
  dsimp only
  split
  · exact modest_pure _
  refine modest_ask (fun _ => trivial) (fun _ => rfl) fun (asked : Bool) => ?_
  cases asked with
  | true =>
      refine modest_ask (fun _ => trivial) (fun _ => rfl) fun _ => ?_
      refine modest_bind (modest_getExecution tenant id) (fun d => ?_) (passed_on fun _ => rfl)
      dsimp only
      split <;> exact modest_pure _
  | false =>
      refine modest_ask (fun _ => trivial) (fun _ => rfl) fun finish => ?_
      refine modest_bind (modest_guarded fun _ => trivial) (fun found => ?_)
        (passed_on fun _ => rfl)
      cases found <;> exact modest_pure _

end Modest

section Executing

/-- How an execution can go: up to a missing workflow or one that cannot be run, up to a run that is
left to the background, or through its run. -/
inductive Executing (tenant id : String) (request : RunRequest) :
    List Exchange → Except Failure Execution → Prop
  | missing {t : List Exchange} {g : Failure} (looked : (getWorkflow tenant id).Ends t (.error g)) :
      Executing tenant id request t (.error g)
  | refused {w : Workflow} {t₁ t₂ : List Exchange} {g : Failure}
      (looked : (getWorkflow tenant id).Ends t₁ (.ok w))
      (prepared : (prepare w request.triggerData).Ends t₂ (.error g)) :
      Executing tenant id request (t₁ ++ t₂) (.error g)
  | handed {w : Workflow} {e : Execution} {t₁ t₂ : List Exchange}
      (looked : (getWorkflow tenant id).Ends t₁ (.ok w))
      (prepared : (prepare w request.triggerData).Ends t₂ (.ok e)) :
      Executing tenant id request (t₁ ++ (t₂ ++ [⟨.startInBackground w e, ()⟩])) (.ok e)
  | ran {w : Workflow} {e : Execution} {t₁ t₂ t₃ : List Exchange} {r : Except Failure Execution}
      (looked : (getWorkflow tenant id).Ends t₁ (.ok w))
      (prepared : (prepare w request.triggerData).Ends t₂ (.ok e))
      (ran : (Engine.run w alone e).Ends t₃ r) : Executing tenant id request (t₁ ++ (t₂ ++ t₃)) r

theorem executing_of_ends {r : Except Failure Execution}
    (h : (Service.execute tenant id request).Ends t r) : Executing tenant id request t r := by
  obtain ⟨found, t₁, t₂, looked, h₁, rfl⟩ := ends_andThen.mp h
  cases found with
  | error g =>
      obtain ⟨rfl, rfl⟩ := ends_pure.mp h₁
      rw [List.append_nil]
      exact .missing looked
  | ok w =>
      dsimp only at h₁
      split at h₁
      · obtain ⟨prepared, t₂, t₃, prepares, h₂, rfl⟩ := ends_andThen.mp h₁
        cases prepared with
        | error g =>
            obtain ⟨rfl, rfl⟩ := ends_pure.mp h₂
            rw [List.append_nil]
            exact .refused looked prepares
        | ok e =>
            obtain ⟨_, _, h₃, rfl⟩ := ends_ask_andThen.mp h₂
            obtain ⟨rfl, rfl⟩ := ends_pure.mp h₃
            exact .handed looked prepares
      · obtain ⟨prepared, t₂, t₃, prepares, h₂, rfl⟩ := ends_andThen.mp h₁
        cases prepared with
        | error g =>
            obtain ⟨rfl, rfl⟩ := ends_pure.mp h₂
            rw [List.append_nil]
            exact .refused looked prepares
        | ok e => exact .ran looked prepares h₂

theorem Executing.quits {r : Except Failure Execution} (h : Executing tenant id request t r) :
    Quits t r := by
  have found {t : List Exchange} {r : Except Failure Workflow}
      (looked : (getWorkflow tenant id).Ends t r) : Quits t r :=
    (modest_getWorkflow tenant id t r looked).1
  cases h with
  | missing looked => exact (found looked).passed fun persists => persists
  | refused looked prepared => exact (found looked).append (prepares_of_ends prepared).quits
  | handed looked prepared =>
      refine (found looked).append ((prepares_of_ends prepared).quits.append ?_)
      exact quits_of_stored (stored_iff.mpr rfl) _
  | ran looked prepared ran =>
      refine (found looked).append ((prepares_of_ends prepared).quits.append ?_)
      exact quits_of_run (prepared_of_ends prepared) ran

theorem savings_of_aside (aside : ∀ x ∈ t, Aside x) : savings t = [] := by
  rw [savings, List.filterMap_eq_nil_iff]
  rintro ⟨c, reply⟩ hx
  cases c with
  | store c =>
      cases c with
      | saveExecution => exact (aside _ hx).elim
      | _ => rfl
  | _ => rfl

theorem Executing.blameless {r : Except Failure Execution} (h : Executing tenant id request t r) :
    ∀ l ∈ savings t, Blameless t l := by
  have unsaved {t : List Exchange} {r : Except Failure Workflow}
      (looked : (getWorkflow tenant id).Ends t r) : savings t = [] :=
    savings_of_aside (modest_getWorkflow tenant id t r looked).2
  cases h with
  | missing looked =>
      rw [unsaved looked]
      exact List.forall_mem_nil _
  | refused looked prepared =>
      rw [savings_append, unsaved looked]
      exact fun l hl =>
        (blameless_of_prepare (prepares_of_ends prepared) l hl).mono (List.subset_append_right _ _)
  | handed looked prepared =>
      rw [savings_append, savings_append, unsaved looked, List.nil_append, List.forall_mem_append]
      refine ⟨fun l hl => ?_, List.forall_mem_nil _⟩
      exact (blameless_of_prepare (prepares_of_ends prepared) l hl).mono fun x hx =>
        List.mem_append_right _ (List.mem_append_left _ hx)
  | ran looked prepared ran =>
      rw [savings_append, savings_append, unsaved looked, List.nil_append, List.forall_mem_append]
      constructor
      · exact fun l hl => (blameless_of_prepare (prepares_of_ends prepared) l hl).mono fun x hx =>
          List.mem_append_right _ (List.mem_append_left _ hx)
      · exact fun l hl => (blameless_of_run (prepared_of_ends prepared) ran l hl).mono fun x hx =>
          List.mem_append_right _ (List.mem_append_right _ hx)

theorem not_registered {w : Workflow} {data : Value} {g : Failure} {execution : String}
    (h : Prepares w data t (.error g)) : (⟨.register execution, k⟩ : Exchange) ∉ t := by
  have looks : ∀ x ∈ t, Runs.IsLook x := by
    cases h <;> simp [Runs.IsLook, saving]
  exact fun hx => looks _ hx

theorem eq_of_registered {w : Workflow} {e : Execution} {execution : String}
    {r : Except Failure Execution} {p : List Exchange} {told : Exchange} {j : Ticket}
    (registers : Registers e p told) (ran : (Engine.run w alone e).Ends t r)
    (registered : (⟨.register execution, k⟩ : Exchange) ∈ p ++ [⟨.register e.id, j⟩, told] ++ t) :
    execution = e.id ∧ k = j := by
  simp only [List.mem_append, List.mem_cons, List.not_mem_nil, or_false] at registered
  obtain (early | same | rfl) | late := registered
  · exact (registers.looks _ early).elim
  · cases same
    exact ⟨rfl, rfl⟩
  · exact registers.stays.elim
  · cases undertakes_of_run ran _ late with
    | work working => cases working

theorem Executing.over {g : Failure} {s s' : Runs} {execution : String}
    (h : Executing tenant id request t (.error g))
    (registered : (⟨.register execution, k⟩ : Exchange) ∈ t)
    (shared : Runs.Shared execution s t s') :
    s'.ticket? execution = none ∧ s'.isFinished k = true := by
  have unregistered {t : List Exchange} {r : Except Failure Workflow}
      (looked : (getWorkflow tenant id).Ends t r) :
      (⟨.register execution, k⟩ : Exchange) ∉ t := fun hx =>
    (modest_getWorkflow tenant id t r looked).2 _ hx
  cases h with
  | missing looked => exact absurd registered (unregistered looked)
  | refused looked prepared =>
      obtain early | late := List.mem_append.mp registered
      · exact absurd early (unregistered looked)
      · exact absurd late (not_registered (prepares_of_ends prepared))
  | @ran w e t₁ t₂ t₃ _ looked prepared ran =>
      obtain ⟨p, j, told, registers, rfl⟩ := (prepares_of_ends prepared).registers
      have late := (List.mem_append.mp registered).resolve_left (unregistered looked)
      obtain ⟨rfl, rfl⟩ := eq_of_registered registers ran late
      rw [← List.append_assoc] at shared
      obtain ⟨s₁, before, rest⟩ := Amid.of_append shared
      rw [← List.append_assoc] at before
      have holds : s₁.Holds e.id k :=
        Runs.Shared.registered before (List.forall_mem_singleton.mpr registers.stays)
      rw [← List.append_nil t₃] at rest
      exact over_of_run ran rest holds (List.forall_mem_nil _)

end Executing

/-- The run is in the registry under this ticket at some time: the operation registers it, or it was
registered before it was left to the background. -/
def Job.Registers (j : Job) (t : List Exchange) (execution : String) (k : Ticket) (s : Runs) :
    Prop :=
  match j with
  | .operation _ => (⟨.register execution, k⟩ : Exchange) ∈ t
  | .run _ e => execution = e.id ∧ s.Holds execution k

theorem execute_or_modest (o : Operation) :
    (∃ tenant id request, o = .execute tenant id request) ∨ Modest o.work := by
  cases o with
  | createWorkflow tenant d creator => exact .inr (modest_createWorkflow tenant d creator)
  | getWorkflow tenant id => exact .inr (modest_getWorkflow tenant id)
  | listWorkflows => exact .inr (modest_guarded (by exact fun _ => trivial))
  | updateWorkflow tenant id c => exact .inr (modest_updateWorkflow tenant id c)
  | deleteWorkflow tenant id => exact .inr (modest_deleteWorkflow tenant id)
  | toggleStatus tenant id => exact .inr (modest_toggleStatus tenant id)
  | duplicateWorkflow tenant id creator => exact .inr (modest_duplicateWorkflow tenant id creator)
  | exportWorkflow tenant id =>
      exact .inr (modest_bind (modest_getWorkflow tenant id) (fun _ => modest_pure _)
        (passed_on fun _ => rfl))
  | importWorkflow tenant p creator => exact .inr (modest_importWorkflow tenant p creator)
  | execute tenant id request => exact .inl ⟨tenant, id, request, rfl⟩
  | listExecutions s tenant workflow limit =>
      exact .inr (modest_listExecutions s tenant workflow limit)
  | getExecution tenant id => exact .inr (modest_getExecution tenant id)
  | cancelExecution tenant id => exact .inr (modest_cancelExecution tenant id)
  | close =>
      exact .inr (modest_ask (by exact fun _ => trivial) (by exact fun _ => rfl)
        fun _ => modest_pure _)

theorem quits_of_work {j : Job} {r : Except Failure j.Given} (fit : j.Fit)
    (h : j.work.Ends t r) : Quits t r := by
  cases j with
  | run w e =>
      obtain ⟨t, ran, rfl⟩ := ends_background h
      exact (quits_of_run fit.toPrepared ran).extend (List.forall_mem_singleton.mpr trivial)
  | operation o =>
      obtain ⟨tenant, id, request, rfl⟩ | modest := execute_or_modest o
      · exact (executing_of_ends h).quits
      · exact (modest t r h).1

theorem blameless_of_work {j : Job} {r : Except Failure j.Given} (fit : j.Fit)
    (h : j.work.Ends t r) : ∀ l ∈ savings t, Blameless t l := by
  cases j with
  | run w e =>
      obtain ⟨t, ran, rfl⟩ := ends_background h
      rw [savings_append, List.forall_mem_append]
      refine ⟨fun l hl => ?_, List.forall_mem_nil _⟩
      exact (blameless_of_run fit.toPrepared ran l hl).mono (List.subset_append_left _ _)
  | operation o =>
      obtain ⟨tenant, id, request, rfl⟩ | modest := execute_or_modest o
      · exact (executing_of_ends h).blameless
      · rw [savings_of_aside (modest t r h).2]
        exact List.forall_mem_nil _

theorem over_of_work {j : Job} {g : Failure} {execution : String} {s s' : Runs}
    (h : j.work.Ends t (.error g)) (registers : j.Registers t execution k s)
    (shared : Runs.Shared execution s t s') :
    s'.ticket? execution = none ∧ s'.isFinished k = true := by
  cases j with
  | run w e =>
      obtain ⟨rfl, holds⟩ := registers
      obtain ⟨t, ran, rfl⟩ := ends_background h
      exact over_of_run ran shared holds (List.forall_mem_singleton.mpr trivial)
  | operation o =>
      obtain ⟨tenant, id, request, rfl⟩ | modest := execute_or_modest o
      · exact (executing_of_ends h).over registers shared
      · exact ((modest t _ h).2 _ registers).elim

/-- What the failure `f` of the store at the call `c` does to a job that came to make that call
after `a`: what follows is `b`, and the job gives `r`. -/
structure Contained (j : Job) (a : List Exchange) (c : Store.Call) (f : Failure)
    (b : List Exchange) (r : Except Failure j.Given) : Prop where
  inert : ∀ x ∈ b, Inert x
  raised : ∃ err, r = .error (.engine err) ∧ err.kind = .persistence
  /-- A background task does not raise it. -/
  logged : ∀ w e, j = .run w e →
    (Service.runInBackground w e).Ends (a ++ ⟨.store c, .error f⟩ :: b) ()
  /-- With others at work on a store that only its own calls change, and none that fails, the store
  is where the calls before and the others have brought it. -/
  unchanged : ∀ {σ : Type} {own : σ → Exchange → σ → Prop} {others : σ → σ → Prop} {s s' : σ},
    (∀ x s s', Silent x → own s x s' → s' = s) →
    (∀ s s', own s ⟨.store c, .error f⟩ s' → s' = s) →
    Amid own others s (a ++ ⟨.store c, .error f⟩ :: b) s' → Amid own others s a s'
  blameless : ∀ l ∈ savings (a ++ ⟨.store c, .error f⟩ :: b), Blameless a l
  released : ∀ execution k s s',
    j.Registers (a ++ ⟨.store c, .error f⟩ :: b) execution k s →
    Runs.Shared execution s (a ++ ⟨.store c, .error f⟩ :: b) s' →
    s'.ticket? execution = none ∧ s'.isFinished k = true

theorem silent_of_inert {x : Exchange} (h : Inert x) : Silent x := by
  obtain ⟨c, reply⟩ := x
  cases c with
  | store => exact h
  | _ => trivial

/-- Store failures are contained: whatever job comes to make a call that the store refuses with a
failure of its own, and wherever it has come by then, the failure stays where it is. -/
theorem store_failures_are_contained {j : Job} {r : Except Failure j.Given} (fit : j.Fit)
    (foreign : f.IsForeign) (h : j.work.Ends (a ++ ⟨.store c, .error f⟩ :: b) r) :
    Contained j a c f b r := by
  obtain ⟨inert, g, rfl, given⟩ := quits_of_work fit h a c f b rfl
  refine ⟨inert, ?_, ?_, ?_, ?_, ?_⟩
  · cases g with
    | engine err => exact ⟨err, rfl, given foreign⟩
    | _ => exact (given foreign).elim
  · rintro w e rfl
    rw [← Job.work_run]
    exact ends_bind.mpr ⟨_, _, [], h, .done (), (List.append_nil _).symm⟩
  · intro σ own others s s' silent refused amid
    obtain ⟨s₁, before, rest⟩ := Amid.of_append amid
    have still : ∀ x ∈ (⟨.store c, .error f⟩ : Exchange) :: b, ∀ s s', own s x s' → s' = s := by
      rw [List.forall_mem_cons]
      exact ⟨refused, fun x hx s s' => silent x s s' (silent_of_inert (inert x hx))⟩
    have after := Amid.append before (rest.of_still still)
    rw [List.append_nil] at after
    exact after
  · exact fun l hl => (blameless_of_work fit h l hl).before inert rfl
  · exact fun execution k s s' => over_of_work h

def diskFull : Failure := .external "OSError" "disk full"

/-- Calm surroundings whose store knows the sample, and saves no record that has come further than
its start. -/
def filling : (c : Call) → Unit → Reply c × Unit
  | .store (.getWorkflow _ _), _ => (.ok (some sample), ())
  | .store (.saveExecution e), _ => (if e.steps.isEmpty then .ok () else .error diskFull, ())
  | c, s => calm c s

/-- The execution of the sample is stopped by its first step. -/
theorem sample_contained : ∃ a c b r,
    (Job.operation (.execute "tenant" "sample" ⟨.null, false⟩)).work.Ends
      (a ++ ⟨.store c, .error diskFull⟩ :: b) r ∧
    Contained (.operation (.execute "tenant" "sample" ⟨.null, false⟩)) a c diskFull b r := by
  have ends := ends_run filling (Job.operation (.execute "tenant" "sample" ⟨.null, false⟩)).work ()
  obtain ⟨a, c, b, cut⟩ := exists_cut_of_refused (f := diskFull) (show diskFull ∈
    ((Job.operation (.execute "tenant" "sample" ⟨.null, false⟩)).work.exchange filling
      ()).filterMap refusal? by decide +kernel)
  rw [cut] at ends
  exact ⟨a, c, b, _, ends, store_failures_are_contained trivial trivial ends⟩

end TriggerFlow.Server
