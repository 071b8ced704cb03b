import TriggerFlow.Proofs.Run.History

/-!
What the failure of a store does to a run. The run stops where it is: it leaves the registry without
another call of the store or of the dispatcher and gives a persistence error, and whatever is marked
as failed in the records that it saved failed by work of its own.
-/

namespace TriggerFlow

namespace Failure

/-- What a collaborator raised, if that is no error of the engine's own. -/
def IsForeign : Failure → Prop
  | .engine _ | .noAnswer => False
  | _ => True

def IsPersistence : Failure → Prop
  | .engine err => err.kind = .persistence
  | _ => False

end Failure

namespace Engine

open Program

variable {α β : Type} {w : Workflow} {ticket k : Ticket} {e l d : Execution} {u v : List Event}
  {t t₁ t₂ a b : List Exchange} {n : Node} {context : Fields} {f g : Failure} {c : Store.Call}

section Quitting

/-- Neither the store nor the dispatcher is called, and nothing is started that could call them. -/
def Inert : Exchange → Prop
  | ⟨.store _, _⟩ | ⟨.invoke _ _ _, _⟩ | ⟨.startInBackground _ _, _⟩ => False
  | _ => True

theorem stored_of_inert (inert : ∀ x ∈ t, Inert x) : Stored t :=
  fun _ _ hx => inert _ hx

/-- Where the store refuses a call, what comes after it is inert and the end is an error, which is
one of persistence if what the store raised was foreign. -/
def Quits (t : List Exchange) (r : Except Failure α) : Prop :=
  ∀ a c f b, t = a ++ ⟨.store c, .error f⟩ :: b →
    (∀ x ∈ b, Inert x) ∧ ∃ g, r = .error g ∧ (f.IsForeign → g.IsPersistence)

theorem quits_of_stored (stored : Stored t) (r : Except Failure α) : Quits t r := by
  rintro a c f b rfl
  exact absurd (List.mem_append_right _ List.mem_cons_self) (stored c f)

theorem exists_cut_of_refused (h : f ∈ t.filterMap refusal?) :
    ∃ a c b, t = a ++ ⟨.store c, .error f⟩ :: b := by
  obtain ⟨⟨c, reply⟩, hx, same⟩ := List.mem_filterMap.mp h
  cases c with
  | store c =>
      cases reply with
      | ok _ => cases same
      | error g =>
          cases same
          obtain ⟨a, b, cut⟩ := List.append_of_mem hx
          exact ⟨a, c, b, cut⟩
  | _ => cases same

/-- A refusal with nothing but granted calls around it is the only one. -/
theorem eq_of_refused {c' : Store.Call} (before : Stored t₁) (after : Stored t₂)
    (cut : t₁ ++ ⟨.store c, .error f⟩ :: t₂ = a ++ ⟨.store c', .error g⟩ :: b) :
    t₂ = b ∧ f = g := by
  obtain ⟨es, rfl, -⟩ | ⟨es, rfl, rest⟩ := cut_append cut
  · exact absurd (List.mem_append_right _ List.mem_cons_self) (before c' g)
  cases es with
  | nil =>
      obtain ⟨same, rfl⟩ := List.cons.inj rest
      exact ⟨rfl, Option.some.inj (congrArg refusal? same)⟩
  | cons y es =>
      obtain ⟨-, rfl⟩ := List.cons.inj rest
      exact absurd (List.mem_append_right _ List.mem_cons_self) (after c' g)

theorem quits_of_refused (before : Stored t₁) (inert : ∀ x ∈ t₂, Inert x)
    (given : f.IsForeign → g.IsPersistence) :
    Quits (t₁ ++ ⟨.store c, .error f⟩ :: t₂) (.error g : Except Failure α) := by
  intro a c' f' b cut
  obtain ⟨rfl, rfl⟩ := eq_of_refused before (stored_of_inert inert) cut
  exact ⟨inert, g, rfl, given⟩

/-- What goes on after a success quits if both parts do. -/
theorem Quits.append {x : α} {r : Except Failure β} (first : Quits t₁ (.ok x : Except Failure α))
    (rest : Quits t₂ r) : Quits (t₁ ++ t₂) r := by
  intro a c f b cut
  obtain ⟨es, here, -⟩ | ⟨es, rfl, there⟩ := cut_append cut
  · obtain ⟨-, g, failed, -⟩ := first _ _ _ _ here
    cases failed
  · exact rest _ _ _ _ there

theorem Quits.extend {r : Except Failure α} (h : Quits t₁ r) (inert : ∀ x ∈ t₂, Inert x) :
    Quits (t₁ ++ t₂) r := by
  intro a c f b cut
  obtain ⟨es, here, rfl⟩ | ⟨es, rfl, rfl⟩ := cut_append cut
  · obtain ⟨inert', raised⟩ := h _ _ _ _ here
    rw [List.forall_mem_append]
    exact ⟨⟨inert', inert⟩, raised⟩
  · exact (inert _ (List.mem_append_right _ List.mem_cons_self)).elim

/-- An error may be passed on as one of its kind. -/
theorem Quits.passed {g' : Failure} (h : Quits t (.error g : Except Failure α))
    (persists : g.IsPersistence → g'.IsPersistence) : Quits t (.error g' : Except Failure β) := by
  intro a c f b cut
  obtain ⟨inert, _, same, given⟩ := h a c f b cut
  cases same
  exact ⟨inert, g', rfl, persists ∘ given⟩

theorem Quits.prepend {r : Except Failure α} (stored : Stored t₁) (h : Quits t₂ r) :
    Quits (t₁ ++ t₂) r :=
  Quits.append (quits_of_stored stored (.ok ())) h

/-- The store did what it was asked for, or it refused the last save and the walk stopped. -/
def StoredOrStopped (t : List Exchange) (r : Execution × Option Stop) : Prop :=
  Stored t ∨ ∃ before f, t = before ++ [saving r.1 (.error f)] ∧ Stored before ∧
    r.2 = some (.aborted (unsaved r.1 f))

theorem StoredOrStopped.prepend {r : Execution × Option Stop} (stored : Stored t₁)
    (h : StoredOrStopped t₂ r) : StoredOrStopped (t₁ ++ t₂) r := by
  obtain stored' | ⟨before, f, rfl, stored', stop⟩ := h
  · exact .inl ((stored_append _ _).mpr ⟨stored, stored'⟩)
  · refine .inr ⟨t₁ ++ before, f, ?_, (stored_append _ _).mpr ⟨stored, stored'⟩, stop⟩
    rw [List.append_assoc]

theorem Visits.storedOrStopped {stop : Stop} (h : Visits w l n context t (.error (d, stop))) :
    StoredOrStopped t (d, some stop) := by
  cases h with
  | unbegun fresh start f => exact .inr ⟨[_, _], f, rfl, stored_iff.mpr rfl, rfl⟩
  | failed fresh start finish told reply work =>
      exact .inl (stored_visit work (stored_iff.mpr rfl))
  | failedUnsaved fresh start finish told g work
  | succeededUnsaved fresh start finish told g work =>
      refine .inr ⟨beginning l n fresh start told ++ _ ++ [⟨.now, finish⟩], g, ?_,
        stored_visit work (stored_iff.mpr rfl), rfl⟩
      rw [List.append_assoc _ [_]]
      rfl

theorem Skips.storedOrStopped {c : Connection} (h : Skips w l c t (d, .error f)) :
    StoredOrStopped t (d, some (.aborted f)) := by
  cases h with
  | unsaved time fresh f => exact .inr ⟨[_, _], f, rfl, stored_iff.mpr rfl, rfl⟩

theorem Halt.storedOrStopped {s : Walk} {r : Execution × Option Stop} (h : Halt w ticket s v r) :
    StoredOrStopped (exchanges v) r := by
  have polled : Stored [polling ticket false] := stored_iff.mpr rfl
  cases h with
  | finished | cancelled | raised | lost | cycle => exact .inl (stored_iff.mpr rfl)
  | unskipped no skips =>
      rw [exchanges_looked]
      exact .prepend polled skips.storedOrStopped
  | stopped yes target away fresh visits =>
      rw [exchanges_stepped]
      exact .prepend polled visits.storedOrStopped

/-- A walk goes on while the store does what it is asked for, and stops where it does not. -/
theorem Traverses.storedOrStopped {r : Execution × Option Stop} (prepared : Prepared w e)
    (h : Traverses w ticket e u r) : StoredOrStopped (exchanges u) r := by
  obtain ⟨n, t, l, stop, visits, -, rfl, rfl⟩ | ⟨u', s, v, kept, halt, rfl⟩ := h.kept prepared
  · rw [exchanges_begun]
    exact visits.storedOrStopped
  · rw [exchanges_append]
    exact .prepend kept.stored halt.storedOrStopped

theorem isPersistence_unsaved : (unsaved e f).IsPersistence := rfl

theorem inert_release {execution : String} :
    ∀ x ∈ [(⟨.release execution k, ()⟩ : Exchange)], Inert x :=
  List.forall_mem_singleton.mpr trivial

/-- A run quits after its walk if the store refuses its end or the count of it. -/
theorem Concludes.quits {s : Execution × Option Stop} {r : Except Failure Execution}
    (h : Concludes w ticket s t r) : Quits t r := by
  cases h with
  | aborted | counted | closed => exact quits_of_stored (stored_iff.mpr rfl) _
  | unsaved taken finish f =>
      have before : Stored [⟨.now, finish⟩] := stored_iff.mpr rfl
      exact quits_of_refused before inert_release fun _ => isPersistence_unsaved
  | @uncounted l ended stop taken completed finish f =>
      have before : Stored [⟨.now, finish⟩,
          saving { ended with completedAt := some finish } (.ok ())] := stored_iff.mpr rfl
      exact quits_of_refused before inert_release fun _ => rfl

theorem quits_of_run {r : Except Failure Execution} (prepared : Prepared w e)
    (ran : (run w alone e).Ends t r) : Quits t r := by
  obtain ⟨u, s, @⟨ticket, _, ⟨l, stop⟩, c, _, traverses, concludes⟩⟩ := course_of_ends ran
  have attached {t : List Exchange} (stored : Stored t) : Stored (⟨.attach e.id, ticket⟩ :: t) := by
    rw [stored_iff] at stored ⊢
    exact stored
  obtain stored | ⟨before, f, walked, stored, stopped⟩ := traverses.storedOrStopped prepared
  · exact .prepend (attached stored) concludes.quits
  · dsimp only at walked stopped
    subst stopped
    cases concludes with
    | aborted taken =>
        cases taken
        rw [walked, List.cons_append, List.append_assoc]
        exact quits_of_refused (attached stored) inert_release fun _ => isPersistence_unsaved
    | unsaved taken | uncounted taken | counted taken | closed taken => cases taken

theorem Prepares.quits {data : Value} {r : Except Failure Execution} (h : Prepares w data t r) :
    Quits t r := by
  cases h with
  | refused | formless | invalid | registered => exact quits_of_stored (stored_iff.mpr rfl) _
  | unsaved fresh start new f =>
      have before : Stored [⟨.freshId, fresh⟩, ⟨.now, start⟩] := stored_iff.mpr rfl
      exact quits_of_refused before (List.forall_mem_nil _) fun _ => isPersistence_unsaved

end Quitting

section Blame

/-- The step failed by the work of its node, which raised or gave no fields. -/
def FailedWork (t : List Exchange) (s : Step) : Prop :=
  ∃ (n : Node) (a : Action) (context : Value) (reply : Except Failure Value) (f : Failure),
    (⟨.invoke a n.config context, reply⟩ : Exchange) ∈ t ∧ n.kind = .action a ∧ n.id = s.node ∧
      reply.bind Output.fields = .error f ∧ s.error = some f.shown

/-- Only work that failed makes a step fail or gives it an error. -/
def Earned (t : List Exchange) (s : Step) : Prop :=
  (s.status ≠ .failed ∧ s.error = none) ∨ FailedWork t s

theorem Earned.mono {s : Step} (h : Earned t s) (within : t ⊆ t₁) : Earned t₁ s := by
  obtain unfailed | ⟨n, a, context, reply, f, asked, rest⟩ := h
  · exact .inl unfailed
  · exact .inr ⟨n, a, context, reply, f, within asked, rest⟩

theorem earned_failedStep {id : String} {start finish : Moment}
    (work : (perform n context).Ends t₁ (.error f)) (within : t₁ ⊆ t) :
    Earned t (failedStep n id start finish f.shown) := by
  have work := ends_perform.mp work
  split at work
  · cases work.2
  next action kind =>
  obtain ⟨reply, rfl, failed⟩ := work
  exact .inr ⟨n, action, _, reply, f, within List.mem_cons_self, kind, rfl, failed.symm, rfl⟩

/-- The steps are those of the record before, and perhaps one that earned its error. -/
def Extends (t : List Exchange) (l d : Execution) : Prop :=
  d.steps = l.steps ∨ ∃ s, d.steps = l.steps ++ [s] ∧ Earned t s

theorem Extends.mono (h : Extends t l d) (within : t ⊆ t₁) : Extends t₁ l d := by
  obtain same | ⟨s, added, earned⟩ := h
  · exact .inl same
  · exact .inr ⟨s, added, earned.mono within⟩

theorem Extends.earned (h : Extends t l d) (before : ∀ s ∈ l.steps, Earned t s) :
    ∀ s ∈ d.steps, Earned t s := by
  obtain same | ⟨s, added, earned⟩ := h
  · rw [same]
    exact before
  · rw [added, List.forall_mem_append, List.forall_mem_singleton]
    exact ⟨before, earned⟩

theorem Visits.extends {r : Except (Execution × Stop) (Execution × Visit)}
    (h : Visits w l n context t r) : ∀ d ∈ visited r :: savings t, Extends t l d := by
  have running (id : String) (start : Moment) :
      Extends t l (l.addStep (runningStep n id start)) := .inr ⟨_, rfl, .inl ⟨nofun, rfl⟩⟩
  have saved {id : String} {start : Moment} {s : Step} (earned : Earned t s) :
      ∀ d ∈ [l.addStep s, l.addStep (runningStep n id start), l.addStep s], Extends t l d := by
    simp only [List.forall_mem_cons]
    exact ⟨.inr ⟨s, rfl, earned⟩, running _ _, .inr ⟨s, rfl, earned⟩, List.forall_mem_nil _⟩
  cases h with
  | unbegun =>
      rw [List.forall_mem_cons]
      exact ⟨running _ _, List.forall_mem_singleton.mpr (running _ _)⟩
  | failed _ _ _ _ _ work | failedUnsaved _ _ _ _ _ work =>
      rw [savings_visit work]
      exact saved (earned_failedStep work fun x hx =>
        List.mem_append_left _ (List.mem_append_right _ hx))
  | succeeded _ _ _ _ _ work | succeededUnsaved _ _ _ _ _ work =>
      rw [savings_visit work]
      exact saved (.inl ⟨nofun, rfl⟩)

theorem Skips.extends {c : Connection} {r : Except Failure Unit} (h : Skips w l c t (d, r)) :
    ∀ d' ∈ d :: savings t, Extends t l d' := by
  have skipped (id : String) (time : Moment) :
      Extends t l (l.addStep (skippedStep w c id time)) := .inr ⟨_, rfl, .inl ⟨nofun, rfl⟩⟩
  cases h with
  | unsaved | saved =>
      rw [List.forall_mem_cons]
      exact ⟨skipped _ _, List.forall_mem_singleton.mpr (skipped _ _)⟩

/-- What a walk saved so far, and the record that it goes on with, have only errors that were
earned. -/
def AllEarned (t : List Exchange) (l : Execution) : Prop :=
  ∀ d ∈ l :: savings t, ∀ s ∈ d.steps, Earned t s

theorem AllEarned.append (h : AllEarned t₁ l) (more : ∀ d' ∈ d :: savings t₂, Extends t₂ l d') :
    AllEarned (t₁ ++ t₂) d := by
  have before : ∀ s ∈ l.steps, Earned (t₁ ++ t₂) s := fun s hs =>
    (h l List.mem_cons_self s hs).mono (List.subset_append_left _ _)
  have after : ∀ d' ∈ d :: savings t₂, ∀ s ∈ d'.steps, Earned (t₁ ++ t₂) s := fun d' hd =>
    ((more d' hd).mono (List.subset_append_right _ _)).earned before
  rw [List.forall_mem_cons] at after
  rw [AllEarned, savings_append, List.forall_mem_cons, List.forall_mem_append]
  refine ⟨after.1, fun d' hd s hs => ?_, after.2⟩
  exact (h d' (.tail _ hd) s hs).mono (List.subset_append_left _ _)

theorem allEarned_of_unstarted (unstarted : l.steps = []) : AllEarned [] l := by
  rw [AllEarned, List.forall_mem_cons, unstarted]
  exact ⟨List.forall_mem_nil _, List.forall_mem_nil _⟩

theorem Turn.extends {s s' : Walk} (h : Turn w ticket s v s') :
    ∀ d ∈ s'.record :: savings (exchanges v), Extends (exchanges v) s.record d := by
  cases h with
  | leave | pass => exact List.forall_mem_singleton.mpr (.inl rfl)
  | skip no skips =>
      rw [exchanges_looked]
      exact fun d hd => (skips.extends d hd).mono (List.subset_cons_self _ _)
  | enter yes target away fresh visits =>
      rw [exchanges_stepped]
      exact fun d hd => (visits.extends d hd).mono (List.subset_cons_self _ _)

theorem Halt.extends {s : Walk} {r : Execution × Option Stop} (h : Halt w ticket s v r) :
    ∀ d ∈ r.1 :: savings (exchanges v), Extends (exchanges v) s.record d := by
  cases h with
  | finished | cancelled | raised | lost | cycle => exact List.forall_mem_singleton.mpr (.inl rfl)
  | unskipped no skips =>
      rw [exchanges_looked]
      exact fun d hd => (skips.extends d hd).mono (List.subset_cons_self _ _)
  | stopped yes target away fresh visits =>
      rw [exchanges_stepped]
      exact fun d hd => (visits.extends d hd).mono (List.subset_cons_self _ _)

theorem Traverses.allEarned {r : Execution × Option Stop} (prepared : Prepared w e)
    (h : Traverses w ticket e u r) : AllEarned (exchanges u) r.1 := by
  obtain ⟨n, ns, first⟩ := prepared.activatable.trigger
  have begun {t : List Exchange} {r : Except (Execution × Stop) (Execution × Visit)}
      (visits : Visits w e n e.triggerData t r) :
      AllEarned (exchanges (.entered n e.triggerData :: plain t)) (visited r) := by
    rw [exchanges_begun]
    exact (allEarned_of_unstarted prepared.unstarted).append visits.extends
  obtain ⟨t, l, stop, visits, rfl, rfl⟩ | ⟨u', s, v, earned, halt, rfl⟩ :=
    h.exists_halt (P := fun u s => AllEarned (exchanges u) s.record) prepared first begun
      fun earned turn => by
        rw [exchanges_append]
        exact earned.append turn.extends
  · exact begun visits
  · rw [exchanges_append]
    exact earned.append halt.extends

/-- The error of a record is that of its last step, which failed, or that of a cycle; a record that
was cancelled says so. -/
inductive Owned (l : Execution) : Prop
  | unfailed (status : l.status ≠ .failed) (error : l.error = none)
  | cancelled (status : l.status = .cancelled)
  | broken {s : Step} (last : l.steps.getLast? = some s) (status : s.status = .failed)
      (error : l.error = s.error)
  | cyclic (path : List String) (workflow : Option String)
      (error : l.error = some (EngineError.cycle path workflow).message)

theorem OnlySteps.owned (prepared : Prepared w e) (h : OnlySteps e l) : Owned l := by
  refine .unfailed ?_ (h.error.trans prepared.unflawed)
  rw [h.status, prepared.running]
  exact nofun

theorem Leaves.owned {stop : Option Stop} {ended : Execution} (h : Leaves w (l, stop))
    (taken : concluded l stop = .ok ended) (unflawed : l.error = none) (finish : Moment) :
    Owned { ended with completedAt := some finish } := by
  cases h with
  | aborted => cases taken
  | finished =>
      cases taken
      exact .unfailed nofun unflawed
  | cancelled =>
      cases taken
      exact .cancelled rfl
  | cyclic done path =>
      cases taken
      exact .cyclic path w.id rfl
  | broken done status error =>
      cases taken
      exact .broken List.getLast?_concat status error.symm

/-- Nothing that a run saves is blamed for anything but what its nodes did or the shape of the
workflow. -/
structure Blameless (t : List Exchange) (l : Execution) : Prop where
  steps : ∀ s ∈ l.steps, Earned t s
  record : Owned l

theorem Concludes.blameless {s : Execution × Option Stop} {r : Except Failure Execution}
    (h : Concludes w ticket s t r) (leaves : Leaves w s) (unflawed : s.1.error = none)
    (earned : ∀ x ∈ s.1.steps, Earned t₁ x) : ∀ d ∈ savings t, Blameless t₁ d := by
  have one {l ended : Execution} {stop : Option Stop} (taken : concluded l stop = .ok ended)
      (leaves : Leaves w (l, stop)) (unflawed : l.error = none)
      (earned : ∀ x ∈ l.steps, Earned t₁ x) (finish : Moment) :
      ∀ d ∈ [{ ended with completedAt := some finish }], Blameless t₁ d := by
    refine List.forall_mem_singleton.mpr ⟨?_, leaves.owned taken unflawed finish⟩
    dsimp only
    rw [(concluded_sameRun taken).2]
    exact earned
  cases h with
  | aborted => exact List.forall_mem_nil _
  | unsaved taken finish | uncounted taken _ finish | counted taken _ finish
  | closed taken _ finish => exact one taken leaves unflawed earned finish

theorem blameless_of_run {r : Except Failure Execution} (prepared : Prepared w e)
    (ran : (run w alone e).Ends t r) : ∀ l ∈ savings t, Blameless t l := by
  obtain ⟨u, s, @⟨ticket, _, _, c, _, traverses, concludes⟩⟩ := course_of_ends ran
  have within : exchanges u ⊆ ⟨.attach e.id, ticket⟩ :: exchanges u ++ c := fun x hx =>
    List.mem_append_left _ (.tail _ hx)
  have earned (d : Execution) (hd : d ∈ s.1 :: savings (exchanges u)) :
      ∀ x ∈ d.steps, Earned (⟨.attach e.id, ticket⟩ :: exchanges u ++ c) x := fun x hx =>
    (traverses.allEarned prepared d hd x hx).mono within
  rw [savings_append, List.forall_mem_append]
  constructor
  · intro l hl
    exact ⟨earned l (.tail _ hl), (traverses.of_mem_savings hl).owned prepared⟩
  · exact concludes.blameless (traverses.leaves prepared)
      (traverses.onlySteps.error.trans prepared.unflawed) (earned s.1 List.mem_cons_self)

theorem blameless_of_prepare {data : Value} {r : Except Failure Execution}
    (h : Prepares w data t r) : ∀ l ∈ savings t, Blameless t l := by
  have blameless {fields : Fields} {fresh : String} {start : Moment} {e : Execution}
      (new : newExecution w fields fresh start = .ok e) : ∀ l ∈ [e], Blameless t l := by
    obtain ⟨_, -, rfl⟩ := newExecution_eq_ok new
    exact List.forall_mem_singleton.mpr ⟨List.forall_mem_nil _, .unfailed nofun rfl⟩
  cases h with
  | refused | formless | invalid => exact List.forall_mem_nil _
  | unsaved fresh start new | registered fresh start given new => exact blameless new

theorem Blameless.mono (h : Blameless t l) (within : t ⊆ t₁) : Blameless t₁ l :=
  ⟨fun s hs => (h.steps s hs).mono within, h.record⟩

/-- What work failed by the end, failed before a call of the store after which nothing is asked. -/
theorem Blameless.before {x : Exchange} (h : Blameless (a ++ x :: b) l) (inert : ∀ y ∈ b, Inert y)
    (unasked : isInvocation x = false) : Blameless a l := by
  refine ⟨fun s hs => ?_, h.record⟩
  obtain unfailed | ⟨n, action, context, reply, f, asked, rest⟩ := h.steps s hs
  · exact .inl unfailed
  refine .inr ⟨n, action, context, reply, f, ?_, rest⟩
  obtain here | there := List.mem_append.mp asked
  · exact here
  obtain rfl | there := List.mem_cons.mp there
  · cases unasked
  · exact (inert _ there).elim

end Blame

section Leaving

/-- However a run concludes, it leaves the registry, and does nothing there afterwards. -/
theorem Concludes.releases {s : Execution × Option Stop} {r : Except Failure Execution}
    (h : Concludes w ticket s t r) : ∃ a b, t = a ++ ⟨.release s.1.id ticket, ()⟩ :: b ∧
      (∀ x ∈ a, Runs.Stays x) ∧ ∀ x ∈ b, Runs.IsLook x := by
  cases h with
  | aborted => exact ⟨[], [], rfl, List.forall_mem_nil _, List.forall_mem_nil _⟩
  | unsaved => exact ⟨[_, _], [], rfl, by simp [Runs.Stays, saving], List.forall_mem_nil _⟩
  | uncounted => exact ⟨[_, _, _], [], rfl, by simp [Runs.Stays, saving], List.forall_mem_nil _⟩
  | counted =>
      exact ⟨[_, _, _], [_], rfl, by simp [Runs.Stays, saving],
        List.forall_mem_singleton.mpr trivial⟩
  | closed =>
      exact ⟨[_, _], [_], rfl, by simp [Runs.Stays, saving], List.forall_mem_singleton.mpr trivial⟩

/-- A run that is over, however it ended, is out of the registry, and those who wait for its end are
let go. -/
theorem over_of_run {r : Except Failure Execution} {s s' : Runs} (ran : (run w alone e).Ends t r)
    (shared : Runs.Shared e.id s (t ++ t₂) s') (holds : s.Holds e.id k)
    (looks : ∀ x ∈ t₂, Runs.IsLook x) : s'.ticket? e.id = none ∧ s'.isFinished k = true := by
  obtain ⟨u, ⟨l, stop⟩, @⟨ticket, _, _, c, _, traverses, concludes⟩⟩ := course_of_ends ran
  obtain ⟨a, b, rfl, stays, after⟩ := concludes.releases
  have same : l.id = e.id := traverses.onlySteps.id
  rw [same] at shared
  have first : Runs.Shared e.id s ([] ++ ⟨.attach e.id, ticket⟩ :: _) s' := shared
  obtain rfl : ticket = k := first.attached (List.forall_mem_nil _) holds
  have cut : ⟨.attach e.id, ticket⟩ :: exchanges u ++ (a ++ ⟨.release e.id ticket, ()⟩ :: b) ++ t₂ =
      (⟨.attach e.id, ticket⟩ :: exchanges u ++ a) ++ ⟨.release e.id ticket, ()⟩ :: (b ++ t₂) := by
    simp
  rw [cut] at shared
  refine Runs.Shared.gone shared holds ?_ ?_
  · simp only [List.forall_mem_append, List.forall_mem_cons]
    exact ⟨⟨trivial, fun x hx => (traverses.working x hx).stays⟩, stays⟩
  · rw [List.forall_mem_append]
    exact ⟨after, looks⟩

end Leaving
end Engine
end TriggerFlow
