import TriggerFlow.Engine.Run
import TriggerFlow.Proofs.Exchange

/-!
What a run that is alone with its record exchanges with its surroundings when it saves, tells the
listener and does the work of a node, and what can be read off an exchange: the calls of the
dispatcher, the records that were saved, the looks for a cancel request, and whether anything
interfered.
-/

namespace TriggerFlow.Engine

open Program

abbrev Exchange := Program.Exchange Reply

variable {t : List Exchange} {n : Node} {context : Fields} {r : Except Failure Fields}

theorem ends_store {c : Store.Call} {r : Store.Reply c} :
    (store c).Ends t r ↔ t = [⟨.store c, r⟩] := ends_ask

theorem ends_freshId {id : String} : freshId.Ends t id ↔ t = [⟨.freshId, id⟩] := ends_ask

theorem ends_invoke {a : Action} {config : Fields} {context : Value} {r : Except Failure Value} :
    (invoke a config context).Ends t r ↔ t = [⟨.invoke a config context, r⟩] := ends_ask

theorem ends_alone {e l : Execution} : (alone e).Ends t l ↔ t = [] ∧ l = e := ends_pure

def telling (execution event : String) (data : Fields) (reply : Except Failure Unit) : Exchange :=
  ⟨.notify execution event data, reply⟩

theorem ends_notify {execution event : String} {data : Fields} {u : Unit} :
    (notify execution event data).Ends t u ↔ ∃ reply, t = [telling execution event data reply] := by
  unfold notify
  rw [ends_bind]
  constructor
  · rintro ⟨reply, _, _, h, hp, rfl⟩
    obtain rfl := ends_ask.mp h
    obtain ⟨rfl, -⟩ := ends_pure.mp hp
    exact ⟨reply, rfl⟩
  · rintro ⟨reply, rfl⟩
    exact ⟨reply, _, _, ends_ask.mpr rfl, ends_pure.mpr ⟨rfl, rfl⟩, rfl⟩

/-- The name of the step for which this id was drawn. -/
def stepName (fresh : String) : String :=
  "step_" ++ String.ofList ((fresh.toList.filter (· != '-')).take 16)

theorem ends_stepId {id : String} :
    stepId.Ends t id ↔ ∃ fresh : String, t = [⟨.freshId, fresh⟩] ∧ id = stepName fresh := by
  simp only [stepId, ends_andThen, ends_freshId, ends_pure]
  constructor
  · rintro ⟨fresh, _, _, rfl, ⟨rfl, rfl⟩, rfl⟩
    exact ⟨fresh, rfl, rfl⟩
  · rintro ⟨fresh, rfl, rfl⟩
    exact ⟨fresh, _, _, rfl, ⟨rfl, rfl⟩, rfl⟩

def saving (e : Execution) (reply : Except Failure Unit) : Exchange :=
  ⟨.store (.saveExecution e), reply⟩

/-- How a run is taken down by a store that fails to save its record. -/
def unsaved (e : Execution) (f : Failure) : Failure :=
  .engine (.persistence ("persist execution " ++ e.id) f.message (some e.workflow))

@[simp] theorem unsaved_addStep (e : Execution) (s : Step) (f : Failure) :
    unsaved (e.addStep s) f = unsaved e f := rfl

theorem ends_save {e : Execution} {r : Except Failure Unit} :
    (save e).Ends t r ↔ ∃ reply, t = [saving e reply] ∧ r = reply.mapError (unsaved e) := by
  simp only [save, ends_andThen, ends_store]
  constructor
  · rintro ⟨reply, _, _, rfl, h, rfl⟩
    refine ⟨reply, ?_⟩
    cases reply with
    | ok _ | error _ =>
        obtain ⟨rfl, rfl⟩ := ends_pure.mp h
        exact ⟨rfl, rfl⟩
  · rintro ⟨reply, rfl, rfl⟩
    refine ⟨reply, _, [], rfl, ?_, rfl⟩
    cases reply with
    | ok _ | error _ => exact ends_pure.mpr ⟨rfl, rfl⟩

theorem ends_save_notify {α : Type} {e : Execution} {execution event : String} {data : Fields}
    {refused : Failure → α} {accepted : Work α} {a : α} :
    (do
      match ← save e with
      | .error f => return refused f
      | .ok _ =>
        notify execution event data
        accepted : Work α).Ends t a ↔
      (∃ f, t = [saving e (.error f)] ∧ a = refused (unsaved e f)) ∨
        ∃ reply u, t = saving e (.ok ()) :: telling execution event data reply :: u ∧
          accepted.Ends u a := by
  simp only [ends_andThen, ends_save]
  constructor
  · rintro ⟨_, _, u, ⟨reply, rfl, rfl⟩, h, rfl⟩
    cases reply with
    | error f =>
        obtain ⟨rfl, rfl⟩ := ends_pure.mp h
        exact .inl ⟨f, rfl, rfl⟩
    | ok _ =>
        obtain ⟨_, _, _, hn, hv, rfl⟩ := ends_andThen.mp h
        obtain ⟨reply, rfl⟩ := ends_notify.mp hn
        exact .inr ⟨reply, _, rfl, hv⟩
  · rintro (⟨f, rfl, rfl⟩ | ⟨reply, u, rfl, h⟩)
    · exact ⟨_, _, [], ⟨.error f, rfl, rfl⟩, ends_pure.mpr ⟨rfl, rfl⟩, rfl⟩
    · exact ⟨_, _, _, ⟨.ok (), rfl, rfl⟩,
        ends_andThen.mpr ⟨(), _, u, ends_notify.mpr ⟨reply, rfl⟩, h, rfl⟩, rfl⟩

theorem ends_perform :
    (perform n context).Ends t r ↔
      match n.kind with
      | .trigger event => t = [] ∧ r = .ok (context.set "triggered_by" (.str event.name))
      | .action a => ∃ reply, t = [⟨.invoke a n.config (.obj context), reply⟩] ∧
          r = reply.bind Output.fields := by
  unfold perform
  cases n.kind with
  | trigger event => exact ends_pure
  | action a =>
      simp only [ends_andThen, ends_invoke]
      constructor
      · rintro ⟨reply, _, _, rfl, h, rfl⟩
        refine ⟨reply, ?_⟩
        cases reply with
        | ok _ | error _ =>
            obtain ⟨rfl, rfl⟩ := ends_pure.mp h
            exact ⟨rfl, rfl⟩
      · rintro ⟨reply, rfl, rfl⟩
        refine ⟨reply, _, [], rfl, ?_, rfl⟩
        cases reply with
        | ok _ | error _ => exact ends_pure.mpr ⟨rfl, rfl⟩

/-- The call that the work of a node makes, if it makes one. -/
def dispatch? (n : Node) (context : Fields) : Option Call :=
  match n.kind with
  | .trigger _ => none
  | .action a => some (.invoke a n.config (.obj context))

theorem calls_perform (h : (perform n context).Ends t r) :
    t.map (·.1) = (dispatch? n context).toList := by
  have h := ends_perform.mp h
  unfold dispatch?
  split at h
  · obtain ⟨rfl, -⟩ := h
    rfl
  · obtain ⟨reply, rfl, -⟩ := h
    rfl

theorem eq_of_perform (h : (perform n context).Ends t r) :
    t = [] ∨ ∃ a config context reply, t = [⟨.invoke a config context, reply⟩] := by
  have h := ends_perform.mp h
  split at h
  · exact .inl h.1
  · obtain ⟨reply, rfl, -⟩ := h
    exact .inr ⟨_, _, _, reply, rfl⟩

def isInvocation : Exchange → Bool
  | ⟨.invoke _ _ _, _⟩ => true
  | _ => false

/-- The calls of the dispatcher. -/
def invocations (t : List Exchange) : List Exchange := t.filter isInvocation

@[simp] theorem invocations_append (t u : List Exchange) :
    invocations (t ++ u) = invocations t ++ invocations u := List.filter_append ..

theorem invocations_perform (h : (perform n context).Ends t r) : invocations t = t := by
  obtain rfl | ⟨_, _, _, _, rfl⟩ := eq_of_perform h
  · rfl
  · rfl

theorem ends_perform_within {u v : List Exchange} (h : (perform n context).Ends t r)
    (hu : invocations u = []) (hv : invocations v = []) :
    (perform n context).Ends (invocations (u ++ t ++ v)) r := by
  rw [invocations_append, invocations_append, hu, hv, invocations_perform h, List.nil_append,
    List.append_nil]
  exact h

def saved? : Exchange → Option Execution
  | ⟨.store (.saveExecution e), _⟩ => some e
  | _ => none

/-- The records that the store was asked to save, whether it did or not. -/
def savings (t : List Exchange) : List Execution := t.filterMap saved?

@[simp] theorem savings_append (t u : List Exchange) : savings (t ++ u) = savings t ++ savings u :=
  List.filterMap_append

theorem savings_perform (h : (perform n context).Ends t r) : savings t = [] := by
  obtain rfl | ⟨_, _, _, _, rfl⟩ := eq_of_perform h
  · rfl
  · rfl

def polling (ticket : Ticket) (requested : Bool) : Exchange := ⟨.isCancelled ticket, requested⟩

@[simp] theorem invocations_polling (ticket : Ticket) (b : Bool) (t : List Exchange) :
    invocations (polling ticket b :: t) = invocations t := rfl

@[simp] theorem savings_polling (ticket : Ticket) (b : Bool) (t : List Exchange) :
    savings (polling ticket b :: t) = savings t := rfl

def isPolling : Exchange → Bool
  | ⟨.isCancelled _, _⟩ => true
  | _ => false

/-- How often a cancel request was looked for. -/
def pollings (t : List Exchange) : Nat := t.countP isPolling

@[simp] theorem pollings_nil : pollings [] = 0 := rfl

@[simp] theorem pollings_polling (ticket : Ticket) (b : Bool) (t : List Exchange) :
    pollings (polling ticket b :: t) = pollings t + 1 := List.countP_cons_of_pos rfl

@[simp] theorem pollings_append (t u : List Exchange) :
    pollings (t ++ u) = pollings t + pollings u := List.countP_append

theorem pollings_perform (h : (perform n context).Ends t r) : pollings t = 0 := by
  obtain rfl | ⟨_, _, _, _, rfl⟩ := eq_of_perform h
  · rfl
  · rfl

def isCounting : Exchange → Bool
  | ⟨.store (.incrementRunCount _ _ _), _⟩ => true
  | _ => false

/-- How often a completion was counted. -/
def countings (t : List Exchange) : Nat := t.countP isCounting

@[simp] theorem countings_append (t u : List Exchange) :
    countings (t ++ u) = countings t + countings u := List.countP_append

/-- No cancel request is seen. -/
def Uncancelled (t : List Exchange) : Prop := ∀ ticket, polling ticket true ∉ t

@[simp] theorem uncancelled_append (t u : List Exchange) :
    Uncancelled (t ++ u) ↔ Uncancelled t ∧ Uncancelled u := by
  simp only [Uncancelled, List.mem_append, not_or, forall_and]

theorem uncancelled_cons {x : Exchange} :
    Uncancelled (x :: t) ↔ (∀ ticket, x ≠ polling ticket true) ∧ Uncancelled t := by
  simp only [Uncancelled, List.mem_cons, not_or, forall_and, ne_comm]

/-- The store does what it is asked to do. -/
def Stored (t : List Exchange) : Prop := ∀ c f, (⟨.store c, .error f⟩ : Exchange) ∉ t

@[simp] theorem stored_append (t u : List Exchange) :
    Stored (t ++ u) ↔ Stored t ∧ Stored u := by
  simp only [Stored, List.mem_append, not_or, forall_and]

theorem stored_cons {x : Exchange} :
    Stored (x :: t) ↔ (∀ c f, x ≠ ⟨.store c, .error f⟩) ∧ Stored t := by
  simp only [Stored, List.mem_cons, not_or, forall_and, ne_comm]

theorem not_stored {e : Execution} {f : Failure} (h : saving e (.error f) ∈ t) : ¬ Stored t :=
  fun stored => stored (.saveExecution e) f h

/-- The dispatcher never fails, and whatever it gives is fields. -/
def Served (t : List Exchange) : Prop :=
  ∀ a config context reply, (⟨.invoke a config context, reply⟩ : Exchange) ∈ t →
    ∃ fields, reply.bind Output.fields = .ok fields

theorem Served.of_append {t₁ t₂ : List Exchange} (h : Served (t₁ ++ t₂)) :
    Served t₁ ∧ Served t₂ :=
  ⟨fun a config context reply hx => h a config context reply (List.mem_append_left _ hx),
    fun a config context reply hx => h a config context reply (List.mem_append_right _ hx)⟩

theorem Served.of_cons {x : Exchange} (h : Served (x :: t)) : Served t := by
  have both : Served ([x] ++ t) := h
  exact both.of_append.2

theorem not_served {f : Failure} (h : (perform n context).Ends (invocations t) (.error f)) :
    ¬ Served t := by
  intro served
  have h := ends_perform.mp h
  split at h
  · cases h.2
  · obtain ⟨reply, one, failed⟩ := h
    have asked := List.mem_filter.mp (one ▸ List.mem_cons_self)
    obtain ⟨fields, given⟩ := served _ _ _ reply asked.1
    rw [given] at failed
    cases failed

end TriggerFlow.Engine
