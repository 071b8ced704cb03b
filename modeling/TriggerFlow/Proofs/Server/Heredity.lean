import TriggerFlow.Proofs.Reliance
import TriggerFlow.Proofs.Server.Agreement
import TriggerFlow.Proofs.Server.Exchanges
import TriggerFlow.Proofs.Server.Moves
import TriggerFlow.Proofs.Store.Statistics
import TriggerFlow.Proofs.Workflow.Fitness

/-!
What stored definitions have in common. A property that the service hands on, whatever it makes of a
definition, is one of every stored definition, however operations come in between each other: no
task writes a definition without it as long as all it reads have it.
-/

namespace TriggerFlow.Server

open Engine Program Service

variable {α : Type} {P : Workflow → Prop} {w : Workflow} {e : Execution} {tenant id : String}

/-- Drafts, changes and definitions from elsewhere have been read from documents. -/
def Operation.Received : Operation → Prop
  | createWorkflow _ d _ => ∃ source doc, Draft.read source doc = .value d
  | updateWorkflow _ _ c => ∃ source doc, Changes.read source doc = .value c
  | importWorkflow _ p _ => ∃ source doc, Portable.read source doc = .value p
  | _ => True

/-- A property that definitions have from what they are made of. -/
structure Hereditary (P : Workflow → Prop) : Prop where
  drafted {source : Source} {doc : Value} {d : Draft} {tenant : String} {creator : Option String}
    (read : Draft.read source doc = .value d)
    (check : (ofDraft tenant d creator).checkIfActive = .ok ()) : P (ofDraft tenant d creator)
  imported {source : Source} {doc : Value} {p : Portable} {d : Draft} {tenant : String}
    {creator : Option String} (read : Portable.read source doc = .value p)
    (drafted : draftOf p = .ok d) (check : (ofDraft tenant d creator).checkIfActive = .ok ()) :
    P (ofDraft tenant d creator)
  changed {source : Source} {doc : Value} {c : Changes} {w v : Workflow}
    (read : Changes.read source doc = .value c) (had : P w) (changed : changed c w = .ok v)
    (check : v.checkIfActive = .ok ()) : P v
  toggled {w v : Workflow} (had : P w) (toggled : w.toggled = .ok v) : P v
  copied {w : Workflow} (had : P w) (id : String) (creator : Option String) : P (w.copy id creator)
  /-- Id, statistics and dates do not matter. -/
  congr {w v : Workflow} (had : P w) (name : v.name = w.name) (graph : v.toGraph = w.toGraph)
    (status : v.status = w.status) : P v

/-- A definition that is sent to the store has the property. -/
def Sends (P : Workflow → Prop) : Call → Prop
  | .store (.createWorkflow w) | .store (.updateWorkflow w) => P w
  | _ => True

def Gets (P : Workflow → Prop) : Exchange → Prop
  | ⟨.store (.getWorkflow _ _), .ok (some w)⟩ => P w
  | _ => True

/-- A program that sends such definitions only, as long as it gets no others. -/
abbrev Careful (P : Workflow → Prop) (post : α → Prop) (prog : Work α) : Prop :=
  prog.Keeps (Sends P) (Gets P) post

/-- A program whose calls send no definition at all. -/
theorem careful_of_calls {prog : Work α} (h : ∀ t a, prog.Ends t a → ∀ x ∈ t, Sends P x.1) :
    Careful P (fun _ => True) prog := by
  induction prog with
  | done a => trivial
  | call c next ih =>
      constructor
      · obtain ⟨_, a, ends⟩ := exists_ends (.call c next)
        obtain ⟨r, u, -, rfl⟩ := ends_call.mp ends
        exact h _ a ends _ (.head _)
      · intro r _
        refine ih r fun t a ends x hx => ?_
        exact h _ a (.call c r ends) x (.tail _ hx)

theorem careful_getWorkflow (tenant id : String) :
    Careful P (fun r => ∀ w, r = .ok w → P w) (getWorkflow tenant id) :=
  keeps_getWorkflow trivial

theorem careful_createWorkflow {d : Draft} {creator : Option String}
    (drafted : (ofDraft tenant d creator).checkIfActive = .ok () → P (ofDraft tenant d creator)) :
    Careful P (fun _ => True) (createWorkflow tenant d creator) := by
  unfold createWorkflow
  dsimp only
  split
  · exact keeps_pure trivial
  · next check =>
    have sends := drafted check
    refine keeps_bind (keeps_guarded (by exact sends)) fun r _ => ?_
    cases r with
    | ok v => exact keeps_pure trivial
    | error f => cases f <;> exact keeps_pure trivial

theorem careful_importWorkflow (h : Hereditary P) {source : Source} {doc : Value} {p : Portable}
    {creator : Option String} (read : Portable.read source doc = .value p) :
    Careful P (fun _ => True) (importWorkflow tenant p creator) := by
  unfold importWorkflow
  split
  · exact keeps_pure trivial
  · next drafted => exact careful_createWorkflow fun check => h.imported read drafted check

theorem careful_updateWorkflow (h : Hereditary P) {source : Source} {doc : Value} {c : Changes}
    (read : Changes.read source doc = .value c) :
    Careful P (fun _ => True) (updateWorkflow tenant id c) := by
  refine keeps_bind (careful_getWorkflow tenant id) fun r had => ?_
  match r with
  | .error f => exact keeps_pure trivial
  | .ok current =>
      dsimp only
      split
      · exact keeps_pure trivial
      · next made =>
        obtain ⟨changed, check⟩ := changed_of_checked made
        have sends := h.changed read (had current rfl) changed check
        exact (keeps_guarded (by exact sends)).imp fun _ _ => trivial

theorem careful_toggleStatus (h : Hereditary P) (tenant id : String) :
    Careful P (fun _ => True) (toggleStatus tenant id) := by
  refine keeps_bind (careful_getWorkflow tenant id) fun r had => ?_
  match r with
  | .error f => exact keeps_pure trivial
  | .ok current =>
      dsimp only
      split
      · exact keeps_pure trivial
      · next toggled =>
        have sends := h.toggled (had current rfl) toggled
        exact (keeps_guarded (by exact sends)).imp fun _ _ => trivial

theorem careful_duplicateWorkflow (h : Hereditary P) (tenant id : String)
    (creator : Option String) :
    Careful P (fun _ => True) (duplicateWorkflow tenant id creator) := by
  refine keeps_bind (careful_getWorkflow tenant id) fun r had => ?_
  match r with
  | .error f => exact keeps_pure trivial
  | .ok current =>
      refine keeps_bind (keeps_ask trivial fun _ _ => trivial) fun fresh _ => ?_
      have sends := h.copied (had current rfl) fresh creator
      exact (keeps_guarded (by exact sends)).imp fun _ _ => trivial

theorem careful_look {action : String} {workflow : Option String} {c : Store.Call}
    {post : Store.Reply c → Prop} (sends : Sends P (.store c)) (h : ∀ r, post r) :
    Careful P post (guarded action workflow c) :=
  (keeps_guarded sends).imp fun r _ => h r

theorem careful_prepare (w : Workflow) (data : Value) :
    Careful P (fun _ => True) (prepare w data) := by
  refine careful_of_calls fun t r ends => ?_
  cases prepares_of_ends ends with
  | refused => exact List.forall_mem_nil _
  | formless => exact List.forall_mem_singleton.mpr trivial
  | invalid =>
      simp only [List.forall_mem_cons]
      exact ⟨trivial, trivial, List.forall_mem_nil _⟩
  | unsaved =>
      simp only [List.forall_mem_cons]
      exact ⟨trivial, trivial, trivial, List.forall_mem_nil _⟩
  | registered =>
      simp only [List.forall_mem_cons]
      exact ⟨trivial, trivial, trivial, trivial, trivial, List.forall_mem_nil _⟩

theorem sends_of_undertakes {c : Call} (h : Undertakes e c) : Sends P c := by
  cases h with
  | work working => cases working <;> trivial
  | _ => trivial

theorem careful_execute (tenant id : String) (request : RunRequest) :
    Careful P (fun _ => True) (Service.execute tenant id request) := by
  refine keeps_bind (careful_getWorkflow tenant id) fun r _ => ?_
  match r with
  | .error f => exact keeps_pure trivial
  | .ok w =>
      dsimp only
      split
      · refine keeps_bind (careful_prepare w request.triggerData) fun r _ => ?_
        match r with
        | .error f => exact keeps_pure trivial
        | .ok e =>
            exact keeps_bind (keeps_ask trivial fun _ _ => trivial) fun _ _ => keeps_pure trivial
      · refine keeps_bind (careful_prepare w request.triggerData) fun r _ => ?_
        match r with
        | .error f => exact keeps_pure trivial
        | .ok e =>
            exact careful_of_calls fun t r ends x hx =>
              sends_of_undertakes (undertakes_of_run ends x hx)

/-- Whatever the service is asked for, it hands the property on. -/
theorem careful_work (h : Hereditary P) (j : Job)
    (received : ∀ o, j = .operation o → o.Received) : Careful P (fun _ => True) j.work := by
  cases j with
  | run w e =>
      exact careful_of_calls fun t r ends x hx => sends_of_undertakes (undertakes_of_ends ends x hx)
  | operation o =>
      have received := received o rfl
      cases o with
      | createWorkflow tenant d creator =>
          obtain ⟨source, doc, read⟩ := received
          exact careful_createWorkflow (h.drafted read)
      | updateWorkflow tenant id c =>
          obtain ⟨source, doc, read⟩ := received
          exact careful_updateWorkflow h read
      | importWorkflow tenant p creator =>
          obtain ⟨source, doc, read⟩ := received
          exact careful_importWorkflow h read
      | toggleStatus tenant id => exact careful_toggleStatus h tenant id
      | duplicateWorkflow tenant id creator => exact careful_duplicateWorkflow h tenant id creator
      | execute tenant id request => exact careful_execute tenant id request
      | getWorkflow tenant id => exact (careful_getWorkflow tenant id).imp fun _ _ => trivial
      | listWorkflows => exact careful_look (by exact trivial) fun _ => trivial
      | deleteWorkflow tenant id =>
          refine keeps_bind (keeps_guarded (by exact trivial)) fun r _ => ?_
          match r with
          | .ok true | .ok false => exact keeps_pure trivial
          | .error f => cases f <;> exact keeps_pure trivial
      | exportWorkflow tenant id =>
          exact keeps_bind (careful_getWorkflow tenant id) fun _ _ => keeps_pure trivial
      | listExecutions s tenant workflow limit =>
          refine keeps_bind (careful_getWorkflow tenant workflow) fun r _ => ?_
          match r with
          | .error f => exact keeps_pure trivial
          | .ok w => exact careful_look (by exact trivial) fun _ => trivial
      | getExecution tenant id =>
          refine careful_of_calls fun t r ends => ?_
          obtain ⟨reply, rfl, -⟩ := ends_getExecution ends
          exact List.forall_mem_singleton.mpr trivial
      | cancelExecution tenant id =>
          refine careful_of_calls fun t r ends x hx => ?_
          have inquires := (cancelling_of_ends ends).inquires x hx
          generalize x.1 = c at inquires ⊢
          cases inquires <;> trivial
      | close =>
          exact keeps_bind (keeps_ask trivial fun _ _ => trivial) fun _ _ => keeps_pure trivial

section World

variable {v : World} {o : Chance}

def World.Stores (v : World) (P : Workflow → Prop) : Prop := ∀ x ∈ v.memory.workflows, P x.2

theorem World.Stores.put (stored : v.Stores P) {i : String} (new : P w) :
    ∀ x ∈ v.memory.workflows.put i w, P x.2 := by
  intro x hx
  obtain rfl | hx := Keyed.mem_put hx
  · exact new
  · exact stored x hx

theorem World.Stores.found (stored : v.Stores P) (found : v.memory.workflow? id tenant = some w) :
    P w :=
  stored _ (Keyed.mem_of_get? (Store.Memory.workflow?_eq_some.mp found).1)

theorem World.Stores.reply (h : Hereditary P) (stored : v.Stores P) {time : Moment}
    {fresh : String} {c : Store.Call} (sends : Sends P (.store c)) :
    (∀ x ∈ (v.memory.reply time fresh c).2.workflows, P x.2) ∧
      Gets P ⟨.store c, (v.memory.reply time fresh c).1⟩ := by
  cases c with
  | createWorkflow w => exact ⟨stored.put (h.congr sends rfl rfl rfl), trivial⟩
  | getWorkflow id tenant =>
      refine ⟨stored, ?_⟩
      show Gets P ⟨.store (.getWorkflow id tenant), .ok (v.memory.workflow? id tenant)⟩
      cases found : v.memory.workflow? id tenant with
      | none => trivial
      | some w => exact stored.found found
  | updateWorkflow w =>
      unfold Store.Memory.reply
      dsimp only
      split
      · exact ⟨stored.put (h.congr sends rfl rfl rfl), trivial⟩
      · exact ⟨stored, trivial⟩
  | deleteWorkflow id tenant =>
      refine ⟨?_, trivial⟩
      show ∀ x ∈ (v.memory.deleteWorkflow id tenant).2.workflows, P x.2
      unfold Store.Memory.deleteWorkflow
      split
      · exact fun x hx => stored x (List.mem_filter.mp hx).1
      · exact stored
  | incrementRunCount id tenant finish =>
      refine ⟨?_, trivial⟩
      show ∀ x ∈ (v.memory.incrementRunCount id tenant finish).workflows, P x.2
      unfold Store.Memory.incrementRunCount
      split
      · next i w found =>
        obtain ⟨_, -, found⟩ := Option.bind_eq_some_iff.mp found
        obtain ⟨_, found, same⟩ := Option.map_eq_some_iff.mp found
        cases same
        exact stored.put (h.congr (stored.found found) rfl rfl rfl)
      · exact stored
  | saveExecution e =>
      refine ⟨?_, trivial⟩
      show ∀ x ∈ (v.memory.saveExecution e).workflows, P x.2
      unfold Store.Memory.saveExecution
      split <;> exact stored
  | markCancelled id tenant finish =>
      refine ⟨?_, trivial⟩
      show ∀ x ∈ (v.memory.markCancelled id tenant finish).2.workflows, P x.2
      unfold Store.Memory.markCancelled
      split <;> exact stored
  | _ => exact ⟨stored, trivial⟩

theorem World.Stores.perform (h : Hereditary P) (stored : v.Stores P) {c : Call}
    (sends : Sends P c) : (v.perform o c).2.Stores P ∧ Gets P ⟨c, (v.perform o c).1⟩ := by
  cases c with
  | store c =>
      unfold World.perform
      dsimp only
      split
      · refine ⟨stored, ?_⟩
        cases c <;> trivial
      · exact stored.reply h sends
  | _ => exact ⟨stored, trivial⟩

end World

section System

variable {s s' : State} {m : Move} {moves : List Move}

def Move.Received : Move → Prop
  | .submit o => o.Received
  | .go _ _ => True

/-- All definitions that are stored or were found have the property, and no task will send any
other. -/
structure State.Hands (s : State) (P : Workflow → Prop) : Prop where
  stored : s.world.Stores P
  found : ∀ t ∈ s.tasks, ∀ x ∈ t.past, Gets P x
  careful : ∀ t ∈ s.tasks, Careful P (fun _ => True) t.rest

theorem State.hands_empty : State.empty.Hands P :=
  ⟨List.forall_mem_nil _, List.forall_mem_nil _, List.forall_mem_nil _⟩

theorem State.Hands.joined (h : Hereditary P) (hands : s.Hands P) {o : Operation}
    (received : o.Received) :
    State.Hands { s with tasks := s.tasks ++ [.start (.operation o)] } P where
  stored := hands.stored
  found := by
    rw [List.forall_mem_append, List.forall_mem_singleton]
    exact ⟨hands.found, List.forall_mem_nil _⟩
  careful := by
    rw [List.forall_mem_append, List.forall_mem_singleton]
    refine ⟨hands.careful, careful_work h (.operation o) fun o' same => ?_⟩
    cases same
    exact received

theorem hands_goes (h : Hereditary P) {v v' : World} {o : Chance} {task task' : Task}
    {new : List Task} (goes : Goes v o task task' v' new) (stored : v.Stores P)
    (found : ∀ x ∈ task.past, Gets P x) (careful : Careful P (fun _ => True) task.rest) :
    v'.Stores P ∧ ((∀ x ∈ task'.past, Gets P x) ∧ Careful P (fun _ => True) task'.rest) ∧
      ∀ t ∈ new, (∀ x ∈ t.past, Gets P x) ∧ Careful P (fun _ => True) t.rest := by
  cases goes with
  | waits => exact ⟨stored, ⟨found, careful⟩, List.forall_mem_nil _⟩
  | @answered job past c next waiting ready =>
      obtain ⟨sends, rest⟩ := careful
      obtain ⟨kept, gets⟩ := stored.perform h sends
      refine ⟨kept, ⟨?_, rest _ gets⟩, ?_⟩
      · rw [List.forall_mem_append, List.forall_mem_singleton]
        exact ⟨found, gets⟩
      · cases c with
        | startInBackground w e =>
            refine List.forall_mem_singleton.mpr ⟨List.forall_mem_nil _, ?_⟩
            exact careful_work h (.run w e) fun _ same => by cases same
        | _ => exact List.forall_mem_nil _

theorem State.Hands.move (h : Hereditary P) (hands : s.Hands P) (received : m.Received)
    (moved : s.move m = some s') : s'.Hands P := by
  cases m with
  | submit o =>
      cases moved
      exact hands.joined h received
  | go i o =>
      obtain ⟨task, task', new, turns⟩ := State.turns_of_move moved
      have there := List.mem_of_getElem? turns.found
      obtain ⟨stored, gone, started⟩ :=
        hands_goes h turns.goes hands.stored (hands.found task there) (hands.careful task there)
      exact ⟨stored, turns.forall_tasks hands.found gone.1 fun t ht => (started t ht).1,
        turns.forall_tasks hands.careful gone.2 fun t ht => (started t ht).2⟩

/-- However operations come in between each other, a hereditary property is one of every definition
that is stored or was found. -/
theorem State.hands_of_follow (h : Hereditary P) (received : ∀ m ∈ moves, m.Received)
    (moved : State.empty.follow moves = some s) : s.Hands P :=
  follow_preserves (P := fun s => s.Hands P) moved received hands_empty
    fun received moved hands => hands.move h received moved

end System

end TriggerFlow.Server
