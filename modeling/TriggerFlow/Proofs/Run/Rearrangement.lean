import TriggerFlow.Proofs.Run.Cycles
import TriggerFlow.Proofs.Run.DepthFirst
import TriggerFlow.Proofs.Run.History

/-!
The order of nodes and connections does not matter to a run, as long as its first trigger and what
leads away from each reachable node stay the same: the searches of both workflows are one program
but for the workflow that errors name, and a program is driven to one end by one dispatcher.
-/

namespace TriggerFlow

namespace Program

variable {C : Type} {R : C → Type} {α : Type} {p : Program C R α} {t t' : List (Exchange R)}
  {a a' : α} {x : Exchange R} {reply : List (Exchange R) → (c : C) → R c}

/-- Every call gets the reply that is due after the exchange so far. -/
def Answers (reply : List (Exchange R) → (c : C) → R c) (t : List (Exchange R)) : Prop :=
  ∀ before x after, t = before ++ x :: after → x.2 = reply before x.1

theorem answers_cons (h : Answers reply (x :: t)) :
    x.2 = reply [] x.1 ∧ Answers (fun before => reply (x :: before)) t :=
  ⟨h [] x t rfl, fun before y after same => h (x :: before) y after (congrArg (x :: ·) same)⟩

/-- The replies decide how a program goes and how it ends. -/
theorem Ends.unique (h : p.Ends t a) (h' : p.Ends t' a') (answers : Answers reply t)
    (answers' : Answers reply t') : t = t' ∧ a = a' := by
  induction h generalizing t' reply with
  | done a =>
      obtain ⟨rfl, rfl⟩ := ends_done.mp h'
      exact ⟨rfl, rfl⟩
  | call c r _ ih =>
      obtain ⟨r', u', rest, rfl⟩ := ends_call.mp h'
      obtain ⟨first, answers⟩ := answers_cons answers
      obtain ⟨first', answers'⟩ := answers_cons answers'
      obtain rfl : r = r' := first.trans first'.symm
      obtain ⟨rfl, rfl⟩ := ih rest answers answers'
      exact ⟨rfl, rfl⟩

end Program

namespace Engine

open Program
open Relation (ReflTransGen)

/-- From a node on, the second workflow is the same as the first: it has the nodes that connections
lead to, and each of them has the same connections in the same order. -/
structure SameFrom (w w' : Workflow) (root : String) : Prop where
  node : ∀ id, ReflTransGen (Joined w) root id → w'.node? id = w.node? id
  outgoing : ∀ id, ReflTransGen (Joined w) root id → w'.outgoing id = w.outgoing id

/-- The end of a walk with its error in the name of another workflow. -/
def Stop.under (id : Option String) : Stop → Stop
  | .ended err => .ended { err with workflow := id }
  | .aborted f => .aborted f

namespace DepthFirst

variable {w w' : Workflow} {root : String} {path : List String} {steps : List Outline} {n : Node}
  {x y : Fields} {c : Connection} {connections : List Connection} {id : Option String}

def inNameOf (id : Option String) (p : Work (List Outline × Option Stop)) :
    Work (List Outline × Option Stop) :=
  p.bind fun r => pure (r.1, r.2.map (Stop.under id))

theorem inNameOf_bind {α : Type} (p : Work α) (f : α → Work (List Outline × Option Stop)) :
    inNameOf id (p.bind f) = p.bind fun a => inNameOf id (f a) := bind_assoc ..

theorem ends_inNameOf {p : Work (List Outline × Option Stop)} {t : List Exchange}
    {stop : Option Stop} (h : (inNameOf id p).Ends t (steps, stop)) :
    ∃ stop', p.Ends t (steps, stop') ∧ stop = stop'.map (Stop.under id) := by
  obtain ⟨⟨_, stop'⟩, _, _, h, h', rfl⟩ := ends_bind.mp h
  obtain ⟨rfl, same⟩ := ends_pure.mp h'
  cases same
  exact ⟨stop', by rwa [List.append_nil], rfl⟩

theorem inNameOf_unlessStopped {p : Work (List Outline × Option Stop)}
    {f f' : List Outline → Work (List Outline × Option Stop)}
    (h : ∀ steps, f' steps = inNameOf id (f steps)) :
    (inNameOf id p).bind (unlessStopped f') = inNameOf id (p.bind (unlessStopped f)) := by
  rw [inNameOf_bind, inNameOf, bind_assoc]
  congr 1
  funext ⟨steps, stop⟩
  cases stop with
  | none => exact h steps
  | some stop => rfl

theorem visit_eq (hn : n ∈ w.nodes) : visit w path steps n hn x =
    if n.id ∈ path then
      pure (steps, some (.ended (.cycle (path.dropWhile (· != n.id) ++ [n.id]) w.id)))
    else if steps.any fun s => s.node == n.id && s.status == .success then pure (steps, none)
    else (perform n x).bind fun
      | .error f => pure (steps ++ [.failed n f], some (.ended (.nodeFailed f.shown n.id w.id)))
      | .ok output =>
        follow w (path ++ [n.id]) (steps ++ [.succeeded n output]) x output (w.outgoing n.id) := by
  rw [visit, perform_eq_work]
  rfl

theorem follow_inNameOf (same : SameFrom w w' root)
    (visits : ∀ steps n hn hn' x, ReflTransGen (Joined w) root n.id →
      visit w' path steps n hn' x = inNameOf w'.id (visit w path steps n hn x))
    (reached : ∀ c ∈ connections, ReflTransGen (Joined w) root c.target) (steps : List Outline) :
    follow w' path steps x y connections =
      inNameOf w'.id (follow w path steps x y connections) := by
  induction connections generalizing steps with
  | nil =>
      rw [follow, follow]
      rfl
  | cons c rest ih =>
      rw [List.forall_mem_cons] at reached
      have target := same.node c.target reached.1
      cases held : Condition.hold c.conditions c.logic (.obj x) with
      | error f =>
          rw [follow, follow, held]
          rfl
      | ok followed =>
          cases followed with
          | false =>
              have skipped : Outline.skipped w' c = Outline.skipped w c := by
                rw [Outline.skipped_eq, Outline.skipped_eq, target]
              rw [follow, follow, held]
              dsimp only
              rw [skipped, ih reached.2]
          | true =>
              cases found : w.node? c.target with
              | none =>
                  rw [follow_lost held found, follow_lost held (target.trans found)]
                  rfl
              | some n =>
                  have entered : ReflTransGen (Joined w) root n.id :=
                    (Graph.id_of_node? found).symm ▸ reached.1
                  rw [follow_yes held found, follow_yes held (target.trans found),
                    visits steps n (Graph.mem_nodes_of_node? found) _ _ entered,
                    inNameOf_unlessStopped (ih reached.2)]

/-- By the number of nodes that the path does not go through. -/
theorem visit_inNameOf (same : SameFrom w w' root) (path : List String) (steps : List Outline)
    (n : Node) (hn : n ∈ w.nodes) (hn' : n ∈ w'.nodes) (x : Fields)
    (reached : ReflTransGen (Joined w) root n.id) :
    visit w' path steps n hn' x = inNameOf w'.id (visit w path steps n hn x) := by
  induction measure : away w path using Nat.strongRecOn generalizing path steps n x with
  | ind k ih =>
      subst measure
      rw [visit_eq, visit_eq]
      split
      · rfl
      next fresh =>
      split
      · rfl
      rw [inNameOf_bind]
      congr 1
      funext outcome
      cases outcome with
      | error f => rfl
      | ok output =>
          dsimp only
          rw [same.outgoing n.id reached]
          refine follow_inNameOf same ?_ ?_ _
          · exact fun steps m hm hm' x entered =>
              ih _ (away_append_lt hn fresh) _ steps m hm hm' x entered rfl
          · intro c mem
            have leaves := List.mem_filter.mp mem
            exact reached.tail ⟨c, leaves.1, by simpa using leaves.2, rfl⟩

theorem search_inNameOf {ns ns' : List Node} (first : w.triggers = n :: ns)
    (first' : w'.triggers = n :: ns') (same : SameFrom w w' n.id) (data : Fields) :
    search w' data = inNameOf w'.id (search w data) := by
  have hn := Workflow.mem_nodes_of_triggers first
  have hn' := Workflow.mem_nodes_of_triggers first'
  rw [search_eq_visit first hn, search_eq_visit first' hn']
  exact visit_inNameOf same [] [] n hn hn' data .refl

end DepthFirst

section Records

variable {w w' : Workflow} {e d d' l : Execution} {t : List Exchange} {ls : List Execution}
  {stop : Option Stop} {r r' : Except Failure Execution}

theorem History.getLast? (h : History e ls l) : (e :: ls).getLast? = some l := by
  induction h with
  | nil => rfl
  | cons _ _ ih => rw [List.getLast?_cons_cons, ih]

theorem triggerData_of_prepare {data : Value} (h : (prepare w data).Ends t (.ok e)) :
    Output.fields data = .ok e.triggerData := by
  cases prepares_of_ends h with
  | registered fresh start given new =>
      obtain ⟨_, -, rfl⟩ := newExecution_eq_ok new
      exact given

/-- The status and the error of a record in the store, by how its walk stopped: what takes a run
down leaves the record as it is. -/
def storedEnd : Option Stop → ExecutionStatus × Option String
  | none => (.completed, none)
  | some (.ended err) => (.failed, some err.message)
  | some (.aborted _) => (.running, none)

/-- What a run gives, by how its walk stopped and the record that was saved last. -/
def given (l : Execution) : Option Stop → Except Failure Execution
  | some (.aborted f) => .error f
  | _ => .ok l

theorem storedEnd_under (id : Option String) (stop : Option Stop) :
    storedEnd (stop.map (Stop.under id)) = storedEnd stop := by
  match stop with
  | none | some (.ended _) | some (.aborted _) => rfl

theorem Concludes.savings_of_stored {ticket : Ticket} (h : Concludes w ticket (l, stop) t r)
    (stored : Stored t) :
    (∃ f, concluded l stop = .error f ∧ r = .error f ∧ savings t = []) ∨
      ∃ ended finish, concluded l stop = .ok ended ∧
        r = .ok { ended with completedAt := some finish } ∧
        savings t = [{ ended with completedAt := some finish }] := by
  cases h with
  | aborted taken => exact .inl ⟨_, taken, rfl, rfl⟩
  | unsaved => exact absurd stored (not_stored (.tail _ (.head _)))
  | uncounted _ _ _ f => exact absurd (.tail _ (.tail _ (.head _))) (stored _ f)
  | counted taken | closed taken => exact .inr ⟨_, _, taken, rfl, rfl⟩

/-- A run that nobody cancels, over a store that saves: its search, the record that it saves last,
and what it gives. -/
theorem exists_search (prepared : Prepared w e) (ran : (run w alone e).Ends t r)
    (uncancelled : Uncancelled t) (stored : Stored t) :
    ∃ stop l, (DepthFirst.search w e.triggerData).Ends (invocations t) (outlines l, stop) ∧
      (e :: savings t).getLast? = some l ∧ (l.status, l.error) = storedEnd stop ∧
      r = given l stop := by
  obtain ⟨u, ⟨l, stop⟩, course⟩ := course_of_ends ran
  obtain @⟨ticket, _, _, t, _, traverses, concludes⟩ := course
  rw [uncancelled_append] at uncancelled
  rw [stored_append] at stored
  have uncancelled := (uncancelled_cons.mp uncancelled.1).2
  have walked := (stored_cons.mp stored.1).2
  have search := DepthFirst.ends_search_of_traverses prepared traverses uncancelled walked
  have history : (e :: savings (exchanges u)).getLast? = some l :=
    (traverses.history prepared walked).1.getLast?
  have same : savings (⟨.attach e.id, ticket⟩ :: exchanges u ++ t) =
      savings (exchanges u) ++ savings t := by
    rw [savings_append]
    rfl
  have steps := traverses.onlySteps
  rw [invocations_append, concludes.invocations, List.append_nil, same]
  obtain ⟨f, taken, rfl, none⟩ | ⟨ended, finish, taken, rfl, saved⟩ :=
    concludes.savings_of_stored stored.2
  · rw [none, List.append_nil]
    match stop, taken with
    | some (.aborted _), rfl =>
      refine ⟨_, l, search, history, ?_, rfl⟩
      rw [steps.status, steps.error, prepared.running, prepared.unflawed]
      rfl
  · rw [saved, ← List.cons_append, List.getLast?_concat]
    match stop, taken with
    | none, rfl =>
      refine ⟨none, _, ?_, rfl, ?_, rfl⟩
      · exact search
      · exact congrArg (Prod.mk _) (steps.error.trans prepared.unflawed)
    | some (.ended err), rfl =>
      refine ⟨some (.ended err), _, ?_, rfl, ?_, rfl⟩
      · exact search
      · exact congrArg (·, some err.message) (if_neg (traverses.kind_ne_cancelled uncancelled))

/-- Records that tell the same of their runs: but for ids, times and owners they are equal. -/
structure Agree (l l' : Execution) : Prop where
  steps : outlines l = outlines l'
  status : l.status = l'.status
  error : l.error = l'.error

/-- What two runs give, when they fail alike or give records that tell the same. -/
inductive AgreeResults : Except Failure Execution → Except Failure Execution → Prop
  | returned {d d' : Execution} (agree : Agree d d') : AgreeResults (.ok d) (.ok d')
  | raised (f : Failure) : AgreeResults (.error f) (.error f)

theorem agreeResults_given {l' : Execution} (agree : Agree l l') (id : Option String)
    (stop : Option Stop) : AgreeResults (given l stop) (given l' (stop.map (Stop.under id))) := by
  match stop with
  | none | some (.ended _) => exact .returned agree
  | some (.aborted f) => exact .raised f

end Records

/-- Two workflows with the same first trigger, from which on they are the same, have the same runs:
on the same data, and with a dispatcher that answers the same, they make the same calls of the
dispatcher, store records that tell the same in the end, and give the same. -/
theorem rearranged_runs_agree {w w' : Workflow} {data : Value} {e e' : Execution} {n : Node}
    {ns ns' : List Node} {t₀ t₀' t t' : List Exchange} {r r' : Except Failure Execution}
    {reply : List Exchange → (c : Call) → Reply c}
    (accepted : (prepare w data).Ends t₀ (.ok e)) (accepted' : (prepare w' data).Ends t₀' (.ok e'))
    (first : w.triggers = n :: ns) (first' : w'.triggers = n :: ns') (same : SameFrom w w' n.id)
    (ran : (run w alone e).Ends t r) (ran' : (run w' alone e').Ends t' r')
    (uncancelled : Uncancelled t) (uncancelled' : Uncancelled t')
    (stored : Stored t) (stored' : Stored t')
    (answers : Answers reply (invocations t)) (answers' : Answers reply (invocations t')) :
    invocations t = invocations t' ∧ AgreeResults r r' ∧
      ∃ l l', (e :: savings t).getLast? = some l ∧ (e' :: savings t').getLast? = some l' ∧
        Agree l l' := by
  obtain ⟨stop, l, search, last, ending, rfl⟩ :=
    exists_search (prepared_of_ends accepted) ran uncancelled stored
  obtain ⟨stop', l', search', last', ending', rfl⟩ :=
    exists_search (prepared_of_ends accepted') ran' uncancelled' stored'
  have data : e'.triggerData = e.triggerData :=
    Except.ok.inj ((triggerData_of_prepare accepted').symm.trans (triggerData_of_prepare accepted))
  rw [data, DepthFirst.search_inNameOf first first' same] at search'
  obtain ⟨_, searched, rfl⟩ := DepthFirst.ends_inNameOf search'
  obtain ⟨calls, ends⟩ := search.unique searched answers answers'
  obtain ⟨steps, rfl⟩ := Prod.mk.inj ends
  rw [storedEnd_under, ← ending] at ending'
  obtain ⟨status, error⟩ := Prod.mk.inj ending'
  have agree : Agree l l' := ⟨steps, status.symm, error.symm⟩
  exact ⟨calls, agreeResults_given agree w'.id stop, l, l', last, last', agree⟩

section Samples

/-- The sample with its nodes and connections in another order, with a trigger and an action that
nothing leads to, and under another name. -/
def rearranged : Workflow where
  nodes := [⟨"mail", .action .sendEmail, [], .origin⟩, ⟨"start", .trigger .webhook, [], .origin⟩,
    ⟨"spare", .action .sendSms, [], .origin⟩, ⟨"other", .trigger .schedule, [], .origin⟩,
    ⟨"log", .action .logEvent, [], .origin⟩]
  connections := [⟨"c", "log", "mail", [], .and⟩, ⟨"e", "spare", "log", [], .and⟩,
    ⟨"a", "start", "log", [], .and⟩, ⟨"f", "other", "spare", [], .and⟩,
    ⟨"b", "start", "mail", [⟨"d", "urgent", .equals, "true"⟩], .and⟩]
  id := some "rearranged"
  tenant := "tenant"
  name := "Rearranged"
  description := none
  status := .active
  tags := []
  runCount := 0
  lastRun := none
  createdBy := none
  createdAt := none
  updatedAt := none

theorem sameFrom_of_closed {w w' : Workflow} {root : String} (ids : List String)
    (begins : root ∈ ids) (closed : ∀ c ∈ w.connections, c.source ∈ ids → c.target ∈ ids)
    (node : ∀ id ∈ ids, w'.node? id = w.node? id)
    (outgoing : ∀ id ∈ ids, w'.outgoing id = w.outgoing id) : SameFrom w w' root := by
  have within (id : String) (reached : ReflTransGen (Joined w) root id) : id ∈ ids := by
    induction reached with
    | refl => exact begins
    | tail _ joined ih =>
        obtain ⟨c, mem, rfl, rfl⟩ := joined
        exact closed c mem ih
  exact ⟨fun id reached => node id (within id reached),
    fun id reached => outgoing id (within id reached)⟩

theorem sample_sameFrom_rearranged : SameFrom sample rearranged "start" := by
  refine sameFrom_of_closed ["start", "log", "mail"] (by decide) (by decide) ?_ ?_
  · simp only [List.forall_mem_cons]
    exact ⟨rfl, rfl, rfl, List.forall_mem_nil _⟩
  · simp only [List.forall_mem_cons]
    exact ⟨rfl, rfl, rfl, List.forall_mem_nil _⟩

theorem answers_calm {α : Type} (p : Work α) :
    Answers (fun _ c => (calm c ()).1) (invocations (p.exchange calm ())) := by
  intro before x after same
  have mem : x ∈ invocations (p.exchange calm ()) :=
    same ▸ List.mem_append_right _ List.mem_cons_self
  obtain ⟨_, reply⟩ := mem_exchange (List.mem_filter.mp mem).1
  exact reply

def rearrangedRecord : Execution :=
  ⟨"", "rearranged", "tenant", .running, [], [], .utc 0, none, none⟩

theorem rearranged_prepared : (prepare rearranged .null).Ends
    ((prepare rearranged .null).exchange calm ()) (.ok rearrangedRecord) :=
  ends_run calm (prepare rearranged .null) ()

def rearrangedRun : List Exchange := (run rearranged alone rearrangedRecord).exchange calm ()

theorem rearranged_sample_runs_agree : ∃ r r' : Except Failure Execution,
    (run sample alone sampleRecord).Ends sampleRun r ∧
    (run rearranged alone rearrangedRecord).Ends rearrangedRun r' ∧
    (invocations sampleRun).length = 2 ∧ invocations sampleRun = invocations rearrangedRun ∧
    AgreeResults r r' ∧
      ∃ l l', (sampleRecord :: savings sampleRun).getLast? = some l ∧
        (rearrangedRecord :: savings rearrangedRun).getLast? = some l' ∧ Agree l l' := by
  obtain ⟨r, ran⟩ := sample_ran
  have ran' : (run rearranged alone rearrangedRecord).Ends rearrangedRun _ :=
    ends_run calm (run rearranged alone rearrangedRecord) ()
  exact ⟨r, _, ran, ran', by decide +kernel,
    rearranged_runs_agree sample_prepared rearranged_prepared rfl rfl sample_sameFrom_rearranged ran
      ran' (uncancelled_calm _) (uncancelled_calm _) (stored_calm _) (stored_calm _)
      (answers_calm _) (answers_calm _)⟩

end Samples
end Engine
end TriggerFlow
