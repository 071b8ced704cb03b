import Mathlib.Data.List.Perm.Basic
import TriggerFlow.Proofs.Run.Calls
import TriggerFlow.Proofs.Server.World
import TriggerFlow.Service

/-!
Operations of one service side by side. Each is a task that makes its calls one after the other;
between any two of them other tasks may act, and a call that has to wait is answered when what it
waits for has come. A run in the background is a task of its own from the moment it is started.
-/

namespace TriggerFlow.Server

open Engine Program

/-- What a service can be asked for. -/
inductive Operation where
  | createWorkflow (tenant : String) (d : Draft) (creator : Option String)
  | getWorkflow (tenant id : String)
  | listWorkflows (tenant : String) (status search : Option String)
  | updateWorkflow (tenant id : String) (c : Changes)
  | deleteWorkflow (tenant id : String)
  | toggleStatus (tenant id : String)
  | duplicateWorkflow (tenant id : String) (creator : Option String)
  | exportWorkflow (tenant id : String)
  | importWorkflow (tenant : String) (p : Portable) (creator : Option String)
  | execute (tenant id : String) (request : RunRequest)
  | listExecutions (s : Service.Settings) (tenant workflow : String) (limit : Option Int)
  | getExecution (tenant id : String)
  | cancelExecution (tenant id : String)
  | close

namespace Operation

def Given : Operation → Type
  | createWorkflow _ _ _ | getWorkflow _ _ | updateWorkflow _ _ _ | toggleStatus _ _ => Workflow
  | duplicateWorkflow _ _ _ | importWorkflow _ _ _ => Workflow
  | listWorkflows _ _ _ => List Workflow
  | deleteWorkflow _ _ | close => Unit
  | exportWorkflow _ _ => Portable
  | execute _ _ _ | getExecution _ _ | cancelExecution _ _ => Execution
  | listExecutions _ _ _ _ => List Execution

def work : (o : Operation) → Work (Except Failure o.Given)
  | createWorkflow tenant d creator => Service.createWorkflow tenant d creator
  | getWorkflow tenant id => Service.getWorkflow tenant id
  | listWorkflows tenant status search => Service.listWorkflows tenant status search
  | updateWorkflow tenant id c => Service.updateWorkflow tenant id c
  | deleteWorkflow tenant id => Service.deleteWorkflow tenant id
  | toggleStatus tenant id => Service.toggleStatus tenant id
  | duplicateWorkflow tenant id creator => Service.duplicateWorkflow tenant id creator
  | exportWorkflow tenant id => Service.exportWorkflow tenant id
  | importWorkflow tenant p creator => Service.importWorkflow tenant p creator
  | execute tenant id request => Service.execute tenant id request
  | listExecutions s tenant workflow limit => Service.listExecutions s tenant workflow limit
  | getExecution tenant id => Service.getExecution tenant id
  | cancelExecution tenant id => Service.cancelExecution tenant id
  | close => do
    Service.close
    return .ok ()

end Operation

inductive Job where
  | operation (o : Operation)
  | run (w : Workflow) (e : Execution)

namespace Job

def Given : Job → Type
  | operation o => o.Given
  | run _ _ => Execution

def work : (j : Job) → Work (Except Failure j.Given)
  | operation o => o.work
  | run w e => do
    let r ← Engine.run w alone e
    leaveBackground e.id
    return r

/-- The task of a run does what the service does in the background; it only keeps what the run
gave. -/
theorem work_run (w : Workflow) (e : Execution) :
    ((run w e).work.bind fun _ => .done ()) = Service.runInBackground w e :=
  bind_assoc (Engine.run w alone e) (fun r => (leaveBackground e.id).bind fun _ => .done r) _

end Job

structure Task where
  job : Job
  past : List Exchange
  rest : Work (Except Failure job.Given)
  /-- What the next call waits for, if it has begun to wait. -/
  waiting : Option Wait

namespace Task

def start (j : Job) : Task := ⟨j, [], j.work, none⟩

def next? (t : Task) : Option Call :=
  match t.rest with
  | .done _ => none
  | .call c _ => some c

def registers (t : Task) : Bool :=
  match t.next? with
  | some (.register _) => true
  | _ => false

def started : Call → List Task
  | .startInBackground w e => [start (.run w e)]
  | _ => []

def go (w : World) (o : Chance) : Task → Option (Task × World × List Task)
  | ⟨_, _, .done _, _⟩ => none
  | ⟨job, past, .call c next, waiting⟩ =>
    let answered := (⟨job, past ++ [⟨c, (w.perform o c).1⟩], next (w.perform o c).1, none⟩,
      (w.perform o c).2, started c)
    match waiting with
    | some wait => if w.isOver wait then some answered else none
    | none =>
      match w.wait? c with
      | some wait => some (⟨job, past, .call c next, some wait⟩, w, [])
      | none => some answered

end Task

/-- Whether a call has not to wait, or has waited long enough. -/
def World.Ready (w : World) (c : Call) : Option Wait → Prop
  | some wait => w.isOver wait = true
  | none => w.wait? c = none

/-- How a task can go on. -/
inductive Goes (w : World) (o : Chance) : Task → Task → World → List Task → Prop
  | waits {job : Job} {past : List Exchange} {c : Call}
      {next : Reply c → Work (Except Failure job.Given)} {wait : Wait}
      (long : w.wait? c = some wait) :
      Goes w o ⟨job, past, .call c next, none⟩ ⟨job, past, .call c next, some wait⟩ w []
  | answered {job : Job} {past : List Exchange} {c : Call}
      {next : Reply c → Work (Except Failure job.Given)} {waiting : Option Wait}
      (ready : w.Ready c waiting) :
      Goes w o ⟨job, past, .call c next, waiting⟩
        ⟨job, past ++ [⟨c, (w.perform o c).1⟩], next (w.perform o c).1, none⟩
        (w.perform o c).2 (Task.started c)

theorem goes_of_go {w w' : World} {o : Chance} {task task' : Task} {new : List Task}
    (h : task.go w o = some (task', w', new)) : Goes w o task task' w' new := by
  obtain ⟨job, past, rest, waiting⟩ := task
  cases rest with
  | done a => cases h
  | call c next =>
      unfold Task.go at h
      dsimp only at h
      split at h
      · next wait =>
        split at h
        · next ready =>
          cases h
          exact .answered ready
        · cases h
      · split at h
        · next wait long =>
          cases h
          exact .waits long
        · next short =>
          cases h
          exact .answered short

structure State where
  world : World
  /-- The ids that were drawn. -/
  drawn : List String
  tasks : List Task

inductive Move where
  | submit (o : Operation)
  | go (i : Nat) (o : Chance)

namespace State

variable {s s' s'' : State} {m : Move}

def empty : State := ⟨.empty, [], []⟩

def move (s : State) : Move → Option State
  | .submit o => some { s with tasks := s.tasks ++ [.start (.operation o)] }
  | .go i o =>
    (s.tasks[i]?).bind fun task => (task.go s.world o).map fun (task, world, new) =>
      ⟨world, o.id :: s.drawn, s.tasks.set i task ++ new⟩

/-- Whether a move may happen: the store works, no id is drawn twice, and nobody comes in between
where a task has stored a new record and is about to register its run. -/
def allows (s : State) : Move → Bool
  | .submit _ => true
  | .go i o =>
    o.outage.isNone && !s.drawn.contains o.id && (s.tasks.eraseIdx i).all (!·.registers)

def play (s : State) : List Move → Option State
  | [] => some s
  | m :: ms => if s.allows m then (s.move m).bind (·.play ms) else none

/-- `s.Leads s'`: from `s`, the service can come to `s'`. -/
def Leads (s s' : State) : Prop := ∃ moves, s.play moves = some s'

def Reachable (s : State) : Prop := empty.Leads s

/-- What every move preserves holds wherever the service comes to. -/
theorem Leads.preserves {P : State → Prop} (h : s.Leads s') (start : P s)
    (step : ∀ {s m s'}, s.allows m = true → s.move m = some s' → P s → P s') : P s' := by
  obtain ⟨moves, h⟩ := h
  induction moves generalizing s with
  | nil =>
      cases h
      exact start
  | cons m moves ih =>
      rw [play] at h
      split at h
      · next allowed =>
        obtain ⟨s₁, moved, rest⟩ := Option.bind_eq_some_iff.mp h
        exact ih (step allowed moved start) rest
      · cases h

/-- A move in which a task goes on, while the others stay as they are. -/
structure Step (s s' : State) (task task' : Task) (others new : List Task) (o : Chance) : Prop where
  goes : Goes s.world o task task' s'.world new
  before : s.tasks.Perm (task :: others)
  after : s'.tasks.Perm (task' :: (new ++ others))
  drawn : s'.drawn = o.id :: s.drawn
  working : o.outage = none
  fresh : o.id ∉ s.drawn
  alone : ∀ t ∈ others, t.registers = false

theorem step_of_move (allowed : s.allows m = true) (h : s.move m = some s') :
    (∃ o, s' = { s with tasks := s.tasks ++ [.start (.operation o)] }) ∨
      ∃ task task' others new o, s.Step s' task task' others new o := by
  cases m with
  | submit o =>
      cases h
      exact .inl ⟨o, rfl⟩
  | go i o =>
      obtain ⟨task, found, h⟩ := Option.bind_eq_some_iff.mp h
      obtain ⟨⟨task', world, new⟩, went, rfl⟩ := Option.map_eq_some_iff.mp h
      obtain ⟨inside, rfl⟩ := List.getElem?_eq_some_iff.mp found
      simp only [allows, Bool.and_eq_true, Option.isNone_iff_eq_none, Bool.not_eq_true',
        List.all_eq_true, List.contains_eq_mem, decide_eq_false_iff_not] at allowed
      obtain ⟨⟨working, fresh⟩, alone⟩ := allowed
      refine .inr ⟨_, task', s.tasks.eraseIdx i, new, o, goes_of_go went, ?_, ?_, rfl, working,
        fresh, alone⟩
      · exact (List.getElem_cons_eraseIdx_perm inside).symm
      · have both := (List.set_perm_cons_eraseIdx inside task').append_right new
        refine both.trans (.cons task' List.perm_append_comm)

end State
end TriggerFlow.Server
