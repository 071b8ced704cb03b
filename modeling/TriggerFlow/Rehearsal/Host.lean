import TriggerFlow.Service
import TriggerFlow.Rehearsal.Surroundings

/-!
A host that runs the engine's work in turns. A job keeps its turn until a call of it has to wait;
when what it waits for has come it gets another turn, after those who are ready already. Runs in the
background become jobs of their own.
-/

namespace TriggerFlow.Rehearsal

open Engine

structure Job (α : Type) where
  name : Option String
  work : Work (Option α)

/-- How far a job has come: to its end, or to a call that has to wait. -/
inductive Progress (α : Type) where
  | ended (a : α)
  | waits (on : Surroundings.Wait) (rest : Work α)

namespace Progress

/-- Run a piece of work until it ends or has to wait. -/
def advance {α : Type} : Work α → Surroundings → Progress α × Surroundings
  | .done a, w => (.ended a, w)
  | .call c next, w =>
    match w.arrive c with
    | (.answered r, w) => advance (next r) w
    | (.passes, w) => advance (next (w.perform c).1) (w.perform c).2
    | (.waits on, w) => (.waits on (.call c next), w)

def resume {α : Type} : Work α → Surroundings → Progress α × Surroundings
  | .done a, w => (.ended a, w)
  | .call c next, w => advance (next (w.perform c).1) (w.perform c).2

end Progress

/-- A job that is ready for its turn; one that has waited goes on with its call. -/
structure Turn (α : Type) where
  job : Job α
  hasWaited : Bool

structure Host (α : Type) where
  surroundings : Surroundings
  ready : List (Turn α)
  /-- The jobs that wait, in the order in which they began to. -/
  waiting : List (Surroundings.Wait × Job α)
  results : List (String × α)

namespace Host

variable {α : Type}

def inSurroundings (w : Surroundings) : Host α := ⟨w, [], [], []⟩

def submit (h : Host α) (name : String) (work : Work α) : Host α :=
  { h with ready := h.ready ++ [⟨⟨some name, some <$> work⟩, false⟩] }

def backgroundJob (w : Workflow) (e : Execution) : Job α :=
  ⟨none, (fun _ => none) <$> Service.runInBackground w e⟩

def collectStarted (h : Host α) : Host α :=
  { h with
    surroundings := { h.surroundings with started := [] }
    ready := h.ready ++ h.surroundings.started.map fun (w, e) => ⟨backgroundJob w e, false⟩ }

def wake (h : Host α) : Host α :=
  let (woken, waiting) := h.waiting.partition fun p => h.surroundings.isOver p.1
  { h with waiting, ready := h.ready ++ woken.map fun p => ⟨p.2, true⟩ }

def record (h : Host α) (name : Option String) : Progress (Option α) → Host α
  | .ended (some a) => { h with results := h.results ++ (name.map fun n => (n, a)).toList }
  | .ended none => h
  | .waits on rest => { h with waiting := h.waiting ++ [(on, ⟨name, rest⟩)] }

def turn (h : Host α) : Host α :=
  match h.ready with
  | [] => h
  | t :: rest =>
    let run := if t.hasWaited then Progress.resume else Progress.advance
    let (progress, surroundings) := run t.job.work h.surroundings
    (({ h with surroundings, ready := rest }.record t.job.name progress).collectStarted).wake

def turns : Nat → Host α → Host α
  | 0, h => h
  | n + 1, h => if h.ready.isEmpty then h else turns n h.turn

/-- Give turns until nobody is ready. A job waits for at most one thing that another job brings
about, and may start one run; so a few turns for each job are enough. -/
def settle (h : Host α) : Host α :=
  let h := h.wake
  turns (4 * (h.ready.length + h.waiting.length + 1)) h

def run (h : Host α) (name : String) (work : Work α) : Host α := (h.submit name work).settle

def take (h : Host α) (name : String) : Option α × Host α :=
  (h.results.lookup name, { h with results := h.results.filter (·.1 != name) })

def isPending (h : Host α) (name : String) : Bool :=
  h.waiting.any fun p => p.2.name == some name

def gateName? : Surroundings.Wait → Option String
  | .gate name => some name
  | _ => none

def gates (h : Host α) : List String := h.waiting.filterMap fun p => gateName? p.1

/-- The waiting jobs without the one at the gate of a given number, and that one. -/
def openAt : Nat → List (Surroundings.Wait × Job α) →
    Option (String × Job α × List (Surroundings.Wait × Job α))
  | _, [] => none
  | i, p :: rest =>
    match gateName? p.1, i with
    | some name, 0 => some (name, p.2, rest)
    | some _, i + 1 => (openAt i rest).map fun (name, job, others) => (name, job, p :: others)
    | none, i => (openAt i rest).map fun (name, job, others) => (name, job, p :: others)

def release (h : Host α) (i : Nat) : Option String × Host α :=
  match openAt i h.waiting with
  | some (name, job, waiting) =>
    (some name, settle { h with waiting, ready := h.ready ++ [⟨job, true⟩] })
  | none => (none, h)

/-- Let the last saves of runs through from now on. -/
def releaseEnds (h : Host α) : Host α :=
  settle { h with surroundings := { h.surroundings with holdsEnds := false } }

def modify (h : Host α) (f : Surroundings → Surroundings) : Host α :=
  { h with surroundings := f h.surroundings }

end Host
end TriggerFlow.Rehearsal
