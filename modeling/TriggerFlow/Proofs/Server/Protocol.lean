import TriggerFlow.Proofs.Run.Raising
import TriggerFlow.Proofs.Server.System

/-!
What every task keeps to. How far a task has come, as far as the others are concerned, is read off
the calls that were answered: what it found in the store, which record is its own and whether that
is registered, stored or counted. In every phase only a few calls can come next, and where a task
is done it has left the phases in which a record of its own is at work.
-/

namespace TriggerFlow.Server

open Engine Program

/-- A record with which a run of the workflow starts, under its ids. -/
structure Launched (w : Workflow) (e : Execution) : Prop extends Prepared w e where
  workflow : w.id = some e.workflow
  tenant : e.tenant = w.tenant

/-- The end of a run that started with `e`. -/
structure Ending (e d : Execution) : Prop where
  finished : d.isFinished = true
  id : d.id = e.id
  workflow : d.workflow = e.workflow
  tenant : d.tenant = e.tenant

inductive Phase where
  | idle
  | loaded (w : Workflow)
  | drew (w : Workflow) (id : String)
  | saved (w : Workflow) (e : Execution)
  | ready (w : Workflow) (e : Execution)
  /-- A run goes on under its ticket, with this exchange so far. -/
  | running (w : Workflow) (e : Execution) (k : Ticket) (t : List Exchange)
  | stored (d : Execution) (k : Ticket)
  | counted (d : Execution) (k : Ticket)
  | released (d : Execution)
  /-- A run was taken down. -/
  | aborted (w : Workflow) (e : Execution) (t : List Exchange)
  | handed (e : Execution)
  | found (id tenant : String)
  | asked (id tenant : String)
  | waiting (id tenant : String) (k : Ticket)
  | gone (id tenant : String)
  | seen (id : String) (e : Execution)
  /-- A mark was refused, since the record is finished. -/
  | refused (id : String)
  /-- The record is running, though no run of it is left. -/
  | stranded (id : String)

namespace Phase

/-- Nothing was done yet but to look for a workflow. -/
inductive Early : Phase → Prop
  | idle : Early idle
  | loaded (w : Workflow) : Early (loaded w)

def isLive : Phase → Bool
  | saved _ _ | ready _ _ | running _ _ _ _ | stored _ _ | counted _ _ => true
  | _ => false

theorem Early.isLive {p : Phase} (h : Early p) : p.isLive = false := by
  cases h <;> rfl

def look (p : Phase) : Exchange → Phase
  | ⟨.store (.getWorkflow _ _), .ok (some w)⟩ => loaded w
  | ⟨.store (.getExecution id tenant), .ok (some e)⟩ =>
    if e.isFinished then seen id e else found id tenant
  | _ => p

def after (p : Phase) (x : Exchange) : Phase :=
  match p with
  | idle => p.look x
  | loaded w => match x with
    | ⟨.freshId, id⟩ => drew w id
    | _ => p.look x
  | drew w _ => match x with
    | ⟨.store (.saveExecution e), _⟩ => saved w e
    | ⟨.store (.createWorkflow _), _⟩ => idle
    | _ => p
  | saved w e => match x with
    | ⟨.register _, _⟩ => ready w e
    | _ => p
  | ready w e => match x with
    | ⟨.attach _, k⟩ => running w e k [x]
    | ⟨.startInBackground _ _, _⟩ => handed e
    | _ => p
  | running w e k t => match x with
    | ⟨.store (.saveExecution d), _⟩ =>
      if d.isFinished then stored d k else running w e k (t ++ [x])
    | ⟨.release _ _, _⟩ => aborted w e (t ++ [x])
    | _ => running w e k (t ++ [x])
  | stored d k => match x with
    | ⟨.store (.incrementRunCount _ _ _), _⟩ => counted d k
    | ⟨.release _ _, _⟩ => released d
    | _ => p
  | counted d _ => match x with
    | ⟨.release _ _, _⟩ => released d
    | _ => p
  | found id tenant => match x with
    | ⟨.requestCancel _, true⟩ => asked id tenant
    | ⟨.requestCancel _, false⟩ => gone id tenant
    | _ => p
  | asked id tenant | waiting id tenant _ => match x with
    | ⟨.awaitFinished _, _⟩ => gone id tenant
    | _ => p
  | gone id _ => match x with
    | ⟨.store (.getExecution _ _), .ok (some e)⟩ => if e.isFinished then seen id e else stranded id
    | ⟨.store (.markCancelled _ _ _), .ok (some e)⟩ => seen id e
    | ⟨.store (.markCancelled _ _ _), .ok none⟩ => refused id
    | _ => p
  | p => p

end Phase

/-- Calls that any task may make before a record is its business. -/
def Mild : Call → Prop
  | .store (.getWorkflow _ _) | .store (.listWorkflows _ _ _) | .store (.updateWorkflow _) => True
  | .store (.deleteWorkflow _ _) | .store (.listExecutions _ _ _) | .awaitBackground => True
  | .store (.createWorkflow w) => w.id = none ∧ w.runCount = 0
  | _ => False

/-- The calls that can come next. -/
inductive Permits : Phase → Call → Prop
  | mild {p : Phase} (early : p.Early) {c : Call} (mild : Mild c) : Permits p c
  | lookUp (id tenant : String) : Permits .idle (.store (.getExecution id tenant))
  | draw (w : Workflow) : Permits (.loaded w) .freshId
  | date (w : Workflow) (id : String) : Permits (.drew w id) .now
  | copy (w : Workflow) (id : String) {v : Workflow} (named : v.id = some id)
      (uncounted : v.runCount = 0) : Permits (.drew w id) (.store (.createWorkflow v))
  | begin {w : Workflow} {e : Execution} (launched : Launched w e) :
      Permits (.drew w e.id) (.store (.saveExecution e))
  | register (w : Workflow) (e : Execution) : Permits (.saved w e) (.register e.id)
  | announce (w : Workflow) (e : Execution) (execution event : String) (data : Fields) :
      Permits (.ready w e) (.notify execution event data)
  | hand {w : Workflow} {e : Execution} (launched : Launched w e) :
      Permits (.ready w e) (.startInBackground w e)
  | attach (w : Workflow) (e : Execution) : Permits (.ready w e) (.attach e.id)
  | work (w : Workflow) {e : Execution} {k : Ticket} (t : List Exchange) {c : Call} {r : Reply c}
      (working : Working e k ⟨c, r⟩) : Permits (.running w e k t) c
  | finish (w : Workflow) {e d : Execution} (k : Ticket) (t : List Exchange) (ending : Ending e d) :
      Permits (.running w e k t) (.store (.saveExecution d))
  | abort {w : Workflow} {e : Execution} {k : Ticket} {t : List Exchange}
      (raised : Raised w e (t ++ [⟨.release e.id k, ()⟩])) :
      Permits (.running w e k t) (.release e.id k)
  | count {d : Execution} (k : Ticket) (completed : d.status = .completed) (finish : Moment) :
      Permits (.stored d k) (.store (.incrementRunCount (some d.workflow) d.tenant finish))
  | release {d : Execution} (k : Ticket) (incomplete : d.status ≠ .completed) :
      Permits (.stored d k) (.release d.id k)
  | releaseCounted (d : Execution) (k : Ticket) : Permits (.counted d k) (.release d.id k)
  | farewell (d : Execution) (execution event : String) (data : Fields) :
      Permits (.released d) (.notify execution event data)
  | leave (d : Execution) (id : String) : Permits (.released d) (.leaveBackground id)
  | leaveAborted (w : Workflow) (e : Execution) (t : List Exchange) (id : String) :
      Permits (.aborted w e t) (.leaveBackground id)
  | ask (id tenant : String) : Permits (.found id tenant) (.requestCancel id)
  | await (id tenant : String) : Permits (.asked id tenant) (.awaitFinished id)
  | lookAgain (id tenant : String) : Permits (.gone id tenant) (.store (.getExecution id tenant))
  | dateEnd (id tenant : String) : Permits (.gone id tenant) .now
  | mark (id tenant : String) (finish : Moment) :
      Permits (.gone id tenant) (.store (.markCancelled id tenant finish))

/-- The store does what it is asked for if that can be done. An update may miss its workflow, and
clocks of different kinds cannot be compared. -/
def Kept : Exchange → Prop
  | ⟨.store (.markCancelled _ _ _), .ok (some e)⟩ => e.status = .cancelled
  | ⟨.store (.updateWorkflow _), _⟩ | ⟨.store (.listExecutions _ _ _), _⟩ => True
  | ⟨.store _, .error _⟩ => False
  | _ => True

/-- An exchange keeps to the protocol from a phase on and leads to a phase in `Q`, as long as the
store works. -/
def Lawful (Q : Phase → Prop) : Phase → List Exchange → Prop
  | p, [] => Q p
  | p, x :: t => Kept x → Permits p x.1 ∧ Lawful Q (p.after x) t

theorem Lawful.imp {Q Q' : Phase → Prop} {p : Phase} {t : List Exchange} (h : Lawful Q p t)
    (imp : (∀ x ∈ t, Kept x) → ∀ q, Q q → Q' q) : Lawful Q' p t := by
  induction t generalizing p with
  | nil => exact imp (List.forall_mem_nil _) p h
  | cons x t ih =>
      intro kept
      refine ⟨(h kept).1, ih (h kept).2 fun all => imp ?_⟩
      rw [List.forall_mem_cons]
      exact ⟨kept, all⟩

theorem lawful_append {Q : Phase → Prop} {p : Phase} {t u : List Exchange} :
    Lawful Q p (t ++ u) ↔ Lawful (fun q => Lawful Q q u) p t := by
  induction t generalizing p with
  | nil => rfl
  | cons x t ih => simp only [List.cons_append, Lawful, ih]

theorem Lawful.rest {Q : Phase → Prop} {p : Phase} {t u : List Exchange} (h : Lawful Q p (t ++ u))
    (kept : ∀ x ∈ t, Kept x) : Lawful Q (t.foldl Phase.after p) u := by
  induction t generalizing p with
  | nil => exact h
  | cons x t ih =>
      rw [List.forall_mem_cons] at kept
      exact ih (h kept.1).2 kept.2

/-- A program keeps to the protocol, whatever is answered. -/
def Obeys {α : Type} (Q : α → Phase → Prop) (p : Phase) (prog : Work α) : Prop :=
  ∀ t a, prog.Ends t a → Lawful (Q a) p t

section
variable {α β : Type} {Q : α → Phase → Prop} {p : Phase}

theorem obeys_pure {a : α} (h : Q a p) : Obeys Q p (pure a : Work α) := by
  intro t b ends
  obtain ⟨rfl, rfl⟩ := ends_pure.mp ends
  exact h

theorem obeys_ask {c : Call} {Q : Reply c → Phase → Prop}
    (h : ∀ r, Kept ⟨c, r⟩ → Permits p c ∧ Q r (p.after ⟨c, r⟩)) : Obeys Q p (Program.ask c) := by
  intro t r ends
  obtain rfl := ends_ask.mp ends
  exact h r

theorem obeys_bind {prog : Work α} {f : α → Work β} {Q : β → Phase → Prop}
    (h : Obeys (fun a q => Obeys Q q (f a)) p prog) : Obeys Q p (prog >>= f) := by
  intro t b ends
  obtain ⟨a, t₁, t₂, first, rest, rfl⟩ := ends_andThen.mp ends
  rw [lawful_append]
  exact (h t₁ a first).imp fun _ q obeys => obeys t₂ b rest

theorem Obeys.imp {Q' : α → Phase → Prop} {prog : Work α} (h : Obeys Q p prog)
    (imp : ∀ a q, Q a q → Q' a q) : Obeys Q' p prog :=
  fun t a ends => (h t a ends).imp fun _ q => imp a q

end

def Harmless {α : Type} (prog : Work α) : Prop :=
  ∀ p : Phase, p.Early → Obeys (fun _ q => q.Early) p prog

section
variable {α β : Type}

theorem Phase.Early.after_eq {p : Phase} {x : Exchange} (early : p.Early) (mild : Mild x.1) :
    p.after x = p.look x := by
  cases early with
  | idle => rfl
  | loaded w =>
      unfold Phase.after
      dsimp only
      split
      · exact mild.elim
      · rfl

theorem Phase.Early.after {p : Phase} {x : Exchange} (early : p.Early) (mild : Mild x.1) :
    (p.after x).Early := by
  rw [early.after_eq mild]
  unfold look
  split
  · exact .loaded _
  · exact mild.elim
  · exact early

theorem harmless_pure (a : α) : Harmless (pure a : Work α) :=
  fun _ early => obeys_pure early

theorem harmless_ask {c : Call} (mild : Mild c) : Harmless (Program.ask c) :=
  fun _ early => obeys_ask fun _ _ => ⟨.mild early mild, early.after mild⟩

theorem harmless_bind {prog : Work α} {f : α → Work β} (h : Harmless prog)
    (rest : ∀ a, Harmless (f a)) : Harmless (prog >>= f) :=
  fun p early => obeys_bind ((h p early).imp fun a q early => rest a q early)

end
end TriggerFlow.Server
