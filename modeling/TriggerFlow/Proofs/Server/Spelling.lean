import TriggerFlow.Proofs.Run.Calm
import TriggerFlow.Proofs.Run.Registry
import TriggerFlow.Rehearsal.Host
import TriggerFlow.Service

/-!
Cancelling under another spelling of an id. The store in a database looks up the UUID that a text
spells, so that every spelling finds the same record; the registry of live runs knows a run by one
spelling only. Under any other one the record of a live run is closed and the run goes on.
-/

namespace TriggerFlow.Rehearsal

open Program

variable {w w' : Surroundings} {s id tenant : String} {e : Execution} {finish : Moment}

namespace Progress

open Engine

variable {α β : Type}

/-- How far a piece of work comes that another one goes on from. -/
theorem advance_andThen (p : Work α) (f : α → Work β) (w : Surroundings) :
    advance (p >>= f) w = match advance p w with
      | (.ended a, w) => advance (f a) w
      | (.waits on rest, w) => (.waits on (rest >>= f), w) := by
  induction p generalizing w with
  | done a => rfl
  | call c next ih =>
      change advance (.call c fun r => next r >>= f) w = _
      simp only [advance]
      rcases w.arrive c with ⟨r | _ | on, w'⟩
      · exact ih r w'
      · exact ih _ _
      · rfl

theorem advance_ask_of_passes {c : Call} {r : Reply c} {w'' : Surroundings}
    (arrives : w.arrive c = (.passes, w')) (gives : w'.perform c = (r, w'')) :
    advance (ask c) w = (.ended r, w'') := by
  simp only [ask, advance, arrives, gives]

theorem advance_ask_of_waits {c : Call} {on : Surroundings.Wait}
    (arrives : w.arrive c = (.waits on, w')) : advance (ask c) w = (.waits on (ask c), w') := by
  simp only [ask, advance, arrives]

end Progress

section Statements

open Store Store.Sql

def selecting (key tenant : String) : Statement :=
  ⟨.fetchRow, "SELECT * FROM automation_executions WHERE id = $1 AND tenant_id = $2",
    [.uuid key, string tenant]⟩

def closing (key tenant : String) (finish : Moment) : Statement :=
  ⟨.fetchRow, markCancelledText,
    [string ExecutionStatus.cancelled.name, string EngineError.cancelledMessage,
      .value (.time finish), .uuid key, string tenant]⟩

theorem getExecution_of_key (spells : Uuid.key? s = some id) :
    Sql.answer (.getExecution s tenant) = (do
      return (← Program.ask (Call.send (selecting id tenant))) >>= optionalRow executionOfRow) := by
  rw [answer, Sql.getExecution, spells]
  rfl

theorem markCancelled_of_key (spells : Uuid.key? s = some id) :
    Sql.answer (.markCancelled s tenant finish) = (do
      return (← Program.ask (Call.send (closing id tenant finish))) >>=
        optionalRow executionOfRow) := by
  rw [answer, Sql.markCancelled, spells]
  rfl

end Statements

namespace Surroundings

open Engine Service Store Store.Sql

/-- Surroundings whose store is a database that no outage is planned for. -/
structure Connected (w : Surroundings) : Prop where
  database : w.backend = .database
  unplanned : w.outages.planned = []

/-- The surroundings when a call to the store has sent a statement. -/
def sent (w : Surroundings) (c : Store.Call) (s : Statement) : Surroundings :=
  { w with outages := (w.outages.arrive c.name).2, database := (w.database.send s).2 }

variable {k : Ticket}

theorem Connected.sent (h : w.Connected) (c : Store.Call) (s : Statement) :
    (w.sent c s).Connected :=
  ⟨h.database, h.unplanned⟩

/-- A call that saves nothing does not wait for a gate, and is answered as the store answers it. -/
theorem plain_of_saves_not {c : Store.Call} (saves_not : ∀ e, c ≠ .saveExecution e) :
    isEnd c = false ∧ ∀ w : Surroundings,
      w.write c = w ∧ w.storeShared c = w.storeNoted c ∧ w.noteSave c = w := by
  cases c with
  | saveExecution e => exact absurd rfl (saves_not e)
  | _ => exact ⟨rfl, fun _ => ⟨rfl, rfl, rfl⟩⟩

/-- What a call to the store that saves nothing comes to when it sends one statement. -/
theorem Connected.advance_store (h : w.Connected) {c : Store.Call} {st : Statement}
    {read : Value → Except Failure (Store.Result c)} {r : Store.Reply c}
    (saves_not : ∀ e, c ≠ .saveExecution e)
    (asks : Sql.answer c = (do return (← Program.ask (Sql.Call.send st)) >>= read))
    (given : (w.database.send st).1 >>= read = r) :
    Progress.advance (Engine.store c) w = (.ended r, w.sent c st) := by
  obtain ⟨ends, plain⟩ := plain_of_saves_not saves_not
  have arrives : w.arrive (.store c) =
      (.passes, { w with outages := (w.outages.arrive c.name).2 }) := by
    simp [arrive, (plain w).1, ends, Outages.arrive, h.unplanned]
  have stored : store { w with outages := (w.outages.arrive c.name).2 } c = (r, w.sent c st) := by
    unfold store
    split
    · next other => cases h.database.symm.trans other
    · rw [asks, ← given]
      rfl
  refine Progress.advance_ask_of_passes arrives ((plain _).2.1.trans ?_)
  simp only [storeNoted, stored, (plain _).2.2, ite_self]
  rfl

theorem Connected.advance_guarded (h : w.Connected) (action : String) (workflow : Option String)
    {c : Store.Call} {st : Statement} {read : Value → Except Failure (Store.Result c)}
    (saves_not : ∀ e, c ≠ .saveExecution e)
    (asks : Sql.answer c = (do return (← Program.ask (Sql.Call.send st)) >>= read)) :
    ∃ r : Store.Reply c, Progress.advance (guarded action workflow c) w =
      (.ended r, w.sent c st) ∧ ∀ a, (w.database.send st).1 >>= read = .ok a → r = .ok a := by
  rw [guarded, Progress.advance_andThen, h.advance_store saves_not asks rfl]
  cases (w.database.send st).1 >>= read with
  | ok a => exact ⟨_, rfl, fun _ same => same⟩
  | error f => cases f <;> exact ⟨_, rfl, nofun⟩

theorem Connected.advance_getExecution (h : w.Connected) (spells : Uuid.key? s = some id)
    (found : (w.database.send (selecting id tenant)).1 >>= optionalRow executionOfRow =
      .ok (some e)) :
    Progress.advance (Service.getExecution tenant s) w =
      (.ended (.ok e), w.sent (.getExecution s tenant) (selecting id tenant)) := by
  obtain ⟨r, looked, ok⟩ := h.advance_guarded ("load execution " ++ s) none
    (c := .getExecution s tenant) nofun (getExecution_of_key spells)
  obtain rfl := ok (some e) found
  rw [Service.getExecution, Progress.advance_andThen, looked]
  rfl

theorem advance_requestCancel {α : Type} (f : Bool → Work α) {b : Bool} {r : Runs}
    (asked : w.runs.requestCancel s = (b, r)) :
    Progress.advance (Engine.requestCancel s >>= f) w =
      Progress.advance (f b) { w with runs := r } := by
  have went : Progress.advance (Engine.requestCancel s) w = (.ended b, { w with runs := r }) := by
    change (_, { w with runs := (w.runs.requestCancel s).2 }) = _
    rw [asked]
    exact congrArg (fun b => (Progress.ended b, _)) (congrArg Prod.fst asked)
  rw [Progress.advance_andThen, went]

theorem advance_now {α : Type} (f : Moment → Work α) :
    Progress.advance (Engine.now >>= f) w =
      Progress.advance (f w.sources.now.1) { w with sources := w.sources.now.2 } :=
  Progress.advance_andThen ..

theorem advance_awaitFinished (ticket : w.runs.ticket? s = some k)
    (live : w.runs.isFinished k = false) :
    Progress.advance (awaitFinished s) w = (.waits (.finished k) (awaitFinished s), w) := by
  refine Progress.advance_ask_of_waits ?_
  simp [arrive, ticket, unlessOver, isOver, live]

/-- A cancellation by the spelling that a run is registered under asks the run to stop and waits
for it. One by another spelling of its key closes the record, and the run goes on as if nothing had
been asked. -/
theorem cancel_reaches_registered_spelling (connected : w.Connected)
    (spells : Uuid.key? s = some id) (holds : w.runs.Holds id k)
    (canonical : ∀ i, (w.runs.ticket? i).isSome = true → Uuid.key? i = some i)
    (live : w.runs.isFinished k = false)
    (found : (w.database.send (selecting id tenant)).1 >>= optionalRow executionOfRow =
      .ok (some e)) (running : e.isFinished = false) :
    (s = id → ∃ rest w',
      Progress.advance (cancelExecution tenant s) w = (.waits (.finished k) rest, w') ∧
      w'.runs.isCancelled k = true ∧
      w'.database.statements = w.database.statements ++ [selecting id tenant]) ∧
    (s ≠ id → ∃ r w', Progress.advance (cancelExecution tenant s) w = (.ended r, w') ∧
      w'.runs = w.runs ∧ w'.database.statements =
        w.database.statements ++ [selecting id tenant, closing id tenant w.sources.now.1]) := by
  rw [cancelExecution, Progress.advance_andThen, connected.advance_getExecution spells found]
  simp only [running, Bool.false_eq_true, if_false]
  generalize reached : w.sent (.getExecution s tenant) (selecting id tenant) = w₁
  have connected₁ : w₁.Connected := reached ▸ connected.sent _ _
  have runs : w₁.runs = w.runs := reached ▸ rfl
  have statements : w₁.database.statements = w.database.statements ++ [selecting id tenant] :=
    reached ▸ rfl
  have clock : w₁.sources = w.sources := reached ▸ rfl
  refine ⟨?_, fun other => ?_⟩
  · rintro rfl
    have ticket : w₁.runs.ticket? s = some k := runs ▸ holds.ticket
    have asked : w₁.runs.requestCancel s = (true, (w₁.runs.requestCancel s).2) := by
      rw [Runs.requestCancel_of_some ticket]
    have waits := advance_awaitFinished (w := { w₁ with runs := (w₁.runs.requestCancel s).2 })
      (Runs.ticket?_requestCancel.trans ticket)
      (Runs.isFinished_requestCancel.trans (runs ▸ live))
    rw [advance_requestCancel _ asked, if_pos rfl, Progress.advance_andThen, waits]
    exact ⟨_, _, rfl, Runs.isCancelled_requestCancel (runs ▸ holds), statements⟩
  · have unknown : w.runs.ticket? s = none := by
      cases known : w.runs.ticket? s with
      | none => rfl
      | some j =>
          have own := canonical s (known ▸ rfl)
          exact absurd (Option.some.inj (own.symm.trans spells)) other
    rw [advance_requestCancel _ (Runs.requestCancel_of_none (runs ▸ unknown)),
      if_neg Bool.false_ne_true, advance_now, Progress.advance_andThen]
    have connected₂ : Connected { w₁ with sources := w₁.sources.now.2 } :=
      ⟨connected₁.database, connected₁.unplanned⟩
    obtain ⟨r, marked, -⟩ := connected₂.advance_guarded ("cancel execution " ++ s)
      (some e.workflow) (c := .markCancelled s tenant w₁.sources.now.1) nofun
      (markCancelled_of_key spells)
    rw [marked]
    have all : w₁.database.statements ++ [closing id tenant w₁.sources.now.1] =
        w.database.statements ++ [selecting id tenant, closing id tenant w.sources.now.1] := by
      rw [statements, clock, List.append_assoc]
      rfl
    match r with
    | .ok (some _) | .ok none | .error _ => exact ⟨_, _, rfl, runs, all⟩

def firstId : String := "00000000-0001-4000-8000-000000000000"

def bareId : String := "00000000000140008000000000000000"

def firstRow (status : ExecutionStatus) (error completedAt : Value) : Value :=
  .obj [("id", .str firstId), ("workflow_id", .str "sample"), ("tenant_id", .str "tenant"),
    ("status", .str status.name), ("trigger_data", .str "\x7b\x7d"), ("steps", .str "[]"),
    ("error", error), ("started_at", .time (.utc 0)), ("completed_at", completedAt)]

def connectedSample : Surroundings :=
  { start 1000000 (.standIn ⟨[], []⟩) with
    backend := .database
    database := .ofScript [.ok .null, .ok (firstRow .running .null .null),
      .ok (firstRow .cancelled (.str EngineError.cancelledMessage) (.time (.utc 0)))] }

theorem bareId_spells : Uuid.key? bareId = some firstId := by
  decide +kernel

def registeredSample : Surroundings :=
  { connectedSample with
    runs := (Runs.empty.register firstId).2
    database := .ofScript [.ok (firstRow .running .null .null)] }

theorem bareId_closes_registered : ∃ r w',
    Progress.advance (cancelExecution "tenant" bareId) registeredSample = (.ended r, w') ∧
      w'.runs = registeredSample.runs ∧ w'.database.statements =
        [selecting firstId "tenant", closing firstId "tenant" registeredSample.sources.now.1] := by
  have canonical : ∀ i, (registeredSample.runs.ticket? i).isSome = true →
      Uuid.key? i = some i := by
    intro i registered
    by_cases same : i = firstId
    · rw [same]
      decide +kernel
    · have none : registeredSample.runs.ticket? i = none :=
        Runs.ticket?_register.trans (if_neg same)
      rw [none] at registered
      cases registered
  have found : (registeredSample.database.send (selecting firstId "tenant")).1 >>=
      optionalRow executionOfRow =
        .ok (some ⟨firstId, "sample", "tenant", .running, [], [], .utc 0, none, none⟩) := by rfl
  exact (cancel_reaches_registered_spelling (s := bareId) ⟨rfl, rfl⟩ bareId_spells
    Runs.holds_register canonical rfl found rfl).2 (by decide)

/-- What work that goes to its end gives, and the surroundings it leaves. -/
def given? {α : Type} : Progress (Except Failure α) × Surroundings → Option (α × Surroundings)
  | (.ended (.ok a), w) => some (a, w)
  | _ => none

theorem given?_eq_some {α : Type} {p : Progress (Except Failure α) × Surroundings} {a : α}
    (h : given? p = some (a, w)) : p = (.ended (.ok a), w) := by
  unfold given? at h
  split at h
  · cases h
    rfl
  · cases h

/-- A run is prepared and cancelled by the bare id, which closes the record; the run is still
registered and not asked to stop, and goes on through its actions to its end. -/
theorem cancelled_by_bareId_runs_on : ∃ e w c w' d w'',
    Progress.advance (prepare sample (.obj [])) connectedSample = (.ended (.ok e), w) ∧
    e.id = firstId ∧ Uuid.key? bareId = some firstId ∧
    Progress.advance (cancelExecution "tenant" bareId) w = (.ended (.ok c), w') ∧
    c.status = .cancelled ∧ w'.database.statements.map (·.text) =
      [saveExecutionText, (selecting firstId "tenant").text, markCancelledText] ∧
    w'.runs.ticket? firstId = some 0 ∧ w'.runs.isCancelled 0 = false ∧
    w'.invocations.length = 0 ∧
    Progress.advance (run sample alone e) w' = (.ended (.ok d), w'') ∧
    d.status = .completed ∧ w''.invocations.length = 2 := by
  have seen : ((given? (Progress.advance (prepare sample (.obj [])) connectedSample)).bind
      fun (e, w) => (given? (Progress.advance (cancelExecution "tenant" bareId) w)).bind
        fun (c, w') => (given? (Progress.advance (run sample alone e) w')).map
          fun (d, w'') => ((e.id, c.status, w'.database.statements.map (·.text)),
            (w'.runs.ticket? firstId, w'.runs.isCancelled 0, w'.invocations.length),
            (d.status, w''.invocations.length))) =
      some ((firstId, .cancelled,
          [saveExecutionText, (selecting firstId "tenant").text, markCancelledText]),
        (some 0, false, 0), (.completed, 2)) := by decide +kernel
  obtain ⟨⟨e, w⟩, prepared, seen⟩ := Option.bind_eq_some_iff.mp seen
  obtain ⟨⟨c, w'⟩, cancelled, seen⟩ := Option.bind_eq_some_iff.mp seen
  obtain ⟨⟨d, w''⟩, ran, seen⟩ := Option.map_eq_some_iff.mp seen
  simp only [Prod.mk.injEq] at seen
  obtain ⟨⟨named, closed, sent⟩, ⟨ticket, unasked, before⟩, done, after⟩ := seen
  exact ⟨e, w, c, w', d, w'', given?_eq_some prepared, named, bareId_spells,
    given?_eq_some cancelled, closed, sent, ticket, unasked, before, given?_eq_some ran, done,
    after⟩

end Surroundings
end TriggerFlow.Rehearsal
