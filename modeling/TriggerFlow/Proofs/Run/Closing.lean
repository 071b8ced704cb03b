import TriggerFlow.Proofs.Run.Calm
import TriggerFlow.Proofs.Run.Preparation
import TriggerFlow.Proofs.Store.Records

/-!
Runs whose record others may close. The store ignores the saves of a finished record without saying
so, and a run does not look: it goes on to the end it would have come to, returns that and counts it
if it is a completion, while the store shows the record as it was closed.
-/

namespace TriggerFlow.Engine

open Program
open Store (Memory)

variable {w : Workflow} {ticket : Ticket} {e l d : Execution} {t t₀ : List Exchange} {x : Exchange}
  {m m' m₀ m₁ : Memory} {id : String} {a : Option Execution}

/-- How a store in memory answers the call of an exchange; of any other call it knows nothing. -/
def Gives (m : Memory) : Exchange → Memory → Prop
  | ⟨.store c, reply⟩, m' => ∃ time fresh, m.reply time fresh c = (reply, m')
  | _, m' => m' = m

def Silent : Exchange → Prop
  | ⟨.store _, _⟩ => False
  | _ => True

theorem Gives.eq_of_silent (h : Gives m x m') (silent : Silent x) : m' = m := by
  obtain ⟨c, reply⟩ := x
  cases c with
  | store => exact silent.elim
  | _ => exact h

/-- Others who mark an execution as cancelled. -/
inductive Marks (id : String) : Memory → Memory → Prop
  | mark (m : Memory) (tenant : String) (finish : Moment) :
      Marks id m (m.markCancelled id tenant finish).2

/-- An exchange of a run with a store in which others may close the record of this id. -/
abbrev Closable (id : String) : Memory → List Exchange → Memory → Prop := Amid Gives (Marks id)

/-- A record that was closed. -/
def Closed (e : Execution) : Prop :=
  e.status = .cancelled ∧ e.error = some EngineError.cancelledMessage

theorem Closed.isFinished (h : Closed e) : e.isFinished = true := by
  rw [Execution.isFinished, h.1]
  rfl

/-- The stored record of a run before its end: as the run left it, or closed. -/
def Standing (e : Execution) (m : Memory) : Prop :=
  ∃ l, m.executions.get? e.id = some l ∧ (OnlySteps e l ∨ Closed l)

theorem Marks.get?_of_new (h : Marks id m m') (new : m.executions.get? id = none) :
    m'.executions.get? id = none := by
  cases h with
  | mark tenant finish =>
      obtain h | ⟨l, old, -⟩ := m.markCancelled_cases id tenant finish
      · rw [h, new]
      · cases new.symm.trans old

theorem Marks.get?_of_finished (h : Marks id m m') (stored : m.executions.get? id = some l)
    (finished : l.isFinished = true) : m'.executions.get? id = some l := by
  cases h with
  | mark tenant finish => rw [Memory.markCancelled_of_finished stored finished, stored]

theorem Gives.get?_of_finished (h : Gives m x m') (stored : m.executions.get? id = some l)
    (finished : l.isFinished = true) : m'.executions.get? id = some l := by
  obtain ⟨c, reply⟩ := x
  cases c with
  | store c =>
      obtain ⟨time, fresh, answer⟩ := h
      obtain rfl : (m.reply time fresh c).2 = m' := congrArg Prod.snd answer
      exact Memory.get?_reply_of_finished stored finished
  | _ =>
      obtain rfl : m' = m := h
      exact stored

/-- A finished record stays as it is, whatever the run and the others do. -/
theorem Closable.get?_of_finished (h : Closable id m t m') (stored : m.executions.get? id = some l)
    (finished : l.isFinished = true) : m'.executions.get? id = some l :=
  Amid.preserves (P := fun m => m.executions.get? id = some l) h stored
    (fun marks stored => marks.get?_of_finished stored finished)
    fun _ gives stored => gives.get?_of_finished stored finished

theorem Gives.saving {reply : Except Failure Unit} (h : Gives m (saving e reply) m') :
    m' = m.saveExecution e := by
  obtain ⟨time, fresh, answer⟩ := h
  exact (congrArg Prod.snd answer).symm

theorem Gives.executions_eq {c : Store.Call} {reply : Reply (.store c)}
    (h : Gives m ⟨.store c, reply⟩ m') (unwritten : Memory.writes? c = none) :
    m'.executions = m.executions := by
  obtain ⟨time, fresh, answer⟩ := h
  obtain rfl : (m.reply time fresh c).2 = m' := congrArg Prod.snd answer
  exact Memory.executions_reply unwritten

/-- The store shows this record under the id, or one that somebody closed. -/
def Displays (id : String) (a : Option Execution) (m : Memory) : Prop :=
  m.executions.get? id = a ∨ ∃ c, Closed c ∧ m.executions.get? id = some c

theorem Marks.displays (h : Marks id m m') (shown : Displays id a m) : Displays id a m' := by
  obtain same | ⟨c, closed, stored⟩ := shown
  · cases h with
    | mark tenant finish =>
        obtain h | ⟨l, -, -, -, h⟩ := m.markCancelled_cases id tenant finish
        · rw [h]
          exact .inl same
        · rw [h]
          exact .inr ⟨Memory.cancelled l finish, ⟨rfl, rfl⟩,
            (Keyed.get?_put ..).trans (if_pos rfl)⟩
  · exact .inr ⟨c, closed, h.get?_of_finished stored closed.isFinished⟩

theorem Marks.standing (h : Marks e.id m m')
    (standing : Standing e m) : Standing e m' := by
  obtain ⟨l, stored, here⟩ := standing
  obtain same | ⟨c, closed, stored⟩ := h.displays (.inl stored)
  · exact ⟨l, same, here⟩
  · exact ⟨c, stored, .inr closed⟩

/-- A save is heeded unless the record was closed. -/
theorem Displays.save (shown : Displays d.id a m) (unfinished : ∀ b ∈ a, b.isFinished = false) :
    (m.saveExecution d).executions.get? d.id = some d ∨
      ∃ l, Closed l ∧ m.executions.get? d.id = some l ∧
        (m.saveExecution d).executions.get? d.id = some l := by
  obtain same | ⟨l, closed, stored⟩ := shown
  · refine .inl ?_
    rw [Memory.get?_saveExecution (fun b hb => unfinished b (same ▸ hb)), if_pos rfl]
  · refine .inr ⟨l, closed, stored, ?_⟩
    rw [Memory.saveExecution_of_finished stored closed.isFinished, stored]

theorem Standing.save (running : e.status = .running) (standing : Standing e m)
    (same : d.id = e.id) :
    (m.saveExecution d).executions.get? e.id = some d ∨
      ∃ l, Closed l ∧ m.executions.get? e.id = some l ∧
        (m.saveExecution d).executions.get? e.id = some l := by
  obtain ⟨l, stored, steps | closed⟩ := standing
  all_goals rw [← same] at stored ⊢
  · have shown : Displays d.id (some l) m := .inl stored
    refine shown.save ?_
    rintro _ ⟨⟩
    exact Execution.isFinished_eq_false.mpr (steps.status.trans running)
  · have shown : Displays d.id none m := .inr ⟨l, closed, stored⟩
    exact shown.save nofun

theorem Working.standing (running : e.status = .running) (h : Working e ticket x)
    (gives : Gives m x m') (standing : Standing e m) : Standing e m' := by
  cases h with
  | @saved l steps reply =>
      rw [gives.saving]
      obtain stored | ⟨l, closed, -, stored⟩ := standing.save running steps.id
      · exact ⟨l, stored, .inl steps⟩
      · exact ⟨l, stored, .inr closed⟩
  | drawn | timed | told | invoked | polled =>
      obtain rfl : m' = m := gives
      exact standing

theorem Closable.of_silent {P : Memory → Prop} (h : Closable id m t m')
    (silent : ∀ x ∈ t, Silent x) (start : P m) (marks : ∀ {m m'}, Marks id m m' → P m → P m') :
    P m' :=
  Amid.preserves h start marks fun hx gives here => gives.eq_of_silent (silent _ hx) ▸ here

theorem Prepares.standing {data : Value} (h : Prepares w data t (.ok e))
    (company : Closable e.id m t m') (new : m.executions.get? e.id = none) : Standing e m' := by
  cases h with
  | registered fresh start given made active check k told =>
      obtain ⟨m₁, first, rest⟩ := Amid.of_append
        (t := [(⟨.freshId, fresh⟩ : Exchange), ⟨.now, start⟩]) company
      obtain ⟨m₂, m₃, idle, gives, after⟩ := Amid.of_cons rest
      have absent : m₁.executions.get? e.id = none :=
        Closable.of_silent first (by simp [Silent]) new Marks.get?_of_new
      have absent : m₂.executions.get? e.id = none :=
        Closable.of_silent idle (List.forall_mem_nil _) absent Marks.get?_of_new
      have stored : Standing e m₃ := by
        refine ⟨e, ?_, .inl (onlySteps_refl e)⟩
        rw [gives.saving, Memory.get?_saveExecution (by simp [absent]), if_pos rfl]
      exact Closable.of_silent after (by simp [Silent, telling]) stored Marks.standing

theorem Concludes.ends {s : Execution × Option Stop} {c : List Exchange}
    (h : Concludes w ticket s c (.ok d)) :
    ∃ finish rest, c = ⟨.now, finish⟩ :: saving d (.ok ()) :: rest ∧ d.id = s.1.id ∧
      d.isFinished = true ∧ countings c = if d.status = .completed then 1 else 0 := by
  cases h with
  | @counted l ended stop taken completed finish reply =>
      have finished : ended.isFinished = true := concluded_isFinished taken
      refine ⟨finish, _, rfl, (concluded_id taken :), finished, ?_⟩
      rw [if_pos completed]
      rfl
  | @closed l ended stop taken incomplete finish reply =>
      have finished : ended.isFinished = true := concluded_isFinished taken
      refine ⟨finish, _, rfl, (concluded_id taken :), finished, ?_⟩
      rw [if_neg incomplete]
      rfl

/-- What the store shows in the end of a run that gave `d`: that, or a record that was closed before
the run came to save its end. -/
structure Shows (e d : Execution) (m₀ : Memory) (t : List Exchange) (c : Execution) : Prop where
  finished : c.isFinished = true
  shown : c = d ∨ Closed c ∧ ∃ t₁ t₂ m, t = t₁ ++ saving d (.ok ()) :: t₂ ∧
    Closable e.id m₀ t₁ m ∧ m.executions.get? e.id = some c

/-- A run that ends counts what it returns, and the store shows what it returns unless somebody
closed the record before its end was saved. -/
theorem returned_unless_closed {data : Value} (accepted : (prepare w data).Ends t₀ (.ok e))
    (ran : (run w alone e).Ends t (.ok d)) (company : Closable e.id m₀ (t₀ ++ t) m₁)
    (new : m₀.executions.get? e.id = none) :
    countings (t₀ ++ t) = (if d.status = .completed then 1 else 0) ∧
      ∃ c, m₁.executions.get? e.id = some c ∧ Shows e d m₀ (t₀ ++ t) c := by
  have prepared := prepared_of_ends accepted
  have prepares := prepares_of_ends accepted
  obtain ⟨u, s, course⟩ := course_of_ends ran
  cases course with
  | @intro ticket u s c r traverses concludes =>
  obtain ⟨finish, rest, rfl, sameId, finished, counted⟩ := concludes.ends
  refine ⟨?_, ?_⟩
  · rw [countings_append, countings_append, prepares.countings, counted, Nat.zero_add]
    exact (congrArg (· + _) traverses.countings).trans (Nat.zero_add _)
  have split : t₀ ++ (⟨.attach e.id, ticket⟩ :: exchanges u ++
      ⟨.now, finish⟩ :: saving d (.ok ()) :: rest) =
      (t₀ ++ (⟨.attach e.id, ticket⟩ :: (exchanges u ++ [⟨.now, finish⟩]))) ++
        saving d (.ok ()) :: rest := by
    simp
  rw [split] at company ⊢
  obtain ⟨m₂, walked, saved⟩ := Amid.of_append company
  obtain ⟨m₃, m₄, idle, gives, after⟩ := Amid.of_cons saved
  have before := Amid.append walked idle
  rw [List.append_nil] at before
  have standing : Standing e m₃ := by
    obtain ⟨m₅, first, onward⟩ := Amid.of_append before
    refine Amid.preserves (P := Standing e) onward (prepares.standing first new) Marks.standing ?_
    intro m x m' hx gives standing
    rw [List.mem_cons, List.mem_append, List.mem_singleton] at hx
    obtain rfl | hx | rfl := hx
    · exact gives.eq_of_silent trivial ▸ standing
    · exact (traverses.working x hx).standing prepared.running gives standing
    · exact gives.eq_of_silent trivial ▸ standing
  have same : d.id = e.id := sameId.trans traverses.onlySteps.id
  obtain rfl : m₄ = m₃.saveExecution d := gives.saving
  obtain stored | ⟨l, closed, earlier, stored⟩ := standing.save prepared.running same
  · exact ⟨d, Closable.get?_of_finished after stored finished, finished, .inl rfl⟩
  · exact ⟨l, Closable.get?_of_finished after stored closed.isFinished, closed.isFinished,
      .inr ⟨closed, _, rest, m₃, rfl, before, earlier⟩⟩

def storing : (c : Call) → Memory → Reply c × Memory
  | .store c, m => m.reply (.utc 0) "" c
  | c, m => ((calm c ()).1, m)

theorem gives_storing (c : Call) (m : Memory) : Gives m ⟨c, (storing c m).1⟩ (storing c m).2 := by
  cases c with
  | store c => exact ⟨.utc 0, "", rfl⟩
  | _ => rfl

def sampleStore : Memory := ⟨[("sample", sample)], []⟩

def preparedStore : Memory := ((prepare sample .null).run storing sampleStore).2

/-- The store of the prepared sample after somebody else closed its record. -/
def closedStore : Memory := (preparedStore.markCancelled sampleRecord.id "tenant" (.utc 0)).2

theorem sample_accepted :
    (prepare sample .null).Ends ((prepare sample .null).exchange storing sampleStore)
      (.ok sampleRecord) :=
  ends_run storing (prepare sample .null) sampleStore

theorem company_prepared : Closable sampleRecord.id sampleStore
    ((prepare sample .null).exchange storing sampleStore) preparedStore :=
  amid_exchange gives_storing (prepare sample .null) sampleStore

theorem exists_ok {r : Except Failure Execution} {status : ExecutionStatus}
    (h : r.toOption.map (·.status) = some status) : ∃ d, r = .ok d ∧ d.status = status := by
  cases r with
  | error f => cases h
  | ok d => exact ⟨d, rfl, Option.some.inj h⟩

/-- Where nobody closes it, the record of the sample is shown as it was returned. -/
theorem sample_returned : ∃ (d c : Execution) (m : Memory),
    (run sample alone sampleRecord).Ends
      ((run sample alone sampleRecord).exchange storing preparedStore) (.ok d) ∧
    m.executions.get? sampleRecord.id = some c ∧ Shows sampleRecord d sampleStore
      ((prepare sample .null).exchange storing sampleStore ++
        (run sample alone sampleRecord).exchange storing preparedStore) c := by
  have ran := ends_run storing (run sample alone sampleRecord) preparedStore
  obtain ⟨d, hd, -⟩ := exists_ok
    (show ((run sample alone sampleRecord).run storing preparedStore).1.toOption.map (·.status) =
      some .completed by decide +kernel)
  rw [hd] at ran
  have company := company_prepared.append
    (amid_exchange gives_storing (run sample alone sampleRecord) preparedStore)
  obtain ⟨-, c, stored, shows⟩ := returned_unless_closed sample_accepted ran company rfl
  exact ⟨d, c, _, ran, stored, shows⟩

/-- A run goes on to its end under a record that was closed: it returns a completion and counts it,
while the store shows the execution as cancelled. -/
theorem closed_run_is_counted : ∃ (d c : Execution) (v : Workflow) (m : Memory),
    (prepare sample .null).Ends ((prepare sample .null).exchange storing sampleStore)
      (.ok sampleRecord) ∧
    (run sample alone sampleRecord).Ends
      ((run sample alone sampleRecord).exchange storing closedStore) (.ok d) ∧
    Closable sampleRecord.id sampleStore ((prepare sample .null).exchange storing sampleStore ++
      (run sample alone sampleRecord).exchange storing closedStore) m ∧
    d.status = .completed ∧ m.executions.get? sampleRecord.id = some c ∧ c.status = .cancelled ∧
    sample.runCount = 0 ∧ m.workflow? "sample" "tenant" = some v ∧ v.runCount = 1 := by
  have ran := ends_run storing (run sample alone sampleRecord) closedStore
  obtain ⟨d, hd, completed⟩ := exists_ok
    (show ((run sample alone sampleRecord).run storing closedStore).1.toOption.map (·.status) =
      some .completed by decide +kernel)
  rw [hd] at ran
  have company := company_prepared.append (.other (.mark _ "tenant" (.utc 0))
    (amid_exchange gives_storing (run sample alone sampleRecord) closedStore))
  obtain ⟨c, stored, cancelled⟩ := Option.map_eq_some_iff.mp
    (show (((run sample alone sampleRecord).run storing closedStore).2.executions.get?
      sampleRecord.id).map (·.status) = some .cancelled by decide +kernel)
  obtain ⟨v, found, counted⟩ := Option.map_eq_some_iff.mp
    (show (((run sample alone sampleRecord).run storing closedStore).2.workflow? "sample"
      "tenant").map (·.runCount) = some 1 by decide +kernel)
  exact ⟨d, c, v, _, sample_accepted, ran, company, completed, stored, cancelled, rfl, found,
    counted⟩

end TriggerFlow.Engine
