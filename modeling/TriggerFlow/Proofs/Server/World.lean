import TriggerFlow.Proofs.Store.Records
import TriggerFlow.Rehearsal.Surroundings

/-!
The state that the operations of one service share: a store in memory, the registry of live runs and
the background tasks. What is not decided by this state, a call is given from outside: the time, a
new id, what an action gave, whether the listener failed and whether the store is out of order.
-/

namespace TriggerFlow.Server

open Engine

structure World where
  memory : Store.Memory
  runs : Runs
  /-- Executions whose background tasks have not ended. -/
  background : List String

/-- What a call is given from outside. -/
structure Chance where
  time : Moment
  id : String
  invoked : Except Failure Value
  told : Except Failure Unit
  outage : Option Failure

/-- Chances for which only this time and this id matter. -/
def Chance.calm (time : Moment) (id : String) : Chance := ⟨time, id, .ok (.obj []), .ok (), none⟩

inductive Wait where
  | finished (k : Ticket)
  | background (executions : List String)

namespace World

def empty : World := ⟨.empty, .empty, []⟩

def record? (w : World) (id : String) : Option Execution := w.memory.executions.get? id

def ticket? (w : World) (id : String) : Option Ticket := w.runs.ticket? id

def perform (w : World) (o : Chance) : (c : Call) → Reply c × World
  | .store c =>
    match o.outage with
    | some f => (.error f, w)
    | none =>
      ((w.memory.reply o.time o.id c).1, { w with memory := (w.memory.reply o.time o.id c).2 })
  | .now => (o.time, w)
  | .freshId => (o.id, w)
  | .invoke _ _ _ => (o.invoked, w)
  | .notify _ _ _ => (o.told, w)
  | .latest e => (e, w)
  | .register id => ((w.runs.register id).1, { w with runs := (w.runs.register id).2 })
  | .attach id => ((w.runs.attach id).1, { w with runs := (w.runs.attach id).2 })
  | .release id k => ((), { w with runs := w.runs.release id k })
  | .isCancelled k => (w.runs.isCancelled k, w)
  | .requestCancel id =>
    ((w.runs.requestCancel id).1, { w with runs := (w.runs.requestCancel id).2 })
  | .awaitFinished _ => ((), w)
  | .isRunning id => ((w.ticket? id).isSome, w)
  | .startInBackground _ e => ((), { w with background := w.background ++ [e.id] })
  | .leaveBackground id => ((), { w with background := w.background.erase id })
  | .awaitBackground => ((), w)

def wait? (w : World) : Call → Option Wait
  | .awaitFinished id => (w.ticket? id).map .finished
  | .awaitBackground => some (.background w.background)
  | _ => none

def isOver (w : World) : Wait → Bool
  | .finished k => w.runs.isFinished k
  | .background executions => executions.all fun id => !w.background.contains id

/-- The part of some surroundings that operations share. -/
def ofSurroundings (s : Rehearsal.Surroundings) : World := ⟨s.memory, s.runs, s.background⟩

theorem ofSurroundings_noteSave (s : Rehearsal.Surroundings) (c : Store.Call) :
    ofSurroundings (s.noteSave c) = ofSurroundings s := by
  cases c <;> rfl

theorem storeShared_of_unshared {s : Rehearsal.Surroundings} (unshared : s.shared = [])
    (c : Store.Call) : s.storeShared c = s.storeNoted c := by
  have same (e : Execution) : (s.shared.get? e.id).getD e = e := by
    rw [unshared]
    rfl
  delta Rehearsal.Surroundings.storeShared
  cases c with
  | saveExecution e =>
      dsimp only
      rw [same]
  | _ => rfl

theorem exists_store_eq {s : Rehearsal.Surroundings} (inMemory : s.backend = .memory)
    (c : Store.Call) :
    ∃ o : Chance, o.outage = none ∧
      (s.storeNoted c).1 = ((ofSurroundings s).perform o (.store c)).1 ∧
      ofSurroundings (s.storeNoted c).2 = ((ofSurroundings s).perform o (.store c)).2 := by
  obtain ⟨time, fresh, given, kept⟩ := s.memory.exists_answer_eq_reply s.sources c
  refine ⟨.calm time fresh, rfl, ?_, ?_⟩
  · show (s.store c).1 = (s.memory.reply time fresh c).1
    simpa [Rehearsal.Surroundings.store, inMemory] using given
  · have noted : ofSurroundings (s.storeNoted c).2 = ofSurroundings (s.store c).2 := by
      unfold Rehearsal.Surroundings.storeNoted
      dsimp only
      split
      · exact ofSurroundings_noteSave _ c
      · rfl
    rw [noted]
    simp [Rehearsal.Surroundings.store, inMemory, ofSurroundings, perform, Chance.calm, kept]

/-- Surroundings with a store in memory carry a call out as their world does, by some chance. -/
theorem exists_perform_eq {s : Rehearsal.Surroundings} (inMemory : s.backend = .memory)
    (unshared : s.shared = []) {c : Call} (unlooked : ∀ e, c ≠ .latest e) :
    ∃ o : Chance, o.outage = none ∧ (s.perform c).1 = ((ofSurroundings s).perform o c).1 ∧
      ofSurroundings (s.perform c).2 = ((ofSurroundings s).perform o c).2 := by
  cases c with
  | store c =>
      rw [Rehearsal.Surroundings.perform, storeShared_of_unshared unshared]
      exact exists_store_eq inMemory c
  | now => exact ⟨.calm s.sources.now.1 "", rfl, rfl, rfl⟩
  | freshId => exact ⟨.calm (.utc 0) s.sources.fresh.1, rfl, rfl, rfl⟩
  | invoke a config context =>
      refine ⟨⟨.utc 0, "", (s.invoke a config context).1, .ok (), none⟩, rfl, rfl, ?_⟩
      show ofSurroundings (s.invoke a config context).2 = ofSurroundings s
      unfold Rehearsal.Surroundings.invoke
      split <;> rfl
  | notify execution event data =>
      refine ⟨⟨.utc 0, "", .ok .null, (s.notify execution event data).1, none⟩, rfl, rfl, ?_⟩
      show ofSurroundings (s.notify execution event data).2 = ofSurroundings s
      unfold Rehearsal.Surroundings.notify
      split <;> rfl
  | latest e => exact absurd rfl (unlooked e)
  | _ => exact ⟨.calm (.utc 0) "", rfl, rfl, rfl⟩

end World
end TriggerFlow.Server
