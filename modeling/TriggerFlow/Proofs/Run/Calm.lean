import TriggerFlow.Proofs.Run.Course

/-!
Calm surroundings, which never interfere with a run: the store saves, nobody asks to cancel, and
every action gives nothing. In them a small workflow is prepared, to which what is proved of runs
can be applied.
-/

namespace TriggerFlow.Engine

open Program

/-- What an empty store gives. -/
def emptyStore : (c : Store.Call) → Store.Result c
  | .createWorkflow w | .updateWorkflow w => w
  | .getWorkflow _ _ => none
  | .listWorkflows _ _ _ => []
  | .deleteWorkflow _ _ => false
  | .incrementRunCount _ _ _ | .saveExecution _ => ()
  | .markCancelled _ _ _ | .getExecution _ _ => none
  | .listExecutions _ _ _ => []

def calm : (c : Call) → Unit → Reply c × Unit
  | .store c, _ => (.ok (emptyStore c), ())
  | .now, _ => (.utc 0, ())
  | .freshId, _ => ("", ())
  | .invoke _ _ _, _ => (.ok (.obj []), ())
  | .notify _ _ _, _ => (.ok (), ())
  | .latest e, _ => (e, ())
  | .register _, _ | .attach _, _ => ((0 : Ticket), ())
  | .isCancelled _, _ | .requestCancel _, _ | .isRunning _, _ => (false, ())
  | .release _ _, _ | .awaitFinished _, _ | .startInBackground _ _, _ | .leaveBackground _, _ =>
    ((), ())
  | .awaitBackground, _ => ((), ())

variable {α : Type}

theorem stored_calm (p : Work α) : Stored (p.exchange calm ()) := by
  intro c f h
  obtain ⟨_, reply⟩ := mem_exchange h
  cases reply

theorem uncancelled_calm (p : Work α) : Uncancelled (p.exchange calm ()) := by
  intro ticket h
  obtain ⟨_, reply⟩ := mem_exchange h
  cases reply

/-- A trigger that leads to one action at once and to another over a condition and by way of the
first. -/
def sample : Workflow where
  nodes := [⟨"start", .trigger .webhook, [], .origin⟩, ⟨"log", .action .logEvent, [], .origin⟩,
    ⟨"mail", .action .sendEmail, [], .origin⟩]
  connections := [⟨"a", "start", "log", [], .and⟩,
    ⟨"b", "start", "mail", [⟨"d", "urgent", .equals, "true"⟩], .and⟩,
    ⟨"c", "log", "mail", [], .and⟩]
  id := some "sample"
  tenant := "tenant"
  name := "Sample"
  description := none
  status := .active
  tags := []
  runCount := 0
  lastRun := none
  createdBy := none
  createdAt := none
  updatedAt := none

def sampleRecord : Execution :=
  ⟨"", "sample", "tenant", .running, [], [], .utc 0, none, none⟩

theorem sample_prepared :
    (prepare sample .null).Ends ((prepare sample .null).exchange calm ()) (.ok sampleRecord) :=
  ends_run calm (prepare sample .null) ()

def sampleRun : List Exchange := (run sample alone sampleRecord).exchange calm ()

theorem sample_ran : ∃ r, (run sample alone sampleRecord).Ends sampleRun r :=
  ⟨_, ends_run calm (run sample alone sampleRecord) ()⟩

theorem sample_returns : ∃ d, (run sample alone sampleRecord).Ends sampleRun (.ok d) := by
  have ran := ends_run calm (run sample alone sampleRecord) ()
  have returned : ((run sample alone sampleRecord).run calm ()).1.toOption.isSome = true := by
    decide +kernel
  cases given : ((run sample alone sampleRecord).run calm ()).1 with
  | error f =>
      rw [given] at returned
      cases returned
  | ok d =>
      rw [given] at ran
      exact ⟨d, ran⟩

theorem sample_stored : Stored ((prepare sample .null).exchange calm () ++ sampleRun) := by
  rw [stored_append]
  exact ⟨stored_calm _, stored_calm _⟩

end TriggerFlow.Engine
