import TriggerFlow.Proofs.Server.Heredity

/-!
Stored definitions. However operations come in between each other, and though an update or a toggle
may write what it made of a definition that is no longer stored, every stored definition is fit, and
its name is proper Unicode.
-/

namespace TriggerFlow.Server

open Engine Program Service

variable {s : State} {moves : List Move}

theorem hereditary_fit : Hereditary Workflow.Fit where
  drafted read check :=
    have ⟨proper, distinct⟩ := Draft.proper_of_read read
    Workflow.fit_of_check proper.filled distinct check
  imported read drafted check := by
    obtain ⟨proper, rfl⟩ := draftOf_eq_ok.mp drafted
    exact Workflow.fit_of_check proper.filled (Portable.distinct_of_read read) check
  changed read fit changed check :=
    fit.changed (fun given => (Changes.proper_of_read read given).filled rfl) changed check
  toggled fit toggled := fit.toggled toggled
  copied fit := fit.copy
  congr fit := fit.congr

theorem legible_copy {w : Workflow} (legible : Text.Surrogate.occursIn w.name = false) (id : String)
    (creator : Option String) : Text.Surrogate.occursIn (w.copy id creator).name = false := by
  have suffix : Workflow.copySuffix.toList.any Text.Surrogate.isStandIn = false := by decide
  rw [Workflow.copy, Text.Surrogate.occursIn, String.toList_append, List.any_append, suffix,
    Bool.or_false]
  exact legible

theorem hereditary_legible : Hereditary fun w => Text.Surrogate.occursIn w.name = false where
  drafted read _ := (Draft.proper_of_read read).1.legible
  imported _ drafted _ := by
    obtain ⟨proper, rfl⟩ := draftOf_eq_ok.mp drafted
    exact proper.legible
  changed read legible changed _ := by
    obtain same | given := Workflow.name_of_changed changed
    · exact same ▸ legible
    · exact (Changes.proper_of_read read given).legible
  toggled legible toggled := by
    obtain rfl | ⟨-, rfl⟩ := Workflow.toggled_eq_ok toggled <;> exact legible
  copied := legible_copy
  congr legible name _ _ := name ▸ legible

/-- However operations come in between each other, every stored definition has a name and distinct
nodes, and if it is active it may go live; so whatever is found active, to be executed, passes the
check of that. -/
theorem definitions_fit (received : ∀ m ∈ moves, m.Received)
    (moved : State.empty.follow moves = some s) :
    (∀ i v, (i, v) ∈ s.world.memory.workflows → v.Fit) ∧
      ∀ t ∈ s.tasks, ∀ tenant id request, t.job = .operation (.execute tenant id request) →
        ∀ v, (⟨.store (.getWorkflow id tenant), .ok (some v)⟩ : Exchange) ∈ t.past →
          v.status = .active → v.checkActivation = .ok () := by
  have hands := State.hands_of_follow hereditary_fit received moved
  refine ⟨fun i v there => hands.stored _ there, ?_⟩
  intro t ht tenant id request _ v found active
  have fit : v.Fit := hands.found t ht _ found
  exact (fit.live active).check

theorem received_turns (i first n : Nat) : ∀ m ∈ turns i first n, m.Received := by
  intro m hm
  obtain ⟨k, -, rfl⟩ := List.mem_map.mp hm
  trivial

def renameTo (name : String) : Changes := ⟨some (some name), none, none, none, none, none⟩

/-- A change and a toggle that both read the definition before one of them writes it; then it is
toggled again, and executed. -/
def revisingMoves : List Move :=
  .submit (.createWorkflow "tenant" sampleDraft none) :: turns 0 0 1 ++
  .submit (.updateWorkflow "tenant" "0" (renameTo "Renamed")) :: turns 1 1 1 ++
  .submit (.toggleStatus "tenant" "0") :: turns 2 2 1 ++ turns 1 3 1 ++ turns 2 4 1 ++
  .submit (.toggleStatus "tenant" "0") :: turns 3 5 2 ++
  .submit (.execute "tenant" "0" ⟨.null, true⟩) :: turns 4 7 7

theorem received_revising : ∀ m ∈ revisingMoves, m.Received := by
  simp only [revisingMoves, List.forall_mem_append, List.forall_mem_cons]
  have drafted : Draft.read .data sampleDraft.document = .value sampleDraft := rfl
  have renamed : Changes.read .data (renameTo "Renamed").document = .value (renameTo "Renamed") :=
    rfl
  have turns (i first n : Nat) : ∀ m ∈ turns i first n, m.Received := received_turns i first n
  exact ⟨⟨⟨⟨⟨⟨⟨⟨_, _, drafted⟩, turns _ _ _⟩, ⟨_, _, renamed⟩, turns _ _ _⟩, trivial,
    turns _ _ _⟩, turns _ _ _⟩, turns _ _ _⟩, trivial, turns _ _ _⟩, trivial, turns _ _ _⟩

theorem sample_definitions_fit : ∃ s : State, State.empty.follow revisingMoves = some s ∧
    s.world.memory.workflows.map (fun x => (x.1, x.2.name, x.2.status)) =
      [("0", "Sample", .active)] ∧
    s.world.memory.executions.values.map (·.workflow) = ["0"] ∧
    (∀ i v, (i, v) ∈ s.world.memory.workflows → v.Fit) ∧
    ∀ t ∈ s.tasks, ∀ tenant id request, t.job = .operation (.execute tenant id request) →
      ∀ v, (⟨.store (.getWorkflow id tenant), .ok (some v)⟩ : Exchange) ∈ t.past →
        v.status = .active → v.checkActivation = .ok () := by
  obtain ⟨s, moved, shown⟩ := Option.map_eq_some_iff.mp
    (show (State.empty.follow revisingMoves).map (fun s =>
      (s.world.memory.workflows.map (fun x => (x.1, x.2.name, x.2.status)),
        s.world.memory.executions.values.map (·.workflow))) =
        some ([("0", "Sample", .active)], ["0"]) by decide +kernel)
  obtain ⟨stored, run⟩ := Prod.mk.inj shown
  exact ⟨s, moved, stored, run, definitions_fit received_revising moved⟩

end TriggerFlow.Server
