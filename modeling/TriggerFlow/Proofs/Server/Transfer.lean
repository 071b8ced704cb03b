import TriggerFlow.Proofs.Http.Requests
import TriggerFlow.Proofs.Server.Acceptance

/-!
Definitions that are carried elsewhere and copied. What is exported is imported as a new draft of
the same definition, of which the export is the same again, and a copy is what the import would have
been. Written as JSON text, the export is read from the body of a request as what it was, if bytes
can carry it; what they cannot carry is stored and exported, but no response gives it.
-/

namespace TriggerFlow.Server

open Engine Program Service
open Store (Memory)

variable {w : Workflow} {p : Portable} {tenant id : String} {a : Scene} {api : Http.Api}
  {r : Http.Request} {s : State} {moves : List Move} {chances : Nat → Chance}

namespace Scene

theorem run_answer_export (ready : api.ready = true)
    (asks : r.Asks "GET" (.exportWorkflow id) tenant) : a.run (Http.answer api r) =
      (.sent "GET" (Http.respond (Http.document 200 Portable.document)
        (a.run (exportWorkflow tenant id)).1), (a.run (exportWorkflow tenant id)).2) := by
  rw [Http.answer_of_asks asks, run_map, Http.perform, Http.withoutBody_of_asks ready asks,
    run_bind]
  rfl

theorem run_answer_import (ready : api.ready = true) (asks : r.Asks "POST" .importWorkflow tenant)
    {body : Value} (brought : Http.content r = .ok (some body))
    (read : Portable.read .request body = .value p) : a.run (Http.answer api r) =
      (.sent "POST" (Http.respond (Http.document 201 Workflow.document)
        (a.run (importWorkflow tenant p (Http.user? r))).1),
        (a.run (importWorkflow tenant p (Http.user? r))).2) := by
  have required : Http.required (Portable.read .request) (some body) = .value p :=
    Reading.under_eq_value.mpr read
  rw [Http.answer_of_asks asks, run_map, Http.perform,
    Http.withBody_of_asks ready asks brought required, run_bind]
  rfl

end Scene

/-- A new draft of the same definition. -/
structure Restores (w v : Workflow) : Prop where
  name : v.name = w.name
  description : v.description = w.description
  nodes : v.nodes = w.nodes
  connections : v.connections = w.connections
  tags : v.tags = w.tags
  status : v.status = .draft
  runCount : v.runCount = 0
  lastRun : v.lastRun = none

/-- How the import of an exported definition ends: a new draft of it is stored, and the export of
that is the same again. -/
inductive Imports (w : Workflow) (tenant : String) : Except Failure Workflow × Scene → Prop
  | stored {v : Workflow} {id : String} {after : Scene} (named : v.id = some id)
      (found : after.world.memory.workflow? id tenant = some v) (restores : Restores w v)
      (again : (after.run (exportWorkflow tenant id)).1 = .ok (portable w)) :
      Imports w tenant (.ok v, after)

/-- The same record, but for what it is stored under and called, who made it, and when. -/
def Resembles (d v : Workflow) : Prop :=
  { d with
    id := v.id, name := v.name, createdBy := v.createdBy, createdAt := v.createdAt,
    updatedAt := v.updatedAt } = v

/-- How a copy of a definition ends: one is stored that is called a copy, and is otherwise what an
imported export would be. -/
inductive Copies (w : Workflow) (tenant : String) (exported : Scene) :
    Except Failure Workflow × Scene → Prop
  | stored {d : Workflow} {id : String} {after : Scene} (named : d.id = some id)
      (found : after.world.memory.workflow? id tenant = some d)
      (suffixed : d.name = w.name ++ " (Copy)")
      (alike : ∀ creator v after,
        exported.run (importWorkflow tenant (portable w) creator) = (.ok v, after) →
          Resembles d v) :
      Copies w tenant exported (.ok d, after)

theorem run_import_portable (working : a.Working) (proper : Schema.Proper w.name)
    (tenant : String) (creator : Option String) : ∃ d : Draft,
    d = { w.toGraph with
      name := w.name, description := w.description, status := none, tags := w.tags } ∧
    a.run (importWorkflow tenant (portable w) creator) =
      (.ok (a.world.memory.createWorkflow a.time a.fresh (ofDraft tenant d creator)).1,
        a.after (a.world.memory.createWorkflow a.time a.fresh (ofDraft tenant d creator)).2) := by
  obtain ⟨d, drafted, run⟩ := Scene.run_importWorkflow working (p := portable w) proper
  exact ⟨d, (draftOf_eq_ok.mp drafted).2, run⟩

theorem imports_portable (working : a.Working) (proper : Schema.Proper w.name) (tenant : String)
    (creator : Option String) :
    Imports w tenant (a.run (importWorkflow tenant (portable w) creator)) := by
  obtain ⟨d, rfl, run⟩ := run_import_portable working proper tenant creator
  obtain ⟨id, named, found⟩ := found_createWorkflow a.world.memory a.time a.fresh _
  rw [run]
  refine .stored named found ⟨rfl, rfl, rfl, rfl, rfl, rfl, rfl, rfl⟩ ?_
  exact congrArg Prod.fst (Scene.run_exportWorkflow (working.after _) found)

theorem copies_duplicate {b : Scene} (working : a.Working) (waiting : b.Working)
    (found : a.world.memory.workflow? id tenant = some w) (proper : Schema.Proper w.name)
    (creator : Option String) :
    Copies w tenant b (a.run (duplicateWorkflow tenant id creator)) := by
  obtain ⟨c, copied, -, -, run⟩ := Scene.run_duplicateWorkflow working found creator
  have mine : (w.copy copied creator).tenant = tenant := (Memory.workflow?_eq_some.mp found).2
  obtain ⟨i, named, kept⟩ :=
    found_createWorkflow a.world.memory c.time c.fresh (w.copy copied creator)
  rw [mine] at kept
  rw [run]
  refine .stored named kept rfl fun maker v after imported => ?_
  obtain ⟨d, rfl, run⟩ := run_import_portable waiting proper tenant maker
  rw [run] at imported
  cases imported
  cases mine
  rfl

/-- From wherever the service has come to, a stored definition is exported, and its export can be
imported for any tenant; a copy is what such an import makes, for the same tenant; and the response
that gives the export has a text that is read from the body of a request as the export, if bytes can
carry it. -/
theorem exports_are_imported (received : ∀ m ∈ moves, m.Received)
    (moved : State.empty.follow moves = some s) (working : ∀ n, (chances n).outage = none)
    (found : s.world.memory.workflow? id tenant = some w) :
    ∃ b : Scene, b.world = s.world ∧
      (Scene.mk s.world chances).run (exportWorkflow tenant id) = (.ok (portable w), b) ∧
      (∀ other creator, Imports w other (b.run (importWorkflow other (portable w) creator))) ∧
      (∀ creator,
        Copies w tenant b ((Scene.mk s.world chances).run (duplicateWorkflow tenant id creator))) ∧
      ∀ api : Http.Api, api.ready = true → (portable w).Conveyable → ∃ text,
        Json.write .strict (portable w).document = .ok text ∧
        (∀ r : Http.Request, r.Asks "GET" (.exportWorkflow id) tenant →
          (Scene.mk s.world chances).run (Http.answer api r) =
            (.json 200 (portable w).document, b)) ∧
        ∀ (r : Http.Request) (other : String), r.Asks "POST" .importWorkflow other →
          r.BringsJson → r.body = text → ∃ v after,
            b.run (importWorkflow other (portable w) (Http.user? r)) = (.ok v, after) ∧
            b.run (Http.answer api r) =
              (.sent "POST" (Http.document 201 Workflow.document v), after) := by
  have working : (Scene.mk s.world chances).Working := working
  have fit := (State.hands_of_follow hereditary_fit received moved).stored.found found
  have proper : Schema.Proper w.name :=
    ⟨fit.named, (State.hands_of_follow hereditary_legible received moved).stored.found found⟩
  have exported := Scene.run_exportWorkflow working found
  have waiting := working.after s.world.memory
  refine ⟨_, rfl, exported, imports_portable waiting proper,
    copies_duplicate working waiting found proper, fun api ready conveyable => ?_⟩
  obtain ⟨text, written⟩ := Json.write_strict_ok conveyable.isPlain
  refine ⟨text, written, fun r asks => ?_, fun r other asks json carries => ?_⟩
  · rw [Scene.run_answer_export ready asks, exported]
    exact congrArg (·, _) (Http.sent_document conveyable.isPlain conveyable.unicode)
  · have read : Http.Body.read r.body = .ok (portable w).document := by
      rw [carries]
      exact Http.Body.read_of_written Json.Style.separates_strict conveyable.isPlain written
    have imports := imports_portable waiting proper other (Http.user? r)
    rw [Scene.run_answer_import ready asks (Http.content_of_read json read)
      (Portable.read_document fit.distinct)]
    generalize Scene.run _ _ = result at imports ⊢
    cases imports with
    | @stored v _ after => exact ⟨v, after, rfl, rfl⟩

def openApi : Http.Api := ⟨⟨50⟩, true⟩

def exporting : Http.Request :=
  ⟨"GET", "/api/v1/workflows/0/export", [("X-Tenant-ID", "tenant")], [], ""⟩

def importing (text : String) : Http.Request :=
  ⟨"POST", "/api/v1/workflows/import",
    [("X-Tenant-ID", "other"), ("Content-Type", "application/json")], [], text⟩

theorem asks_exporting : exporting.Asks "GET" (.exportWorkflow "0") "tenant" :=
  ⟨rfl, by decide +kernel, by decide +kernel⟩

theorem asks_importing (text : String) : (importing text).Asks "POST" .importWorkflow "other" := by
  have routed : Http.route "POST" (importing "").segments = .found .importWorkflow := by
    decide +kernel
  have named : (importing "").header? "x-tenant-id" = some "other" := by decide +kernel
  exact ⟨rfl, routed, named⟩

theorem bringsJson_importing (text : String) : (importing text).BringsJson := by
  have named : ((importing "").header? "content-type").any Http.Body.namesJson = true := by
    decide +kernel
  exact named

theorem user_importing (text : String) : Http.user? (importing text) = none := by
  have unnamed : (importing "").header? "x-user-id" = none := by decide +kernel
  exact unnamed

theorem received_sampleMoves : ∀ m ∈ sampleMoves, m.Received := by
  simp only [sampleMoves, List.forall_mem_append, List.forall_mem_cons]
  have drafted : Draft.read .data sampleDraft.document = .value sampleDraft := rfl
  have turns (i first n : Nat) : ∀ m ∈ turns i first n, m.Received := received_turns i first n
  exact ⟨⟨⟨⟨⟨⟨⟨⟨⟨_, _, drafted⟩, turns _ _ _⟩, trivial, turns _ _ _⟩, turns _ _ _⟩, trivial,
    turns _ _ _⟩, turns _ _ _⟩, turns _ _ _⟩, trivial, turns _ _ _⟩, trivial, turns _ _ _⟩

/-- Without configurations, what is left to ask of a definition can be computed. -/
theorem conveyable_of_empty {p : Portable} (unicode : p.document.isUnicode = true)
    (plain : p.nodes.all fun n =>
      n.config.isEmpty && n.position.x.isFinite && n.position.y.isFinite) : p.Conveyable := by
  simp only [List.all_eq_true, Bool.and_eq_true, List.isEmpty_iff] at plain
  refine ⟨unicode, fun n mem => ?_, fun n mem => ⟨(plain n mem).1.2, (plain n mem).2⟩⟩
  rw [(plain n mem).1.1]
  exact .obj List.nodup_nil (List.forall_mem_nil _) (List.forall_mem_nil _)

/-- An active definition that has been executed, with conditions on one of its connections. -/
theorem sample_is_imported : ∃ s w b v after text, State.empty.follow sampleMoves = some s ∧
    s.world.memory.workflow? "0" "tenant" = some w ∧
    (w.status, w.runCount, w.connections.map (·.conditions.length)) = (.active, 1, [0, 1, 0]) ∧
    b.world = s.world ∧
    (Scene.mk s.world ticking).run (exportWorkflow "tenant" "0") = (.ok (portable w), b) ∧
    b.run (importWorkflow "other" (portable w) none) = (.ok v, after) ∧
    Imports w "other" (.ok v, after) ∧
    Copies w "tenant" b ((Scene.mk s.world ticking).run (duplicateWorkflow "tenant" "0" none)) ∧
    (Scene.mk s.world ticking).run (Http.answer openApi exporting) =
      (.json 200 (portable w).document, b) ∧
    Json.write .strict (portable w).document = .ok text ∧
    b.run (Http.answer openApi (importing text)) =
      (.sent "POST" (Http.document 201 Workflow.document v), after) := by
  let seen (w : Workflow) : Bool × Bool × WorkflowStatus × Int × List Nat :=
    ((portable w).document.isUnicode,
      w.nodes.all (fun n => n.config.isEmpty && n.position.x.isFinite && n.position.y.isFinite),
      w.status, w.runCount, w.connections.map (·.conditions.length))
  have shown : (State.empty.follow sampleMoves).bind (fun s =>
      (s.world.memory.workflow? "0" "tenant").map seen) =
        some (true, true, .active, 1, [0, 1, 0]) := by decide +kernel
  obtain ⟨s, moved, shown⟩ := Option.bind_eq_some_iff.mp shown
  obtain ⟨w, found, shown⟩ := Option.map_eq_some_iff.mp shown
  obtain ⟨unicode, shown⟩ := Prod.mk.inj shown
  obtain ⟨plain, shown⟩ := Prod.mk.inj shown
  have working : ∀ n, (ticking n).outage = none := fun _ => rfl
  obtain ⟨b, same, exported, imports, copies, routes⟩ :=
    exports_are_imported received_sampleMoves moved working found
  obtain ⟨text, written, sent, taken⟩ := routes openApi rfl (conveyable_of_empty unicode plain)
  obtain ⟨v, after, imported, answered⟩ :=
    taken (importing text) "other" (asks_importing text) (bringsJson_importing text) rfl
  have unsigned : Http.user? (importing text) = none := user_importing text
  rw [unsigned] at imported
  exact ⟨s, w, b, v, after, text, moved, found, shown, same, exported, imported,
    imported ▸ imports "other" none, copies none, sent exporting asks_exporting, written, answered⟩

def halved : Portable :=
  ⟨⟨[], []⟩, "Sample", some (String.singleton (Text.Surrogate.charOf 0xd83d)), []⟩

def halvedMoves : List Move := .submit (.importWorkflow "tenant" halved none) :: turns 0 0 1

theorem received_halved : ∀ m ∈ halvedMoves, m.Received :=
  List.forall_mem_cons.mpr ⟨⟨.request, _, Portable.read_document List.nodup_nil⟩,
    received_turns 0 0 1⟩

/-- A half by itself is spelled with an escape. -/
theorem exists_text_halved : ∃ text, Http.Body.read text = .ok halved.document := by
  have half : Json.Spellable (String.singleton (Text.Surrogate.charOf 0xd83d)).toList :=
    List.isChain_singleton _
  have nothing : (Value.arr []).Spellable fun _ => True := .arr (List.forall_mem_nil _)
  have spellable : halved.document.Spellable fun _ => True :=
    .record ["nodes", "connections", "name", "description", "tags"] rfl (by decide) (by decide)
      ⟨nothing, nothing, .str (Json.spellable_of_proper (by decide)), .str half, nothing⟩
  obtain ⟨text, written, -⟩ := Json.read_of_write spellable
  exact ⟨text, Http.Body.read_of_written Json.Style.separates_spaced spellable written⟩

/-- What a request may bring is stored and exported, but the response cannot be sent. -/
theorem halved_is_not_sent : ∃ s w, State.empty.follow halvedMoves = some s ∧
    (∀ m ∈ halvedMoves, m.Received) ∧ (∃ text, Http.Body.read text = .ok halved.document) ∧
    s.world.memory.workflow? "0" "tenant" = some w ∧
    ((Scene.mk s.world ticking).run (exportWorkflow "tenant" "0")).1 = .ok (portable w) ∧
    ((Scene.mk s.world ticking).run (Http.answer openApi exporting)).1 = Http.internalError := by
  let seen (s : State) : Option (Workflow × Bool) :=
    (s.world.memory.workflow? "0" "tenant").map fun w => (w, (portable w).document.plain.isUnicode)
  have shown : ((State.empty.follow halvedMoves).bind seen).map Prod.snd = some false := by
    decide +kernel
  obtain ⟨⟨w, _⟩, shown, rfl⟩ := Option.map_eq_some_iff.mp shown
  obtain ⟨s, moved, shown⟩ := Option.bind_eq_some_iff.mp shown
  obtain ⟨w, found, same⟩ := Option.map_eq_some_iff.mp shown
  obtain ⟨rfl, improper⟩ := Prod.mk.inj same
  have exported := Scene.run_exportWorkflow (a := ⟨s.world, ticking⟩) (fun _ => rfl) found
  refine ⟨s, w, moved, received_halved, exists_text_halved, found,
    congrArg Prod.fst exported, ?_⟩
  rw [Scene.run_answer_export rfl asks_exporting, exported]
  show Http.Response.sent "GET" (.json 200 (portable w).document.plain) = _
  rw [Http.Response.sent, improper]
  rfl

end TriggerFlow.Server
