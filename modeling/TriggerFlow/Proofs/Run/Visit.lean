import TriggerFlow.Proofs.Run.Calls

/-!
Visiting a node and skipping a connection, for a run that is alone with its record. A visit adds one
step to the record, which is saved as running before the work and in its final state after it.
-/

namespace TriggerFlow.Engine

open Program

variable {c : Connection}
  {t : List Exchange}

def beginning (e : Execution) (n : Node) (fresh : String) (start : Moment)
    (told : Except Failure Unit) : List Exchange :=
  [⟨.freshId, fresh⟩, ⟨.now, start⟩,
    saving (e.addStep (runningStep n (stepName fresh) start)) (.ok ()),
    telling e.id "node_start" [("node_id", .str n.id), ("step_id", .str (stepName fresh))] told]

/-- How a visit of a node on an input can go: it is not begun, or its work fails or succeeds, which
the store then saves or not. -/
inductive Visits (w : Workflow) (e : Execution) (n : Node) (context : Fields) :
    List Exchange → Except (Execution × Stop) (Execution × Visit) → Prop
  | unbegun (fresh : String) (start : Moment) (f : Failure) :
      Visits w e n context
        [⟨.freshId, fresh⟩, ⟨.now, start⟩,
          saving (e.addStep (runningStep n (stepName fresh) start)) (.error f)]
        (.error (e.addStep (runningStep n (stepName fresh) start), .aborted (unsaved e f)))
  | failed (fresh : String) (start finish : Moment) (told reply : Except Failure Unit)
      {f : Failure} {t : List Exchange} (work : (perform n context).Ends t (.error f)) :
      Visits w e n context
        (beginning e n fresh start told ++ t ++ [⟨.now, finish⟩,
          saving (e.addStep (failedStep n (stepName fresh) start finish f.shown)) (.ok ()),
          telling e.id "node_failed" [("node_id", .str n.id), ("error", .str f.shown)] reply])
        (.error (e.addStep (failedStep n (stepName fresh) start finish f.shown),
          .ended (.nodeFailed f.shown n.id w.id)))
  | failedUnsaved (fresh : String) (start finish : Moment) (told : Except Failure Unit)
      (g : Failure) {f : Failure} {t : List Exchange}
      (work : (perform n context).Ends t (.error f)) :
      Visits w e n context
        (beginning e n fresh start told ++ t ++ [⟨.now, finish⟩,
          saving (e.addStep (failedStep n (stepName fresh) start finish f.shown)) (.error g)])
        (.error (e.addStep (failedStep n (stepName fresh) start finish f.shown),
          .aborted (unsaved e g)))
  | succeeded (fresh : String) (start finish : Moment) (told reply : Except Failure Unit)
      {output : Fields} {t : List Exchange} (work : (perform n context).Ends t (.ok output)) :
      Visits w e n context
        (beginning e n fresh start told ++ t ++ [⟨.now, finish⟩,
          saving (e.addStep (Visit.step ⟨stepName fresh, start, finish, output⟩ n)) (.ok ()),
          telling e.id "node_complete" [("node_id", .str n.id), ("output", .obj output)] reply])
        (.ok (e.addStep (Visit.step ⟨stepName fresh, start, finish, output⟩ n),
          ⟨stepName fresh, start, finish, output⟩))
  | succeededUnsaved (fresh : String) (start finish : Moment) (told : Except Failure Unit)
      (g : Failure) {output : Fields} {t : List Exchange}
      (work : (perform n context).Ends t (.ok output)) :
      Visits w e n context
        (beginning e n fresh start told ++ t ++ [⟨.now, finish⟩,
          saving (e.addStep (Visit.step ⟨stepName fresh, start, finish, output⟩ n)) (.error g)])
        (.error (e.addStep (Visit.step ⟨stepName fresh, start, finish, output⟩ n),
          .aborted (unsaved e g)))

theorem replaceStep_failedStep (e : Execution) (n : Node) (id : String) (start finish : Moment)
    (message : String) :
    (e.addStep (runningStep n id start)).replaceStep (failedStep n id start finish message) =
      e.addStep (failedStep n id start finish message) :=
  Execution.replaceStep_addStep e rfl

theorem replaceStep_visitStep (e : Execution) (n : Node) (v : Visit) :
    (e.addStep (runningStep n v.id v.start)).replaceStep (v.step n) = e.addStep (v.step n) :=
  Execution.replaceStep_addStep e rfl

theorem ends_settle {α : Type} {entered : Execution} {step : Moment → Step}
    {execution event : String} {data : Fields} {refused : Moment → Failure → α}
    {accepted : Moment → Execution → α} {a : α}
    (h : (do
      let finish ← now
      let settled := (← alone entered).replaceStep (step finish)
      match ← save settled with
      | .error g => return refused finish g
      | .ok _ =>
        notify execution event data
        return accepted finish (← alone settled) : Work α).Ends t a) :
    ∃ finish settled, settled = entered.replaceStep (step finish) ∧
      ((∃ g, t = [⟨.now, finish⟩, saving settled (.error g)] ∧
        a = refused finish (unsaved settled g)) ∨
      ∃ reply, t = [⟨.now, finish⟩, saving settled (.ok ()), telling execution event data reply] ∧
        a = accepted finish settled) := by
  obtain ⟨(finish : Moment), _, h₁, rfl⟩ := ends_ask_andThen.mp h
  obtain ⟨_, _, _, hl, h₂, rfl⟩ := ends_andThen.mp h₁
  obtain ⟨rfl, rfl⟩ := ends_alone.mp hl
  refine ⟨finish, _, rfl, ?_⟩
  obtain ⟨g, rfl, rfl⟩ | ⟨reply, _, rfl, h₃⟩ := ends_save_notify.mp h₂
  · exact .inl ⟨g, rfl, rfl⟩
  · obtain ⟨_, _, _, hl, h₄, rfl⟩ := ends_andThen.mp h₃
    obtain ⟨rfl, rfl⟩ := ends_alone.mp hl
    obtain ⟨rfl, rfl⟩ := ends_pure.mp h₄
    exact .inr ⟨reply, rfl, rfl⟩

theorem visits_of_ends {r : Except (Execution × Stop) (Execution × Visit)}
    (h : (visit w alone e n context).Ends t r) : Visits w e n context t r := by
  obtain ⟨_, _, _, hid, h₁, rfl⟩ := ends_andThen.mp h
  obtain ⟨fresh, rfl, rfl⟩ := ends_stepId.mp hid
  obtain ⟨(start : Moment), _, h₂, rfl⟩ := ends_ask_andThen.mp h₁
  obtain ⟨f, rfl, rfl⟩ | ⟨told, _, rfl, h₃⟩ := ends_save_notify.mp h₂
  · exact .unbegun fresh start f
  obtain ⟨outcome, u, _, work, h₄, rfl⟩ := ends_andThen.mp h₃
  cases outcome with
  | error f =>
      obtain ⟨finish, settled, hs, ⟨g, rfl, rfl⟩ | ⟨reply, rfl, rfl⟩⟩ := ends_settle h₄
      · rw [replaceStep_failedStep] at hs ⊢
        simpa [beginning, hs] using Visits.failedUnsaved fresh start finish told g work
      · rw [replaceStep_failedStep] at hs
        simpa [beginning, hs] using Visits.failed fresh start finish told reply work
  | ok output =>
      have hv (finish : Moment) := replaceStep_visitStep e n ⟨stepName fresh, start, finish, output⟩
      obtain ⟨finish, settled, hs, ⟨g, rfl, rfl⟩ | ⟨reply, rfl, rfl⟩⟩ := ends_settle h₄
      · rw [hv] at hs ⊢
        simpa [beginning, hs] using Visits.succeededUnsaved fresh start finish told g work
      · rw [hv] at hs
        simpa [beginning, hs] using Visits.succeeded fresh start finish told reply work

namespace Visits

variable {r : Except (Execution × Stop) (Execution × Visit)}

theorem record {v : Visit} (h : Visits w e n context t (.ok (l, v))) :
    l = e.addStep (v.step n) := by
  cases h with
  | succeeded => rfl

theorem only_steps {stop : Stop} (h : Visits w e n context t (.error (l, stop))) :
    ∃ s : Step, l = e.addStep s ∧ s.node = n.id := by
  cases h with
  | unbegun | failed | failedUnsaved | succeededUnsaved => exact ⟨_, rfl, rfl⟩

/-- The only error that a visit ends a run with is that of its node. -/
theorem ended {err : EngineError} (h : Visits w e n context t (.error (l, .ended err))) :
    ∃ message, err = .nodeFailed message n.id w.id := by
  cases h with
  | failed => exact ⟨_, rfl⟩

theorem dispatched (h : Visits w e n context t r) :
    (invocations t).map (·.1) = (dispatch? n context).toList ∨
      invocations t = [] ∧ ∃ l stop, r = .error (l, stop) := by
  cases h with
  | unbegun => exact .inr ⟨rfl, _, _, rfl⟩
  | failed _ _ _ _ _ work | failedUnsaved _ _ _ _ _ work | succeeded _ _ _ _ _ work
  | succeededUnsaved _ _ _ _ _ work => exact .inl (calls_perform (ends_perform_within work rfl rfl))

theorem of_mem_savings (h : Visits w e n context t r) (hl : l ∈ savings t) :
    ∃ s : Step, l = e.addStep s ∧ s.node = n.id := by
  cases h with
  | unbegun =>
      obtain rfl := List.mem_singleton.mp hl
      exact ⟨_, rfl, rfl⟩
  | failed _ _ _ _ _ work | failedUnsaved _ _ _ _ _ work | succeeded _ _ _ _ _ work
  | succeededUnsaved _ _ _ _ _ work =>
      rw [savings_append, savings_append, savings_perform work, List.append_nil] at hl
      obtain hl | hl := List.mem_append.mp hl <;> obtain rfl := List.mem_singleton.mp hl
      · exact ⟨_, rfl, rfl⟩
      · exact ⟨_, rfl, rfl⟩

theorem pollings (h : Visits w e n context t r) : pollings t = 0 := by
  cases h with
  | unbegun => rfl
  | failed _ _ _ _ _ work | failedUnsaved _ _ _ _ _ work | succeeded _ _ _ _ _ work
  | succeededUnsaved _ _ _ _ _ work =>
      rw [pollings_append, pollings_append, pollings_perform work]
      rfl

/-- With a store that saves, a visit goes as its work does. -/
theorem work (h : Visits w e n context t r) (stored : Stored t) :
    (∃ f id start finish, (perform n context).Ends (invocations t) (.error f) ∧
      r = .error (e.addStep (failedStep n id start finish f.shown),
        .ended (.nodeFailed f.shown n.id w.id))) ∨
    ∃ v : Visit, (perform n context).Ends (invocations t) (.ok v.output) ∧
      r = .ok (e.addStep (v.step n), v) := by
  cases h with
  | unbegun => exact absurd stored (not_stored (.tail _ (.tail _ (.head _))))
  | failedUnsaved | succeededUnsaved =>
      exact absurd stored (not_stored (List.mem_append_right _ (.tail _ (.head _))))
  | failed fresh start finish told reply work =>
      exact .inl ⟨_, _, _, _, ends_perform_within work rfl rfl, rfl⟩
  | succeeded fresh start finish told reply work =>
      exact .inr ⟨⟨_, start, finish, _⟩, ends_perform_within work rfl rfl, rfl⟩

end Visits

/-- How the step of a connection that is not followed is added: the store saves it or not. -/
inductive Skips (w : Workflow) (e : Execution) (c : Connection) :
    List Exchange → Execution × Except Failure Unit → Prop
  | unsaved (time : Moment) (fresh : String) (f : Failure) :
      Skips w e c
        [⟨.now, time⟩, ⟨.freshId, fresh⟩,
          saving (e.addStep (skippedStep w c (stepName fresh) time)) (.error f)]
        (e.addStep (skippedStep w c (stepName fresh) time), .error (Engine.unsaved e f))
  | saved (time : Moment) (fresh : String) (reply : Except Failure Unit) :
      Skips w e c
        [⟨.now, time⟩, ⟨.freshId, fresh⟩,
          saving (e.addStep (skippedStep w c (stepName fresh) time)) (.ok ()),
          telling e.id "node_skipped" [("node_id", .str c.target), ("connection_id", .str c.id)]
            reply]
        (e.addStep (skippedStep w c (stepName fresh) time), .ok ())

theorem skips_of_ends {r : Execution × Except Failure Unit} (h : (skip w alone e c).Ends t r) :
    Skips w e c t r := by
  obtain ⟨(time : Moment), _, h₁, rfl⟩ := ends_ask_andThen.mp h
  obtain ⟨_, _, _, hid, h₂, rfl⟩ := ends_andThen.mp h₁
  obtain ⟨fresh, rfl, rfl⟩ := ends_stepId.mp hid
  obtain ⟨f, rfl, rfl⟩ | ⟨reply, _, rfl, h₃⟩ := ends_save_notify.mp h₂
  · exact .unsaved time fresh f
  · obtain ⟨_, _, _, hl, h₄, rfl⟩ := ends_andThen.mp h₃
    obtain ⟨rfl, rfl⟩ := ends_alone.mp hl
    obtain ⟨rfl, rfl⟩ := ends_pure.mp h₄
    exact .saved time fresh reply

namespace Skips

variable {r : Except Failure Unit}

theorem record (h : Skips w e c t (l, r)) : ∃ id time, l = e.addStep (skippedStep w c id time) := by
  cases h with
  | unsaved | saved => exact ⟨_, _, rfl⟩

theorem invocations (h : Skips w e c t (l, r)) : invocations t = [] := by
  cases h with
  | unsaved | saved => rfl

theorem pollings (h : Skips w e c t (l, r)) : pollings t = 0 := by
  cases h with
  | unsaved | saved => rfl

theorem of_mem_savings {d : Execution} (h : Skips w e c t (l, r)) (hd : d ∈ savings t) :
    ∃ s, d = e.addStep s := by
  cases h with
  | unsaved | saved =>
      obtain rfl := List.mem_singleton.mp hd
      exact ⟨_, rfl⟩

theorem not_stored {f : Failure} (h : Skips w e c t (l, .error f)) : ¬ Stored t := by
  cases h with
  | unsaved => exact Engine.not_stored (.tail _ (.tail _ (.head _)))

end Skips
end TriggerFlow.Engine
