import TriggerFlow.Proofs.Server.Mirror

/-!
The same task in a world and in the share that some tenants have of it. A task that is made for one
of these makes the same calls in both, is answered alike, and waits in one as long as in the other.
-/

namespace TriggerFlow.Server

open Engine Program Service
open Store (Memory)

variable {w w' v : World} {o : Chance} {tenant : String} {c c' : Call} {keep : String → Bool}
  {M M' : Ticket → Ticket → Prop} {t t' u q : Task} {new : List Task} {j : Job}

/-- Tasks wait for the same, where `M` pairs the tickets. -/
inductive WaitsAlike (M : Ticket → Ticket → Prop) : Option Wait → Option Wait → Prop
  | none : WaitsAlike M none none
  | finished {k k' : Ticket} (pair : M k k') :
      WaitsAlike M (some (.finished k)) (some (.finished k'))

/-- Tasks of one job that go on alike. -/
inductive Twins (M : Ticket → Ticket → Prop) : Task → Task → Prop
  | intro {job : Job} {past past' : List Exchange}
      {rest rest' : Work (Except Failure job.Given)} {waiting waiting' : Option Wait}
      {held : Option (Ticket × Ticket)} (pairs : ∀ k k', held = some (k, k') → M k k')
      (alike : Alike job.tenant? (fun _ _ => True) held rest rest')
      (waits : WaitsAlike M waiting waiting') :
      Twins M ⟨job, past, rest, waiting⟩ ⟨job, past', rest', waiting'⟩

theorem WaitsAlike.mono {a b : Option Wait} (h : WaitsAlike M a b)
    (mono : ∀ k k', M k k' → M' k k') : WaitsAlike M' a b := by
  cases h with
  | none => exact .none
  | finished pair => exact .finished (mono _ _ pair)

theorem Twins.mono (h : Twins M t u) (mono : ∀ k k', M k k' → M' k k') : Twins M' t u := by
  cases h with
  | intro pairs alike waits =>
      exact .intro (fun k k' held => mono k k' (pairs k k' held)) alike (waits.mono mono)

theorem Twins.job_eq (h : Twins M t u) : u.job = t.job := by
  cases h with
  | intro => rfl

theorem Twins.registers_eq (h : Twins M t u) : u.registers = t.registers := by
  cases h with
  | intro pairs alike waits => cases alike <;> rfl

theorem twins_start (fit : j.Fit) : Twins M (.start j) (.start j) :=
  .intro (fun _ _ same => by cases same) (alike_work j fit) .none

namespace Task

/-- What a task has come to: what its job gave, or nothing yet. -/
def outcome : Task → Σ j : Job, Option (Except Failure j.Given)
  | ⟨job, _, .done r, _⟩ => ⟨job, some r⟩
  | ⟨job, _, .call _ _, _⟩ => ⟨job, none⟩

end Task

theorem Twins.outcome_eq (h : Twins M t u) : u.outcome = t.outcome := by
  cases h with
  | intro pairs alike waits => cases alike <;> rfl

section Owner

def Ticketed : Call → Prop
  | .register _ | .attach _ | .isCancelled _ | .release _ _ => True
  | _ => False

theorem Task.Tame.plain_or (h : t.Tame) (next : t.next? = some c) :
    Plain t.job.tenant? c ∨ Ticketed c := by
  obtain ⟨job, past, rest, waiting⟩ := t
  have alike := h.alike
  cases rest with
  | done a => cases next
  | call c rest =>
      cases next
      generalize both _ = held at alike
      cases alike with
      | plain mine => exact .inl mine
      | register | attach | isCancelled | release => exact .inr trivial

theorem Task.Tame.asks (h : t.Tame) (next : t.next? = some c) : Asks t.job.tenant? c := by
  obtain plain | ticketed := h.plain_or next
  · exact plain.asks
  · cases c with
    | store => exact ticketed.elim
    | _ => trivial

theorem Task.Tame.started (h : t.Tame) (next : t.next? = some c) :
    ∀ q ∈ Task.started c, q.job.tenant? = t.job.tenant? := by
  intro q hq
  cases c with
  | startInBackground v e =>
      obtain rfl := List.mem_singleton.mp hq
      obtain plain | ticketed := h.plain_or next
      · exact Eq.symm plain
      · exact ticketed.elim
  | _ => cases hq

/-- A task that waits for the background is made for nobody. -/
theorem Task.Tame.owner_of_background (h : t.Tame) (next : t.next? = some .awaitBackground) :
    t.job.tenant? = none :=
  (h.plain_or next).elim id False.elim

end Owner

namespace Goes

theorem job_eq (goes : Goes w o t t' w' new) : t'.job = t.job := by
  cases goes <;> rfl

theorem tenant?_new (goes : Goes w o t t' w' new) (tame : t.Tame) :
    ∀ q ∈ new, q.job.tenant? = t.job.tenant? := by
  cases goes with
  | waits => exact List.forall_mem_nil _
  | answered => exact tame.started rfl

end Goes

theorem go_of_goes (goes : Goes w o t t' w' new) : t.go w o = some (t', w', new) := by
  cases goes with
  | waits long =>
      unfold Task.go
      dsimp only
      rw [long]
  | @answered job past c next waiting ready =>
      unfold Task.go
      cases waiting with
      | none =>
          have short : w.wait? c = none := ready
          dsimp only
          rw [short]
      | some wait => exact if_pos ready

namespace Mirrors

/-- A call that is not of those that wait for the background has to wait in the share as long as in
the whole. -/
theorem wait?_eq (h : Mirrors keep M w v) (plain : Plain (some tenant) c)
    (kept : keep tenant = true) (concerning : Concerning w (some tenant) o.id c) :
    WaitsAlike M (w.wait? c) (v.wait? c) := by
  cases c with
  | awaitFinished id =>
      have kept : w.keeps keep id = true := (HasRecord.keeps concerning keep).trans kept
      unfold World.wait?
      dsimp only
      cases held : w.ticket? id with
      | none =>
          rw [h.of_none kept held]
          exact .none
      | some k =>
          obtain ⟨k', held', pair⟩ := h.of_ticket? kept held
          rw [held']
          exact .finished pair
  | awaitBackground => cases plain
  | _ => exact .none

/-- What is ready in the whole is ready in the share. -/
theorem ready {a b : Option Wait} (h : Mirrors keep M w v) (waits : WaitsAlike M a b)
    (alike : WaitsAlike M (w.wait? c) (v.wait? c')) (ready : w.Ready c a) : v.Ready c' b := by
  cases waits with
  | none =>
      have short : w.wait? c = none := ready
      show v.wait? c' = none
      rw [short] at alike
      generalize v.wait? c' = b at alike
      cases alike with
      | none => rfl
  | finished pair => exact (h.isFinished pair).trans ready

end Mirrors

/-- What a task and its twin do in one turn of each. -/
def TurnsAlike (keep : String → Bool) (M : Ticket → Ticket → Prop) (v : World) (o : Chance)
    (t' u : Task) (w' : World) (new : List Task) : Prop :=
  ∃ u' v' M', (∀ k k', M k k' → M' k k') ∧ Goes v o u u' v' new ∧ Mirrors keep M' w' v' ∧
    Twins M' t' u'

section Turns

variable {job : Job} {past past' : List Exchange}
  {next : Reply c → Work (Except Failure job.Given)}
  {next' : Reply c' → Work (Except Failure job.Given)} {waiting waiting' : Option Wait}
  {held : Option (Ticket × Ticket)}

theorem Mirrors.waits {wait : Wait} (h : Mirrors keep M w v) (mine : job.tenant? = some tenant)
    (kept : keep tenant = true) (pairs : ∀ k k', held = some (k, k') → M k k')
    (alike : Alike job.tenant? (fun _ _ => True) held (.call c next) (.call c' next'))
    (concerning : Concerning w (some tenant) o.id c) (long : w.wait? c = some wait) :
    TurnsAlike keep M v o ⟨job, past, .call c next, some wait⟩
      ⟨job, past', .call c' next', none⟩ w [] := by
  have still := alike
  cases alike with
  | plain plain rest =>
      have waits := h.wait?_eq (mine ▸ plain) kept concerning
      rw [long] at waits
      generalize long' : v.wait? c = b at waits
      cases waits with
      | finished pair =>
          exact ⟨_, v, M, fun _ _ pair => pair, .waits long', h,
            .intro pairs still (.finished pair)⟩
  | register | attach | isCancelled | release => cases long

theorem Mirrors.answers (h : Mirrors keep M w v) (distinct : w.memory.Distinct)
    (given : ∀ {id k}, w.ticket? id = some k → k < w.runs.marks.length)
    (mine : job.tenant? = some tenant) (kept : keep tenant = true)
    (pairs : ∀ k k', held = some (k, k') → M k k')
    (alike : Alike job.tenant? (fun _ _ => True) held (.call c next) (.call c' next'))
    (waits : WaitsAlike M waiting waiting') (concerning : Concerning w (some tenant) o.id c)
    (working : o.outage = none) (ready : w.Ready c waiting) :
    TurnsAlike keep M v o
      ⟨job, past ++ [⟨c, (w.perform o c).1⟩], next (w.perform o c).1, none⟩
      ⟨job, past', .call c' next', waiting'⟩ (w.perform o c).2 (Task.started c) := by
  cases alike with
  | plain plain rest =>
      have plain' : Plain (some tenant) c := mine ▸ plain
      obtain ⟨same, mirrors⟩ := h.plain_kept distinct plain' kept concerning working
      refine ⟨_, _, M, fun _ _ pair => pair,
        .answered (h.ready waits (h.wait?_eq plain' kept concerning) ready), mirrors, ?_⟩
      rw [same]
      exact .intro pairs (rest _ (got_perform w o plain.asks)) .none
  | @register _ id _ _ rest =>
      have kept := (concerning.1.keeps keep).trans kept
      refine ⟨_, _, Mirrors.Paired M w v, fun _ _ => .inl, .answered (h.ready waits .none ready),
        h.register_kept kept given, ?_⟩
      exact .intro (fun k k' same => .inl (pairs k k' same)) (rest _ _) .none
  | @attach _ id next next' rest =>
      obtain ⟨record, k, held⟩ := concerning
      obtain ⟨k', held', pair⟩ := h.of_ticket? ((record.keeps keep).trans kept) held
      refine ⟨_, _, M, fun _ _ pair => pair, .answered (h.ready waits .none ready), ?_, ?_⟩
      · show Mirrors keep M (Mirrors.withRuns w (w.runs.attach id).2)
          (Mirrors.withRuns v (v.runs.attach id).2)
        rw [Runs.attach_of_some held, Runs.attach_of_some held']
        exact h.congr rfl rfl rfl rfl
      · show Twins M ⟨job, _, next (w.runs.attach id).1, none⟩
          ⟨job, _, next' (v.runs.attach id).1, none⟩
        rw [Runs.attach_of_some held, Runs.attach_of_some held']
        refine .intro (fun l l' same => ?_) (rest _ _) .none
        cases same
        exact pair
  | @isCancelled k k' next next' rest =>
      have pair := pairs k k' rfl
      refine ⟨_, _, M, fun _ _ pair => pair, .answered (h.ready waits .none ready), h, ?_⟩
      show Twins M ⟨job, _, next (w.runs.isCancelled k), none⟩
        ⟨job, _, next' (v.runs.isCancelled k'), none⟩
      rw [h.isCancelled pair]
      exact .intro pairs (rest _) .none
  | @release k k' id _ _ rest =>
      refine ⟨_, _, M, fun _ _ pair => pair, .answered (h.ready waits .none ready),
        h.release_kept (pairs k k' rfl), ?_⟩
      exact .intro (fun _ _ same => by cases same) rest .none

end Turns

/-- A task of a kept tenant goes on in the share as in the whole. -/
theorem Twins.turns (twins : Twins M t u) (goes : Goes w o t t' w' new) (h : Mirrors keep M w v)
    (distinct : w.memory.Distinct)
    (given : ∀ {id k}, w.ticket? id = some k → k < w.runs.marks.length)
    (mine : t.job.tenant? = some tenant) (kept : keep tenant = true)
    (concerning : ∀ c, t.next? = some c → Concerning w (some tenant) o.id c)
    (working : o.outage = none) : TurnsAlike keep M v o t' u w' new := by
  cases goes with
  | waits long =>
      cases twins with
      | @intro _ _ _ _ rest' _ _ held pairs alike waits =>
          cases waits with
          | none =>
              cases rest' with
              | done => cases alike
              | call c' next' => exact h.waits mine kept pairs alike (concerning _ rfl) long
  | answered ready =>
      cases twins with
      | @intro _ _ _ _ rest' _ _ held pairs alike waits =>
          cases rest' with
          | done => cases alike
          | call c' next' =>
              exact h.answers distinct given mine kept pairs alike waits (concerning _ rfl) working
                ready

end TriggerFlow.Server
