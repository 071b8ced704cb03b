import TriggerFlow.Proofs.Server.Agreement
import TriggerFlow.Proofs.Server.Roster

/-!
No run leaks its bookkeeping. Whatever operations come in between each other, and however their runs
end or are aborted, an execution is in the registry from its first save until its end is stored and
counted or its run has been aborted, and in the table of background tasks as long as its task is not
done. When every run has ended both are empty, and no cancellation waits any more.
-/

namespace TriggerFlow.Server

open Engine Program

variable {id fresh : String} {c : Call} {w w' : World} {o : Chance} {drawn : List String}
  {t t' : Task} {ts ts' others new : List Task}

/-- A record that a task goes on with was begun by a task, and one that was handed over is gone on
with. -/
structure Linked (ts : List Task) : Prop where
  begun : ∀ t ∈ ts, ∀ id, t.job.resumes? = some id → ∃ q ∈ ts, q.Begun id
  handed : ∀ t ∈ ts, ∀ id, t.stage = .handed id → ∃ q ∈ ts, q.job.resumes? = some id

theorem exists_mem_cons {P : Task → Prop} (still : P t → P t')
    (h : ∃ q ∈ t :: others, P q) : ∃ q ∈ t' :: (new ++ others), P q := by
  obtain ⟨q, hq, holds⟩ := h
  obtain rfl | hq := List.mem_cons.mp hq
  · exact ⟨t', .head _, still holds⟩
  · exact ⟨q, .tail _ (List.mem_append_right _ hq), holds⟩

theorem Linked.goes (h : Linked (t :: others)) (job : t'.job = t.job) (past : t.past ⊆ t'.past)
    (started : ∀ q ∈ new,
      (∀ id, q.job.resumes? = some id → t'.Begun id) ∧ ∀ id, q.stage ≠ .handed id)
    (handed : ∀ id, t'.stage = .handed id →
      t.stage = .handed id ∨ ∃ q ∈ new, q.job.resumes? = some id) :
    Linked (t' :: (new ++ others)) := by
  have begun {id : String} (h : ∃ q ∈ t :: others, q.Begun id) :
      ∃ q ∈ t' :: (new ++ others), q.Begun id :=
    exists_mem_cons (fun begun : t.Begun id => begun.mono past) h
  have resumed {id : String} (h : ∃ q ∈ t :: others, q.job.resumes? = some id) :
      ∃ q ∈ t' :: (new ++ others), q.job.resumes? = some id :=
    exists_mem_cons (fun resumes : t.job.resumes? = some id => job ▸ resumes) h
  constructor
  all_goals rw [List.forall_mem_cons, List.forall_mem_append]
  · exact ⟨fun id resumes => begun (h.begun t (.head _) id (job ▸ resumes)),
      fun q hq id resumes => ⟨t', .head _, (started q hq).1 id resumes⟩,
      fun q hq id resumes => begun (h.begun q (.tail _ hq) id resumes)⟩
  · refine ⟨fun id same => ?_, fun q hq id same => absurd same ((started q hq).2 id),
      fun q hq id same => resumed (h.handed q (.tail _ hq) id same)⟩
    obtain before | ⟨q, hq, resumes⟩ := handed id same
    · exact resumed (h.handed t (.head _) id before)
    · exact ⟨q, .tail _ (List.mem_append_left _ hq), resumes⟩

/-- The roster is kept by tasks that go from stage to stage as they may. -/
structure Accounted (drawn : List String) (w : World) (ts : List Task) : Prop
    extends Roster drawn w ts, Linked ts where
  steady : ∀ t ∈ ts, t.Steady

theorem Allows.handed {p : Stage} (h : Allows p c) {r : Reply c}
    (same : p.after ⟨c, r⟩ = .handed id) : ∃ w e, c = .startInBackground w e ∧ e.id = id := by
  cases h with
  | @hand w e launched =>
      cases same
      exact ⟨w, e, rfl, rfl⟩
  | aside free unrelated =>
      cases free with
      | early early =>
          have later : (Stage.after _ ⟨c, r⟩).Early := early.after unrelated
          rw [same] at later
          cases later
      | entered =>
          rw [after_entered unrelated] at same
          cases same
      | running =>
          rw [after_running unrelated] at same
          cases same
      | left =>
          rw [after_left unrelated] at same
          cases same
  | begin => match r with | .ok _ | .error _ => cases same
  | save d k t =>
      have led := after_save d k t r
      rw [same] at led
      cases led
  | register | attach | resume | abort | count | release | leave => cases same

theorem Allows.of_start {p : Stage} {v : Workflow} {e : Execution}
    (h : Allows p (.startInBackground v e)) : p = .entered e.id ∧ Launched v e := by
  cases h with
  | aside _ unrelated => exact unrelated.elim
  | hand launched => exact ⟨rfl, launched⟩

namespace Accounted

theorem perm (h : Accounted drawn w ts) (same : ts.Perm ts') : Accounted drawn w ts' where
  toRoster := h.toRoster.perm same
  begun t ht id resumes := by
    obtain ⟨q, hq, begun⟩ := h.begun t (same.mem_iff.mpr ht) id resumes
    exact ⟨q, same.mem_iff.mp hq, begun⟩
  handed t ht id stage := by
    obtain ⟨q, hq, resumes⟩ := h.handed t (same.mem_iff.mpr ht) id stage
    exact ⟨q, same.mem_iff.mp hq, resumes⟩
  steady t ht := h.steady t (same.mem_iff.mpr ht)

theorem answered (h : Accounted drawn w (t :: others)) (fresh : o.id ∉ drawn)
    (next : t.next? = some c) (steady : t'.Steady) (job : t'.job = t.job)
    (past : t'.past = t.past ++ [⟨c, (w.perform o c).1⟩]) :
    Accounted (o.id :: drawn) (w.perform o c).2 (t' :: (Task.started c ++ others)) := by
  have before := h.steady t (.head _)
  have allows := before.allows next
  have longer : t.past ⊆ t'.past := past ▸ List.subset_append_left _ _
  have stage : t'.stage = t.stage.after ⟨c, (w.perform o c).1⟩ := by
    rw [Task.stage, past, job, List.foldl_append]
    rfl
  have started : ∀ q ∈ Task.started c,
      ∃ v e, c = .startInBackground v e ∧ q = .start (.run v e) := by
    intro q hq
    cases c with
    | startInBackground v e => exact ⟨v, e, rfl, List.mem_singleton.mp hq⟩
    | _ => cases hq
  refine ⟨h.toRoster.answered fresh before allows job stage, h.toLinked.goes job longer ?_ ?_, ?_⟩
  · intro q hq
    obtain ⟨v, e, rfl, rfl⟩ := started q hq
    refine ⟨?_, fun _ same => by cases same⟩
    rintro _ ⟨⟩
    have backed := before.reflects.backed
    rw [allows.of_start.1] at backed
    exact Saved.mono backed longer
  · intro id same
    obtain ⟨v, e, rfl, rfl⟩ := allows.handed (stage.symm.trans same)
    exact .inr ⟨_, .head _, rfl⟩
  · rw [List.forall_mem_cons, List.forall_mem_append]
    refine ⟨steady, fun q hq => ?_, fun q hq => h.steady q (.tail _ hq)⟩
    obtain ⟨v, e, rfl, rfl⟩ := started q hq
    exact Task.steady_start allows.of_start.2

theorem waits (h : Accounted drawn w (t :: others)) (new : fresh ∉ drawn) (steady : t'.Steady)
    (job : t'.job = t.job) (past : t'.past = t.past) :
    Accounted (fresh :: drawn) w (t' :: ([] ++ others)) := by
  have stage : t'.stage = t.stage := by rw [Task.stage, Task.stage, job, past]
  refine ⟨h.toRoster.still new job (.refl w) (stage ▸ .refl _),
    h.toLinked.goes job (past ▸ List.Subset.refl _) (List.forall_mem_nil _)
      fun id same => .inl (stage ▸ same), ?_⟩
  rw [List.nil_append, List.forall_mem_cons]
  exact ⟨steady, fun q hq => h.steady q (.tail _ hq)⟩

theorem joined (h : Accounted drawn w ts) (op : Operation) :
    Accounted drawn w (.start (.operation op) :: ts) := by
  have idle (id : String) : (Task.start (.operation op)).stage.claim? ≠ some id := nofun
  refine ⟨⟨?_, ?_, ?_, ?_, h.finished, h.distinct⟩, ⟨?_, ?_⟩, ?_⟩
  · exact List.pairwise_cons.mpr ⟨fun _ _ id claims => absurd claims (idle id), h.apart⟩
  · exact List.forall_mem_cons.mpr ⟨fun id claims => absurd claims (idle id), h.claimed⟩
  · exact List.forall_mem_cons.mpr ⟨fun id claims => absurd claims (idle id), h.listed⟩
  · exact fun id unclaimed => h.vacant id (List.forall_mem_cons.mp unclaimed).2
  · refine List.forall_mem_cons.mpr ⟨nofun, fun t ht id resumes => ?_⟩
    obtain ⟨q, hq, begun⟩ := h.begun t ht id resumes
    exact ⟨q, .tail _ hq, begun⟩
  · refine List.forall_mem_cons.mpr ⟨nofun, fun t ht id same => ?_⟩
    obtain ⟨q, hq, resumes⟩ := h.handed t ht id same
    exact ⟨q, .tail _ hq, resumes⟩
  · exact List.forall_mem_cons.mpr ⟨Task.steady_start trivial, h.steady⟩

end Accounted

namespace State

variable {s s' : State} {m : Move} {moves : List Move}

theorem Turns.exists_others {i : Nat} (h : s.Turns s' i t t' new o) :
    ∃ others, s.tasks.Perm (t :: others) ∧ s'.tasks.Perm (t' :: (new ++ others)) := by
  obtain ⟨inside, rfl⟩ := List.getElem?_eq_some_iff.mp h.found
  refine ⟨s.tasks.eraseIdx i, (List.getElem_cons_eraseIdx_perm inside).symm, ?_⟩
  rw [h.tasks]
  exact ((List.set_perm_cons_eraseIdx inside t').append_right new).trans
    (.cons t' List.perm_append_comm)

theorem accounted_go {drawn : List String} (goes : Goes w o t t' w' new)
    (h : Accounted drawn w (t :: others)) (fresh : o.id ∉ drawn) :
    Accounted (o.id :: drawn) w' (t' :: (new ++ others)) := by
  have steady := h.steady t (.head _)
  cases goes with
  | waits => exact h.waits fresh ⟨steady.fit, steady.continues, steady.reflects⟩ rfl rfl
  | answered => exact h.answered fresh rfl (steady.answered _) rfl rfl

/-- Every move keeps the roster, as long as no id is drawn twice. -/
theorem accounted_move (moved : s.move m = some s')
    (h : s.drawn.Nodup → Accounted s.drawn s.world s.tasks) (distinct : s'.drawn.Nodup) :
    Accounted s'.drawn s'.world s'.tasks := by
  cases m with
  | submit op =>
      cases moved
      exact ((h distinct).joined op).perm (List.perm_append_singleton _ _).symm
  | go i o =>
      obtain ⟨t, t', new, turns⟩ := turns_of_move moved
      obtain ⟨others, before, after⟩ := turns.exists_others
      rw [turns.drawn] at distinct ⊢
      obtain ⟨fresh, distinct⟩ := List.nodup_cons.mp distinct
      exact (accounted_go turns.goes ((h distinct).perm before) fresh).perm after.symm

theorem accounted_of_follow {memory : Store.Memory}
    (moved : State.follow ⟨⟨memory, .empty, []⟩, [], []⟩ moves = some s)
    (distinct : s.drawn.Nodup) :
    Accounted s.drawn s.world s.tasks := by
  refine follow_preserves (P := fun s => s.drawn.Nodup → Accounted s.drawn s.world s.tasks)
    (Q := fun _ => True) moved (fun _ _ => trivial) ?_ (fun _ moved h => accounted_move moved h)
    distinct
  intro _
  exact ⟨⟨.nil, List.forall_mem_nil _, List.forall_mem_nil _, fun _ _ => ⟨rfl, List.not_mem_nil⟩,
    fun _ => .inl rfl, List.nodup_nil⟩, ⟨List.forall_mem_nil _, List.forall_mem_nil _⟩,
    List.forall_mem_nil _⟩

def Begun (s : State) (id : String) : Prop := ∃ t ∈ s.tasks, t.Begun id

def Ceased (s : State) (id : String) : Prop := ∃ t ∈ s.tasks, t.Ceased id

def Next (s : State) (c : Call) : Prop := ∃ t ∈ s.tasks, t.next? = some c

end State

section Stages

variable {p : Stage} {k : Ticket}

theorem Allows.of_begun (h : Allows (.begun id) c) : c = .register id := by
  cases h with
  | aside free => cases free with | early early => cases early
  | register => rfl

theorem Allows.of_ending (h : Allows (.ending id k) c) : c = .release id k := by
  cases h with
  | aside free => cases free with | early early => cases early
  | release => rfl

theorem Job.Over.idle {j : Job} (h : j.Over p) : p.isRegistered = false ∧ ∀ id, p ≠ .begun id := by
  cases j with
  | operation o =>
      cases h with
      | early early => cases early <;> exact ⟨rfl, nofun⟩
      | denied | handed | left => exact ⟨rfl, nofun⟩
  | run w e =>
      obtain rfl : p = .gone e.id := h
      exact ⟨rfl, nofun⟩

theorem Task.Steady.exists_next (h : t.Steady)
    (busy : t.stage.isRegistered = true ∨ ∃ id, t.stage = .begun id) : ∃ c, t.next? = some c := by
  cases next : t.next? with
  | some c => exact ⟨c, rfl⟩
  | none =>
      obtain ⟨unregistered, unbegun⟩ := (h.over next).idle
      obtain registered | ⟨id, begun⟩ := busy
      · cases unregistered.symm.trans registered
      · exact absurd begun (unbegun id)

theorem Task.Steady.next_of_over (h : t.Steady) (claims : t.stage.claim? = some id)
    (registered : t.stage.isRegistered = true) (ended : t.stage.isOver = true) :
    ∃ k, t.next? = some (.release id k) := by
  obtain ⟨c, next⟩ := h.exists_next (.inl registered)
  have allows := h.allows next
  generalize t.stage = p at claims registered ended allows
  cases p with
  | ending id' k =>
      cases claims
      exact ⟨k, next.trans (congrArg some allows.of_ending)⟩
  | left | gone => cases registered
  | _ => cases ended

theorem Task.Steady.held?_of_release (h : t.Steady) (next : t.next? = some (.release id k)) :
    t.stage.held? = some k := by
  obtain ending | ⟨w, e, u, -, running, -⟩ := (h.allows next).of_release
  · rw [ending]; rfl
  · rw [running]; rfl

theorem Stage.saved?_of_registered (claims : p.claim? = some id)
    (registered : p.isRegistered = true) :
    p.saved? = some id := by
  cases p <;> first | exact claims | cases registered

theorem Stage.busy_of_saved (claims : p.claim? = some id) (saved : p.saved? = some id)
    (unfinished : p.isOver = false) : p = .begun id ∨ p.isRegistered = true := by
  cases p with
  | begun => exact .inl (congrArg Stage.begun (Option.some.inj claims))
  | entered | taken | running | counting => exact .inr rfl
  | idle | handed => cases claims
  | drew | denied => cases saved
  | ending | left | gone => cases unfinished

theorem Allows.not_gone (h : Allows p c) : p.isGone = false := by
  cases h with
  | aside free => cases free with
    | early early => cases early <;> rfl
    | entered | running | left => rfl
  | _ => rfl

theorem Task.Steady.isHosted_eq {v : Workflow} {e : Execution} (h : t.Steady)
    (job : t.job = .run v e) : t.isHosted = t.next?.isSome := by
  have resumes : t.job.resumes? = some e.id := by rw [job]; rfl
  rw [Task.isHosted, resumes]
  cases next : t.next? with
  | some c =>
      rw [(h.allows next).not_gone]
      rfl
  | none =>
      have ended := h.over next
      rw [job] at ended
      have gone : t.stage = .gone e.id := ended
      rw [gone]
      rfl

theorem Task.Steady.claim? {v : Workflow} {e : Execution} (h : t.Steady)
    (job : t.job = .run v e) : t.stage.claim? = some e.id :=
  Stage.claim?_of_resumed? (h.reflects.resumed (by rw [job]; rfl))

theorem Task.exists_run (hosted : t.isHosted = true) : ∃ v e, t.job = .run v e := by
  cases job : t.job with
  | run v e => exact ⟨v, e, rfl⟩
  | operation o =>
      rw [Task.isHosted, job] at hosted
      cases hosted

end Stages

namespace Accounted

variable {s : State} (h : Accounted s.drawn s.world s.tasks)
include h

theorem eq_of_claims {q : Task} (ht : t ∈ s.tasks) (hq : q ∈ s.tasks)
    (claims : t.stage.claim? = some id) (claims' : q.stage.claim? = some id) : q = t := by
  by_contra other
  exact h.apart.forall hq ht other id claims' claims

theorem exists_saved (begun : s.Begun id) :
    ∃ t ∈ s.tasks, t.stage.claim? = some id ∧ t.stage.saved? = some id := by
  obtain ⟨t, ht, begun⟩ := begun
  have saved := (h.steady t ht).saved? begun
  by_cases claims : t.stage.claim? = some id
  · exact ⟨t, ht, claims, saved⟩
  · have handed : t.stage = .handed id := by
      generalize t.stage = p at saved claims
      cases p <;> first | exact absurd saved claims | cases saved; rfl | cases saved
    obtain ⟨q, hq, resumes⟩ := h.handed t ht id handed
    have resumed := (h.steady q hq).reflects.resumed resumes
    exact ⟨q, hq, Stage.claim?_of_resumed? resumed, Stage.saved?_of_resumed? resumed⟩

theorem begun_of_saved (ht : t ∈ s.tasks) (saved : t.stage.saved? = some id) : s.Begun id := by
  obtain begun | resumes := (h.steady t ht).begun saved
  · exact ⟨t, ht, begun⟩
  · exact h.begun t ht id resumes

theorem claims_of_ticket {k : Ticket} (ticket : s.world.ticket? id = some k) :
    ∃ t ∈ s.tasks, t.stage.claim? = some id ∧ t.stage.isRegistered = true := by
  by_contra none
  simp only [not_exists, not_and] at none
  have unclaimed : ∀ t ∈ s.tasks, t.stage.claim? ≠ some id := fun t ht claims =>
    none t ht claims ((h.listed t ht id claims).ticket.mp ⟨k, ticket⟩)
  cases (h.vacant id unclaimed).1.symm.trans ticket

theorem of_ceased (ht : t ∈ s.tasks) (claims : t.stage.claim? = some id) (ceased : s.Ceased id) :
    t.stage = .denied id ∨ t.stage.isOver = true ∨ ∃ k, t.next? = some (.release id k) := by
  obtain ⟨q, hq, ceased⟩ := ceased
  obtain denied | ⟨saved, ended⟩ | ⟨k, next⟩ := (h.steady q hq).of_ceased ceased
  · obtain rfl := h.eq_of_claims ht hq claims (by rw [denied]; rfl)
    exact .inl denied
  · obtain rfl := h.eq_of_claims ht hq claims ((Stage.claim?_of_isOver ended).trans saved)
    exact .inr (.inl ended)
  · obtain rfl := h.eq_of_claims ht hq claims ((h.steady q hq).allows next).claim?_of_release
    exact .inr (.inr ⟨k, next⟩)

/-- A run that was begun and has not ceased is registered, or is registered next. -/
theorem listed_of_begun (begun : s.Begun id) (ongoing : ¬ s.Ceased id) :
    (∃ k, s.world.ticket? id = some k ∧ ¬ s.Next (.release id k)) ∨ s.Next (.register id) := by
  obtain ⟨t, ht, claims, saved⟩ := h.exists_saved begun
  have steady := h.steady t ht
  have unfinished : t.stage.isOver = false := by
    rw [← Bool.not_eq_true]
    exact fun ended => ongoing ⟨t, ht, steady.ceased saved ended⟩
  obtain unregistered | registered := Stage.busy_of_saved claims saved unfinished
  · obtain ⟨c, next⟩ := steady.exists_next (.inr ⟨id, unregistered⟩)
    have allows := steady.allows next
    rw [unregistered] at allows
    exact .inr ⟨t, ht, next.trans (congrArg some allows.of_begun)⟩
  · obtain ⟨k, ticket⟩ := (h.listed t ht id claims).ticket.mpr registered
    exact .inl ⟨k, ticket, fun ⟨q, hq, next⟩ =>
      ongoing ⟨q, hq, (h.steady q hq).ceased_of_release next⟩⟩

theorem ongoing_of_ticket {k : Ticket} (ticket : s.world.ticket? id = some k)
    (stays : ¬ s.Next (.release id k)) : s.Begun id ∧ ¬ s.Ceased id := by
  obtain ⟨t, ht, claims, registered⟩ := h.claims_of_ticket ticket
  have steady := h.steady t ht
  refine ⟨h.begun_of_saved ht (Stage.saved?_of_registered claims registered), fun ceased => ?_⟩
  have releases : ∃ j, t.next? = some (.release id j) := by
    obtain denied | ended | next := h.of_ceased ht claims ceased
    · rw [denied] at registered
      cases registered
    · exact steady.next_of_over claims registered ended
    · exact next
  obtain ⟨j, next⟩ := releases
  have held := (h.listed t ht id claims).held (steady.held?_of_release next)
  cases ticket.symm.trans held
  exact stays ⟨t, ht, next⟩

theorem ongoing_of_next (next : s.Next (.register id)) : s.Begun id ∧ ¬ s.Ceased id := by
  obtain ⟨t, ht, next⟩ := next
  have begun := ((h.steady t ht).allows next).of_register
  refine ⟨h.begun_of_saved ht (by rw [begun]; rfl), fun ceased => ?_⟩
  obtain denied | ended | ⟨k, releases⟩ := h.of_ceased ht (by rw [begun]; rfl) ceased
  · cases begun.symm.trans denied
  · rw [begun] at ended
    cases ended
  · cases next.symm.trans releases

theorem mem_background : id ∈ s.world.background ↔
    ∃ t ∈ s.tasks, t.next?.isSome = true ∧ ∃ v e, t.job = .run v e ∧ e.id = id := by
  constructor
  · intro there
    by_contra none
    refine (h.vacant id fun t ht claims => none ?_).2 there
    have hosted := (h.listed t ht id claims).background.mp there
    obtain ⟨v, e, job⟩ := Task.exists_run hosted
    have steady := h.steady t ht
    exact ⟨t, ht, (steady.isHosted_eq job).symm.trans hosted, v, e, job,
      Option.some.inj ((steady.claim? job).symm.trans claims)⟩
  · rintro ⟨t, ht, next, v, e, job, rfl⟩
    have steady := h.steady t ht
    have listed := h.listed t ht e.id (steady.claim? job)
    exact listed.background.mpr ((steady.isHosted_eq job).trans next)

end Accounted

def Job.isRun : Job → Bool
  | .run _ _ | .operation (.execute _ _ _) => true
  | .operation _ => false

theorem Task.Steady.isRun (h : t.Steady) (registered : t.stage.isRegistered = true) :
    t.job.isRun = true := by
  obtain ⟨job, past, rest, waiting⟩ := t
  cases job with
  | run v e => rfl
  | operation o =>
      obtain ⟨tenant, id, request, rfl⟩ | bystander := execute_or_bystander o
      · rfl
      · -- all its calls are unrelated to runs, so it has not come further than to an id
        obtain ⟨u, a, ends⟩ := exists_ends rest
        have unrelated := bystander.of_mem (h.continues u a ends)
        rw [List.forall_mem_append] at unrelated
        have walked := regular_early .idle unrelated.1
        rw [← List.append_nil past] at walked
        have early : (past.foldl Stage.after .idle).Early := walked.rest
        cases early.isRegistered.symm.trans registered

/-- A cancellation waits for nothing but the end of a run. -/
theorem wait?_of_inquires {tenant : String} (inquires : Inquires tenant id c)
    (absent : w.ticket? id = none) : w.wait? c = none := by
  cases inquires with
  | await => rw [World.wait?, absent]; rfl
  | read | ask | date | mark => rfl

namespace Accounted

variable {s : State} (h : Accounted s.drawn s.world s.tasks)
include h

section Ended

variable (ended : ∀ t ∈ s.tasks, t.job.isRun = true → t.next? = none)
include ended

theorem ticket?_of_ended (id : String) : s.world.ticket? id = none := by
  rw [Option.eq_none_iff_forall_ne_some]
  intro k ticket
  obtain ⟨t, ht, -, registered⟩ := h.claims_of_ticket ticket
  have steady := h.steady t ht
  obtain ⟨c, next⟩ := steady.exists_next (.inl registered)
  cases next.symm.trans (ended t ht (steady.isRun registered))

theorem active_of_ended : s.world.runs.active = [] := by
  have absent := h.ticket?_of_ended ended
  cases active : s.world.runs.active with
  | nil => rfl
  | cons x rest =>
      have ticket : s.world.ticket? x.1 = some x.2 := by
        rw [World.ticket?, Runs.ticket?, active, Keyed.get?_cons, if_pos rfl]
      cases (absent x.1).symm.trans ticket

theorem background_of_ended : s.world.background = [] := by
  refine List.eq_nil_iff_forall_not_mem.mpr fun id there => ?_
  obtain ⟨t, ht, next, v, e, job, -⟩ := h.mem_background.mp there
  rw [ended t ht (by rw [job]; rfl)] at next
  cases next

theorem isOver_of_ended (wait : Wait) : s.world.isOver wait = true := by
  cases wait with
  | finished k =>
      obtain finished | ⟨id, ticket⟩ := h.finished k
      · exact finished
      · cases (h.ticket?_of_ended ended id).symm.trans ticket
  | background executions =>
      rw [World.isOver, h.background_of_ended ended]
      simp

theorem ready_of_ended {tenant : String} (ht : t ∈ s.tasks)
    (cancels : t.job = .operation (.cancelExecution tenant id)) (next : t.next? = some c) :
    s.world.Ready c t.waiting := by
  have continues := (h.steady t ht).continues
  obtain ⟨job, past, rest, waiting⟩ := t
  cases rest with
  | done a => cases next
  | call c' next' =>
      cases next
      obtain rfl : job = _ := cancels
      cases waiting with
      | some wait => exact h.isOver_of_ended ended wait
      | none =>
          have inquires : Inquires tenant id c := continues.next_call fun u a ends =>
            (cancelling_of_ends ends).inquires
          exact wait?_of_inquires inquires (h.ticket?_of_ended ended id)

end Ended

end Accounted

/-- What the registry and the table of background tasks hold. -/
structure Bookkeeping (s : State) : Prop where
  /-- A run is registered from the first save of its record until it is done or aborted: the
  registry is entered with the next call, and left with the next call. -/
  registered : ∀ id, s.Begun id ∧ ¬ s.Ceased id ↔
    (∃ k, s.world.ticket? id = some k ∧ ¬ s.Next (.release id k)) ∨ s.Next (.register id)
  background : ∀ id, id ∈ s.world.background ↔
    ∃ t ∈ s.tasks, t.next?.isSome = true ∧ ∃ v e, t.job = .run v e ∧ e.id = id
  /-- Nothing is left when all runs have ended, and no cancellation has to wait. -/
  cleared : (∀ t ∈ s.tasks, t.job.isRun = true → t.next? = none) →
    s.world.runs.active = [] ∧ s.world.background = [] ∧
      ∀ t ∈ s.tasks, ∀ tenant id c, t.job = .operation (.cancelExecution tenant id) →
        t.next? = some c → s.world.Ready c t.waiting

/-- Where nobody enters or leaves the registry with the next call, it holds the runs that have begun
and not ceased. -/
theorem Bookkeeping.ticket_iff {s : State} (h : Bookkeeping s)
    (rest : ∀ id k, ¬ s.Next (.release id k) ∧ ¬ s.Next (.register id)) :
    (∃ k, s.world.ticket? id = some k) ↔ s.Begun id ∧ ¬ s.Ceased id := by
  rw [h.registered, or_iff_left (rest id 0).2]
  simp only [(rest id _).1, not_false_eq_true, and_true]

/-- However operations come in between each other over a store that may fail, no run leaks its
bookkeeping, as long as no id is drawn twice. -/
theorem runs_are_accounted_for {memory : Store.Memory} {moves : List Move} {s : State}
    (moved : State.follow ⟨⟨memory, .empty, []⟩, [], []⟩ moves = some s)
    (distinct : s.drawn.Nodup) :
    Bookkeeping s := by
  have accounted := State.accounted_of_follow moved distinct
  refine ⟨fun id => ⟨fun ⟨begun, ongoing⟩ => accounted.listed_of_begun begun ongoing, ?_⟩,
    fun id => accounted.mem_background, fun ended => ?_⟩
  · rintro (⟨k, ticket, stays⟩ | next)
    · exact accounted.ongoing_of_ticket ticket stays
    · exact accounted.ongoing_of_next next
  · exact ⟨accounted.active_of_ended ended, accounted.background_of_ended ended,
      fun t ht tenant id c cancels next => accounted.ready_of_ended ended ht cancels next⟩

/-- A run of the sample in the background is about to save a step, while a cancellation waits for
its end. -/
def waitingMoves : List Move :=
  .submit (.execute "tenant" "sample" ⟨.null, true⟩) :: turns 0 0 7 ++ turns 1 7 6 ++
  .submit (.cancelExecution "tenant" "1") :: turns 2 13 3

/-- The store refuses the save, which takes the run down; then the sample is executed to its end. -/
def abortedMoves : List Move :=
  waitingMoves ++
  .go 1 { Chance.calm (.utc 0) "16" with outage := some diskFull } :: turns 1 17 2 ++
  .submit (.execute "tenant" "sample" ⟨.null, false⟩) :: turns 3 19 45

theorem aborted_sample_accounted_for : ∃ s s' : State,
    State.follow ⟨⟨sampleStore, .empty, []⟩, [], []⟩ waitingMoves = some s ∧
    s.world.runs.active = [("1", 0)] ∧ s.world.background = ["1"] ∧ Bookkeeping s ∧
    State.follow ⟨⟨sampleStore, .empty, []⟩, [], []⟩ abortedMoves = some s' ∧
    s'.tasks.map (·.next?.isSome) = [false, false, true, false] ∧ s'.world.runs.active = [] ∧
    s'.world.background = [] ∧ s'.world.isOver (.finished 0) = true ∧ Bookkeeping s' := by
  obtain ⟨s, moved, shown⟩ := Option.map_eq_some_iff.mp
    (show (State.follow ⟨⟨sampleStore, .empty, []⟩, [], []⟩ waitingMoves).map (fun s =>
      (decide s.drawn.Nodup, s.world.runs.active, s.world.background)) =
        some (true, [("1", 0)], ["1"]) by decide +kernel)
  obtain ⟨s', moved', shown'⟩ := Option.map_eq_some_iff.mp
    (show (State.follow ⟨⟨sampleStore, .empty, []⟩, [], []⟩ abortedMoves).map (fun s =>
      (decide s.drawn.Nodup && s.world.isOver (.finished 0), s.tasks.map (·.next?.isSome),
        s.world.runs.active, s.world.background)) =
        some (true, [false, false, true, false], [], []) by decide +kernel)
  simp only [Prod.mk.injEq, Bool.and_eq_true, decide_eq_true_eq] at shown shown'
  obtain ⟨distinct, registered, hosted⟩ := shown
  obtain ⟨⟨distinct', finished⟩, ended, unregistered, unhosted⟩ := shown'
  exact ⟨s, s', moved, registered, hosted, runs_are_accounted_for moved distinct, moved', ended,
    unregistered, unhosted, finished, runs_are_accounted_for moved' distinct'⟩

end TriggerFlow.Server
