import Mathlib.Data.Fintype.EquivFin
import TriggerFlow.Proofs.Server.Agreement
import TriggerFlow.Proofs.Server.Twins

/-!
Tenants do not interfere. A service from which everything of the other tenants is taken away, and in
which only the moves of the tenants that are kept are made, goes through the same as the whole
service does: their tasks come to the same, and what is theirs is the same.
-/

namespace TriggerFlow

variable {α β : Type}

theorem Keyed.get?_filter_key (m : Keyed α) (p : String → Bool) (k : String) :
    Keyed.get? (m.filter fun x => p x.1) k = if p k then m.get? k else none := by
  induction m with
  | nil => simp [Keyed.get?]
  | cons x m ih =>
      obtain ⟨key, a⟩ := x
      by_cases same : k = key
      · subst same
        cases kept : p k <;> simp [kept, Keyed.get?_cons, ih]
      · cases kept : p key <;> simp [kept, Keyed.get?_cons, same, ih]

theorem Store.Memory.part_part (m : Store.Memory) (keep : String → Bool) :
    (m.part keep).part keep = m.part keep := by
  simp [Store.Memory.part, Keyed.part, List.filter_filter]

namespace Server

open Engine Program Service
open Store (Memory)

variable {w v : World} {o : Chance} {id : String} {k : Ticket} {keep : String → Bool}
  {M M' : Ticket → Ticket → Prop} {s s' u : State} {t t' : Task} {new : List Task} {m : Move}
  {moves : List Move} {i : Nat}

section Lists

variable {R : α → β → Prop} {xs ys : List α} {x : α} {us : List β}

theorem forall₂_cut (h : List.Forall₂ R (xs ++ x :: ys) us) :
    ∃ before u after, us = before ++ u :: after ∧ List.Forall₂ R xs before ∧ R x u ∧
      List.Forall₂ R ys after := by
  induction xs generalizing us with
  | nil =>
      obtain ⟨u, after, here, rest, rfl⟩ := List.forall₂_cons_left_iff.mp h
      exact ⟨[], u, after, rfl, .nil, here, rest⟩
  | cons y xs ih =>
      obtain ⟨v, rest, first, others, rfl⟩ := List.forall₂_cons_left_iff.mp h
      obtain ⟨before, u, after, rfl, earlier, here, later⟩ := ih others
      exact ⟨v :: before, u, after, rfl, .cons first earlier, here, later⟩

theorem exists_cut {i : Nat} (h : xs[i]? = some x) :
    ∃ before after, xs = before ++ x :: after ∧ before.length = i := by
  obtain ⟨inside, here⟩ := List.getElem?_eq_some_iff.mp h
  refine ⟨xs.take i, xs.drop (i + 1), ?_, List.length_take_of_le inside.le⟩
  rw [← here, List.getElem_cons_drop, List.take_append_drop]

theorem getElem?_length (xs : List α) (x : α) (ys : List α) :
    (xs ++ x :: ys)[xs.length]? = some x := by
  rw [List.getElem?_append_right le_rfl, Nat.sub_self, List.getElem?_cons_zero]

theorem set_length (xs : List α) (x y : α) (ys : List α) :
    (xs ++ x :: ys).set xs.length y = xs ++ y :: ys := by
  rw [List.set_append_right _ _ le_rfl, Nat.sub_self, List.set_cons_zero]

theorem eraseIdx_length (xs : List α) (x : α) (ys : List α) :
    (xs ++ x :: ys).eraseIdx xs.length = xs ++ ys := by
  rw [List.eraseIdx_append_of_length_le le_rfl, Nat.sub_self, List.eraseIdx_cons_zero]

theorem forall_of_forall₂ {P : α → Prop} {Q : β → Prop} (h : List.Forall₂ R xs us)
    (all : ∀ x ∈ xs, P x) (imp : ∀ x u, R x u → P x → Q u) : ∀ u ∈ us, Q u := by
  induction h with
  | nil => exact List.forall_mem_nil _
  | cons here _ ih =>
      rw [List.forall_mem_cons] at all ⊢
      exact ⟨imp _ _ here all.1, ih all.2⟩

end Lists

section Parts

/-- What some tenants have in a world: what is stored for them, and the mark of every run of theirs
that is registered. -/
structure Share where
  memory : Memory
  mark? : String → Option Mark

def World.share (w : World) (keep : String → Bool) : Share :=
  ⟨w.memory.part keep, fun id => (w.keptTicket? keep id).bind fun k => w.runs.marks[k]?⟩

/-- A world from which everything of the tenants that are not kept is taken away. Tickets are places
among the marks, so those stay where they are. -/
def World.part (w : World) (keep : String → Bool) : World :=
  ⟨w.memory.part keep, ⟨w.runs.active.filter fun x => w.keeps keep x.1, w.runs.marks⟩,
    w.background.filter (w.keeps keep)⟩

def Job.isKept (keep : String → Bool) (j : Job) : Bool := j.tenant?.any keep

def Task.isKept (keep : String → Bool) (t : Task) : Bool := t.job.isKept keep

namespace State

/-- A service from which the tasks of the tenants that are not kept are taken away, too. -/
def part (s : State) (keep : String → Bool) : State :=
  ⟨s.world.part keep, s.drawn, s.tasks.filter (·.isKept keep)⟩

def only (s : State) (tenant : String) : State := s.part (· == tenant)

def without (s : State) (tenant : String) : State := s.part (· != tenant)

def place (s : State) (keep : String → Bool) (i : Nat) : Nat :=
  (s.tasks.take i).countP (·.isKept keep)

/-- A move of a tenant that is kept, as it is made without the others. -/
def own (s : State) (keep : String → Bool) : Move → List Move
  | .submit op => if op.tenant?.any keep then [.submit op] else []
  | .go i o => if s.tasks[i]?.any (·.isKept keep) then [.go (s.place keep i) o] else []

/-- The moves of the tenants that are kept. To close the service is nobody's. -/
def purged (s : State) (keep : String → Bool) : List Move → List Move
  | [] => []
  | m :: ms => s.own keep m ++ (s.move m).elim [] fun s' => s'.purged keep ms

def outcome? (s : State) (i : Nat) : Option (Σ j : Job, Option (Except Failure j.Given)) :=
  s.tasks[i]?.map Task.outcome

end State

end Parts

namespace Mirrors

theorem keeps_eq (h : Mirrors keep M w v) (distinct : w.memory.Distinct) (id : String) :
    v.keeps keep id = w.keeps keep id := by
  have found : v.record? id = (w.record? id).filter fun e => keep e.tenant := by
    rw [World.record?, h.memory]
    exact Keyed.get?_part distinct.executions (fun e => keep e.tenant) id
  rw [World.keeps, World.keeps, found]
  cases w.record? id with
  | none => rfl
  | some e => cases kept : keep e.tenant <;> simp [Option.filter_some, kept]

theorem share_eq (h : Mirrors keep M w v) (distinct : w.memory.Distinct) :
    v.share keep = w.share keep := by
  have marks (id : String) : ((v.keptTicket? keep id).bind fun k => v.runs.marks[k]?) =
      (w.keptTicket? keep id).bind fun k => w.runs.marks[k]? := by
    have rel := h.tickets id
    rw [World.keptTicket?, World.keptTicket?, h.keeps_eq distinct]
    rw [World.keptTicket?] at rel
    split
    · next kept =>
      rw [if_pos kept] at rel
      generalize w.ticket? id = a, v.ticket? id = b at rel
      cases rel with
      | none => rfl
      | some pair =>
          obtain ⟨m, marked, marked'⟩ := h.marks pair
          exact marked'.trans marked.symm
    · rfl
  rw [World.share, World.share, h.memory, Memory.part_part]
  exact congrArg (Share.mk _) (funext marks)

end Mirrors

/-- A service does what the kept tenants do in another one. -/
structure Follows (keep : String → Bool) (M : Ticket → Ticket → Prop) (s u : State) : Prop where
  mirrors : Mirrors keep M s.world u.world
  tasks : List.Forall₂ (Twins M) (s.tasks.filter (·.isKept keep)) u.tasks
  drawn : ∀ id ∈ u.drawn, id ∈ s.drawn

section Start

/-- The tickets that are not another tenant's, each with itself. -/
def Same (w : World) (keep : String → Bool) (k k' : Ticket) : Prop :=
  k = k' ∧ k < w.runs.marks.length ∧ ∀ id, w.ticket? id = some k → w.keeps keep id = true

theorem Same.of_reserved (h : Reserved w.runs id k) (kept : w.keeps keep id = true) :
    Same w keep k k :=
  ⟨rfl, h.given, fun other held => (h.only other held).symm ▸ kept⟩

variable {owners : String → Option String} {drawn : List String} {owner : Option String}
  {p : Phase} {lost : String → Prop}

theorem mirrors_part (books : Books owners drawn w) :
    Mirrors keep (Same w keep) w (w.part keep) where
  memory := rfl
  tickets id := by
    have held : (w.part keep).ticket? id = if w.keeps keep id then w.ticket? id else none :=
      Keyed.get?_filter_key w.runs.active (w.keeps keep) id
    rw [World.keptTicket?, held]
    split
    · next kept =>
      cases held : w.ticket? id with
      | none => exact .none
      | some k => exact .some (.of_reserved (books.reserved held) kept)
    · exact .none
  marks := by
    rintro k k' ⟨rfl, given, -⟩
    exact ⟨_, List.getElem?_eq_getElem given, List.getElem?_eq_getElem given⟩
  left := by
    rintro k k' l' ⟨rfl, -⟩ ⟨rfl, -⟩
    rfl
  right := by
    rintro k l k' ⟨rfl, -⟩ ⟨rfl, -⟩
    rfl
  kept pair held := pair.2.2 _ held

theorem record_of_held (holds : p.Holds owners w lost) (belongs : p.BelongsTo owner)
    (held : p.held? = some k) : ∃ id, w.ticket? id = some k ∧ HasRecord w owner id := by
  cases p with
  | running v e l frames =>
      cases held
      obtain ⟨-, ⟨l, stored, earlier⟩, ticket⟩ := holds
      exact ⟨e.id, ticket, l, stored, belongs.trans (congrArg some earlier.tenant.symm)⟩
  | stored d l | counted d l =>
      cases held
      exact ⟨d.id, holds.2.2, d, holds.2.1, belongs⟩
  | _ => cases held

namespace State

theorem Orderly.same_held (h : s.Orderly) (ht : t ∈ s.tasks) (kept : t.isKept keep = true)
    (held : t.reached.held? = some k) : Same s.world keep k k := by
  obtain ⟨owners, account⟩ := h.account
  have holds := account.holds _ (List.mem_map_of_mem ht)
  have away (id tenant : String) : t.reached ≠ .asked id tenant := by
    intro asked
    rw [asked] at held
    cases held
  rw [Task.phase_eq away] at holds
  obtain ⟨id, ticket, record⟩ := record_of_held holds (h.tame t ht).belongs held
  exact .of_reserved (account.books.reserved ticket) ((record.keeps keep).trans kept)

theorem Orderly.waits_same (h : s.Orderly) (ht : t ∈ s.tasks) (kept : t.isKept keep = true) :
    WaitsAlike (Same s.world keep) t.waiting t.waiting := by
  have sound := h.tasks t ht
  have tame := h.tame t ht
  have awaited := h.awaited t ht
  cases waiting : t.waiting with
  | none => exact .none
  | some wait =>
      obtain ⟨w₀, c, next, long⟩ := sound.waits waiting
      obtain ⟨fresh, new⟩ := Infinite.exists_notMem_finset s.drawn.toFinset
      rw [List.mem_toFinset] at new
      have concerning := h.concerning ht next new
      cases c with
      | awaitFinished id =>
          obtain ⟨k, -, rfl⟩ := Option.map_eq_some_iff.mp long
          exact .finished (.of_reserved (awaited id k next waiting)
            ((HasRecord.keeps concerning keep).trans kept))
      | awaitBackground =>
          obtain ⟨tenant, mine, -⟩ := (Option.any_eq_true ..).mp kept
          cases mine.symm.trans (tame.owner_of_background next)
      | _ => cases long

theorem Orderly.follows_part (h : s.Orderly) (keep : String → Bool) :
    Follows keep (Same s.world keep) s (s.part keep) := by
  obtain ⟨owners, account⟩ := h.account
  refine ⟨mirrors_part account.books, List.forall₂_same.mpr fun t ht => ?_, fun id drawn => drawn⟩
  obtain ⟨ht, kept⟩ := List.mem_filter.mp ht
  have tame := h.tame t ht
  have held (k : Ticket) := h.same_held ht kept (k := k)
  have waits := h.waits_same ht kept
  obtain ⟨job, past, rest, waiting⟩ := t
  refine .intro (fun k k' same => ?_) tame.alike waits
  obtain ⟨here, rfl⟩ := both_eq_some same
  exact held k here

end State

end Start

section Steps

theorem State.play_turn {us vs : List Task} {w' : World} (cut : s.tasks = us ++ t :: vs)
    (working : o.outage = none) (fresh : o.id ∉ s.drawn)
    (quiet : ∀ q ∈ us ++ vs, q.registers = false) (goes : Goes s.world o t t' w' new) :
    s.play [.go us.length o] = some ⟨w', o.id :: s.drawn, us ++ t' :: vs ++ new⟩ := by
  have allowed : s.allows (.go us.length o) = true := by
    rw [allows_go, cut, eraseIdx_length]
    exact ⟨working, fresh, quiet⟩
  have moved : s.move (.go us.length o) = some ⟨w', o.id :: s.drawn, us ++ t' :: vs ++ new⟩ := by
    rw [move, cut, getElem?_length, Option.bind_some, go_of_goes goes, Option.map_some]
    dsimp only
    rw [set_length]
  rw [play, if_pos allowed, moved]
  rfl

theorem State.play_append {rest : List Move} (played : s.play moves = some s') :
    s.play (moves ++ rest) = s'.play rest := by
  induction moves generalizing s with
  | nil =>
      cases played
      rfl
  | cons m moves ih =>
      rw [play] at played
      split at played
      · next allowed =>
        obtain ⟨s₁, moved, played⟩ := Option.bind_eq_some_iff.mp played
        rw [List.cons_append, play, if_pos allowed, moved]
        exact ih played
      · cases played

theorem isKept_goes {w' : World} (keep : String → Bool) (goes : Goes w o t t' w' new)
    (tame : t.Tame) :
    t'.isKept keep = t.isKept keep ∧ ∀ q ∈ new, q.isKept keep = t.isKept keep :=
  ⟨congrArg (Job.isKept keep) goes.job_eq,
    fun q hq => congrArg (Option.any keep) (goes.tenant?_new tame q hq)⟩

theorem Goes.twins_new {w' : World} (goes : Goes w o t t' w' new) (sound : ∀ q ∈ new, q.Sound) :
    ∀ q ∈ new, Twins M q q := by
  intro q hq
  obtain ⟨j, rfl⟩ := State.starts_goes goes q hq
  exact twins_start (sound _ hq).fit

namespace Follows

theorem submit (h : Follows keep M s u) (op : Operation) :
    ∃ u', u.play (s.own keep (.submit op)) = some u' ∧
      Follows keep M { s with tasks := s.tasks ++ [.start (.operation op)] } u' := by
  rw [State.own]
  split
  · next kept =>
    refine ⟨_, rfl, h.mirrors, ?_, h.drawn⟩
    have here : List.filter (·.isKept keep) [Task.start (.operation op)] =
        [Task.start (.operation op)] := List.filter_cons_of_pos kept
    rw [List.filter_append, here]
    exact List.rel_append h.tasks (.cons (twins_start trivial) .nil)
  · next left =>
    refine ⟨u, rfl, h.mirrors, ?_, h.drawn⟩
    have here : List.filter (·.isKept keep) [Task.start (.operation op)] = [] :=
      List.filter_cons_of_neg left
    rw [List.filter_append, here, List.append_nil]
    exact h.tasks

theorem turn_left (h : Follows keep M s u) (orderly : s.Orderly) (working : o.outage = none)
    (fresh : o.id ∉ s.drawn) (turns : s.Turns s' i t t' new o) (left : t.isKept keep = false) :
    Follows keep M s' u := by
  have there := List.mem_of_getElem? turns.found
  have tame := orderly.tame t there
  obtain ⟨still, same⟩ := isKept_goes keep turns.goes tame
  refine ⟨?_, ?_, fun id drawn => ?_⟩
  · have goes := turns.goes
    have concerning (c : Call) (next : t.next? = some c) := orderly.concerning there next fresh
    generalize s'.world = w' at goes
    cases goes with
    | waits => exact h.mirrors
    | answered =>
        exact h.mirrors.left_alone orderly.distinct (tame.asks rfl) left (concerning _ rfl) working
  · obtain ⟨pre, post, cut, rfl⟩ := exists_cut turns.found
    have tasks := h.tasks
    have none : new.filter (·.isKept keep) = [] := by
      rw [List.filter_eq_nil_iff]
      intro q hq kept
      cases kept.symm.trans ((same q hq).trans left)
    rw [cut, List.filter_append, List.filter_cons_of_neg (by rw [left]; exact Bool.false_ne_true)]
      at tasks
    rw [turns.tasks, cut, set_length, List.filter_append, none, List.append_nil,
      List.filter_append, List.filter_cons_of_neg (by rw [still, left]; exact Bool.false_ne_true)]
    exact tasks
  · rw [turns.drawn]
    exact List.mem_cons_of_mem _ (h.drawn id drawn)

/-- The tasks before a task of a kept tenant, that task and those after it, and their twins. -/
theorem cut (h : Follows keep M s u) (found : s.tasks[i]? = some t) (kept : t.isKept keep = true) :
    ∃ pre post us x vs, s.tasks = pre ++ t :: post ∧ pre.length = i ∧ u.tasks = us ++ x :: vs ∧
      us.length = s.place keep i ∧ List.Forall₂ (Twins M) (pre.filter (·.isKept keep)) us ∧
      Twins M t x ∧ List.Forall₂ (Twins M) (post.filter (·.isKept keep)) vs := by
  obtain ⟨pre, post, cut, length⟩ := exists_cut found
  have tasks := h.tasks
  rw [cut, List.filter_append, List.filter_cons_of_pos kept] at tasks
  obtain ⟨us, x, vs, cut', before, twins, after⟩ := forall₂_cut tasks
  refine ⟨pre, post, us, x, vs, cut, length, cut', ?_, before, twins, after⟩
  rw [State.place, cut, ← length, List.take_left, List.countP_eq_length_filter, before.length_eq]

theorem turn_kept (h : Follows keep M s u) (orderly : s.Orderly)
    (allowed : s.allows (.go i o) = true) (turns : s.Turns s' i t t' new o)
    (kept : t.isKept keep = true) :
    ∃ M' u', u.play [.go (s.place keep i) o] = some u' ∧ Follows keep M' s' u' := by
  obtain ⟨working, fresh, alone⟩ := State.allows_go.mp allowed
  have there := List.mem_of_getElem? turns.found
  obtain ⟨still, same⟩ := isKept_goes keep turns.goes (orderly.tame t there)
  obtain ⟨pre, post, us, x, vs, cut, rfl, cut', place, before, twins, after⟩ :=
    h.cut turns.found kept
  obtain ⟨tenant, mine, keeps⟩ := (Option.any_eq_true ..).mp kept
  obtain ⟨owners, account⟩ := orderly.account
  obtain ⟨x', v', M', mono, goes', mirrors, twins'⟩ :=
    twins.turns turns.goes h.mirrors orderly.distinct (fun held => (account.books.ticket held).2.1)
      mine keeps (fun c next => mine ▸ orderly.concerning there next fresh) working
  refine ⟨M', ⟨v', o.id :: u.drawn, us ++ x' :: vs ++ new⟩, ?_, mirrors, ?_, ?_⟩
  · rw [cut, eraseIdx_length, List.forall_mem_append] at alone
    have quiet (q x : Task) (twins : Twins M q x) (quiet : q.registers = false) :
        x.registers = false := twins.registers_eq.trans quiet
    rw [← place]
    refine State.play_turn cut' working (mt (h.drawn _) fresh) ?_ goes'
    rw [List.forall_mem_append]
    exact ⟨forall_of_forall₂ before (fun q hq => alone.1 q (List.mem_filter.mp hq).1) quiet,
      forall_of_forall₂ after (fun q hq => alone.2 q (List.mem_filter.mp hq).1) quiet⟩
  · have all : new.filter (·.isKept keep) = new :=
      List.filter_eq_self.mpr fun q hq => (same q hq).trans kept
    have sound := (turns.goes.sound working (orderly.tasks t there)).2
    have mono (q x : Task) (twins : Twins M q x) : Twins M' q x := twins.mono mono
    rw [turns.tasks, cut, set_length, List.filter_append, all, List.filter_append,
      List.filter_cons_of_pos (still.trans kept)]
    refine List.rel_append (List.rel_append (before.imp mono) (.cons twins' (after.imp mono))) ?_
    exact List.forall₂_same.mpr (turns.goes.twins_new sound)
  · rw [turns.drawn]
    exact List.forall_mem_cons.mpr ⟨List.mem_cons_self,
      fun id drawn => List.mem_cons_of_mem _ (h.drawn id drawn)⟩

theorem step (h : Follows keep M s u) (orderly : s.Orderly) (allowed : s.allows m = true)
    (moved : s.move m = some s') :
    ∃ M' u', u.play (s.own keep m) = some u' ∧ Follows keep M' s' u' := by
  cases m with
  | submit op =>
      cases moved
      exact ⟨M, h.submit op⟩
  | go i o =>
      obtain ⟨t, t', new, turns⟩ := State.turns_of_move moved
      rw [State.own, turns.found, Option.any_some]
      cases kept : t.isKept keep with
      | true => exact h.turn_kept orderly allowed turns kept
      | false =>
          obtain ⟨working, fresh, -⟩ := State.allows_go.mp allowed
          exact ⟨M, u, rfl, h.turn_left orderly working fresh turns kept⟩

/-- As the whole service goes on, the moves of the kept tenants take the other one along. -/
theorem play (h : Follows keep M s u) (orderly : s.Orderly) (played : s.play moves = some s') :
    ∃ M' u', u.play (s.purged keep moves) = some u' ∧ Follows keep M' s' u' := by
  -- along the moves, with the state that the other service has come to
  induction moves generalizing s u M with
  | nil =>
      cases played
      exact ⟨M, u, rfl, h⟩
  | cons m moves ih =>
      rw [State.play] at played
      split at played
      · next allowed =>
        obtain ⟨s₁, moved, rest⟩ := Option.bind_eq_some_iff.mp played
        obtain ⟨M₁, u₁, played₁, h₁⟩ := h.step orderly allowed moved
        obtain ⟨M', u', played', h'⟩ := ih h₁ (orderly.move allowed moved) rest
        refine ⟨M', u', ?_, h'⟩
        rw [State.purged, moved, State.play_append played₁]
        exact played'
      · cases played

end Follows

end Steps

section Tenants

variable {A B : String} {op : Operation}

namespace State

theorem jobs_of_play (played : s.play moves = some s') :
    s.tasks.map Task.job <+: s'.tasks.map Task.job := by
  have leads : s.Leads s' := ⟨moves, played⟩
  refine leads.preserves (P := fun s' => s.tasks.map Task.job <+: s'.tasks.map Task.job)
    List.prefix_rfl fun {s₁ m s₂} _ moved before => before.trans ?_
  cases m with
  | submit op =>
      cases moved
      rw [List.map_append]
      exact List.prefix_append _ _
  | go i o =>
      obtain ⟨t, t', new, turns⟩ := turns_of_move moved
      obtain ⟨pre, post, cut, rfl⟩ := exists_cut turns.found
      rw [turns.tasks, cut, set_length, List.map_append, List.map_append, List.map_append,
        List.map_cons, List.map_cons, turns.goes.job_eq]
      exact List.prefix_append _ _

theorem place_of_jobs (h : s.tasks.map Task.job <+: s'.tasks.map Task.job) (keep : String → Bool) :
    s'.place keep s.tasks.length = (s.part keep).tasks.length := by
  have jobs := List.prefix_iff_eq_take.mp h
  have kept (ts : List Task) :
      ts.countP (·.isKept keep) = (ts.map Task.job).countP (Job.isKept keep) :=
    (List.countP_map ..).symm
  rw [List.length_map] at jobs
  rw [place, kept, List.map_take, ← jobs, ← kept, part, List.countP_eq_length_filter]

theorem Orderly.part_plays (h : s.Orderly) (played : s.play moves = some s')
    (keep : String → Bool) :
    ∃ M u, (s.part keep).play (s.purged keep moves) = some u ∧ Follows keep M s' u :=
  (h.follows_part keep).play h played

end State

theorem Follows.share_eq (h : Follows keep M s u) (orderly : s.Orderly) :
    s.world.share keep = u.world.share keep :=
  (h.mirrors.share_eq orderly.distinct).symm

theorem Follows.outcome?_eq (h : Follows keep M s u) {j : Job}
    (found : (s.tasks.map Task.job)[i]? = some j) (kept : j.isKept keep = true) :
    ∃ r, s.outcome? i = some ⟨j, r⟩ ∧ u.outcome? (s.place keep i) = some ⟨j, r⟩ := by
  rw [List.getElem?_map] at found
  obtain ⟨t, here, rfl⟩ := Option.map_eq_some_iff.mp found
  obtain ⟨_, _, us, x, vs, -, -, cut, place, -, twins, -⟩ := h.cut here kept
  have found' : u.tasks[s.place keep i]? = some x := by
    rw [cut, ← place, getElem?_length]
  have same := twins.outcome_eq
  obtain ⟨job, past, rest, waiting⟩ := t
  unfold State.outcome?
  rw [here, found', Option.map_some, Option.map_some, same]
  cases rest <;> exact ⟨_, rfl, rfl⟩

/-- Whatever a tenant asks for, in whatever state and however it goes on: another tenant has what he
has by his own moves alone, and the answer is the one of a service without anything of his. -/
theorem tenants_apart (reachable : s.Reachable) (asked : op.tenant? = some B) (apart : B ≠ A)
    (played : s.play (.submit op :: moves) = some s') :
    (∃ v, (s.only A).play (s.purged (· == A) (.submit op :: moves)) = some v ∧
      s'.world.share (· == A) = v.world.share (· == A)) ∧
    (s.purged (· == A) (.submit op :: moves) = [] →
      s'.world.share (· == A) = s.world.share (· == A)) ∧
    ∃ u r, (s.without A).play (s.purged (· != A) (.submit op :: moves)) = some u ∧
      s'.outcome? s.tasks.length = some ⟨.operation op, r⟩ ∧
      u.outcome? (s.without A).tasks.length = some ⟨.operation op, r⟩ := by
  have orderly := reachable.orderly
  have later : s'.Orderly := State.Leads.orderly ⟨_, played⟩ orderly
  obtain ⟨M, v, played₁, follows⟩ := orderly.part_plays played (· == A)
  obtain ⟨N, u, played₂, follows'⟩ := orderly.part_plays played (· != A)
  refine ⟨⟨v, played₁, follows.share_eq later⟩, fun none => ?_, u, ?_⟩
  · rw [none] at played₁
    cases played₁
    exact (follows.share_eq later).trans ((orderly.follows_part (· == A)).share_eq orderly).symm
  · have later : ({ s with tasks := s.tasks ++ [.start (.operation op)] } : State).play moves =
        some s' := played
    have jobs := State.jobs_of_play later
    rw [List.map_append] at jobs
    have found : (s'.tasks.map Task.job)[s.tasks.length]? = some (.operation op) := by
      obtain ⟨rest, cut⟩ := jobs
      rw [← cut]
      simp [Task.start]
    have kept : Job.isKept (· != A) (.operation op) = true := by
      rw [Job.isKept, Job.tenant?, asked]
      exact bne_iff_ne.mpr apart
    obtain ⟨r, here, there⟩ := follows'.outcome?_eq found kept
    rw [State.place_of_jobs ((List.prefix_append _ _).trans jobs)] at there
    exact ⟨r, played₂, here, there⟩

/-- A definition and a run in the background that has begun its first node. -/
def owningMoves : List Move :=
  .submit (.createWorkflow "tenant" sampleDraft none) :: turns 0 0 1 ++
  .submit (.execute "tenant" "0" ⟨.null, true⟩) :: turns 1 1 7 ++ turns 2 8 8

/-- Another tenant asks for the run to be cancelled, while it goes on. -/
def intrudingMoves : List Move :=
  .submit (.cancelExecution "rival" "2") :: turns 2 16 2 ++ turns 3 18 1

theorem sample_apart : ∃ s s' : State, s.Reachable ∧
    (Operation.cancelExecution "rival" "2").tenant? = some "rival" ∧ "rival" ≠ "tenant" ∧
    s.play intrudingMoves = some s' ∧ s.world.runs.active.map Prod.fst = ["2"] ∧
    (∃ v, (s.only "tenant").play (s.purged (· == "tenant") intrudingMoves) = some v ∧
      s'.world.share (· == "tenant") = v.world.share (· == "tenant")) ∧
    (s.purged (· == "tenant") intrudingMoves = [] →
      s'.world.share (· == "tenant") = s.world.share (· == "tenant")) ∧
    ∃ u r, (s.without "tenant").play (s.purged (· != "tenant") intrudingMoves) = some u ∧
      s'.outcome? s.tasks.length = some ⟨.operation (.cancelExecution "rival" "2"), r⟩ ∧
      u.outcome? (s.without "tenant").tasks.length =
        some ⟨.operation (.cancelExecution "rival" "2"), r⟩ := by
  obtain ⟨⟨s, s'⟩, played, shown⟩ := Option.map_eq_some_iff.mp
    (show ((State.empty.play owningMoves).bind fun s =>
        (s.play intrudingMoves).map fun s' => (s, s')).map
      (fun x => x.1.world.runs.active.map Prod.fst) = some ["2"] by decide +kernel)
  obtain ⟨s, owned, played⟩ := Option.bind_eq_some_iff.mp played
  obtain ⟨s', played, same⟩ := Option.map_eq_some_iff.mp played
  cases same
  exact ⟨s, s', ⟨owningMoves, owned⟩, rfl, by decide, played, shown,
    tenants_apart ⟨owningMoves, owned⟩ rfl (by decide) played⟩

end Tenants

end Server

end TriggerFlow
