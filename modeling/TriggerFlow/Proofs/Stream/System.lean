import TriggerFlow.Proofs.Exchange
import TriggerFlow.Rehearsal.Sockets

/-!
Sockets that come and go while messages are published. Whatever is asked of the stream makes its
calls one after the other, and between any two of them others may act on the table of those who
listen. Whether a text reaches its socket is decided from outside, at every single send.
-/

namespace TriggerFlow.Stream

open Program

abbrev Exchange := Program.Exchange Reply

inductive Job where
  | subscribe (s : Socket) (execution : String)
  | unsubscribe (s : Socket) (execution : String)
  | publish (execution : String) (message : Value)
  | serve (s : Socket) (execution : String) (incoming : Option (List Endpoint.Incoming))

namespace Job

def Given : Job → Type
  | publish _ _ => Except Failure Nat
  | _ => Unit

def work : (j : Job) → Task j.Given
  | subscribe s execution => Stream.subscribe s execution
  | unsubscribe s execution => Stream.unsubscribe s execution
  | publish execution message => Stream.publish execution message
  | serve s execution incoming => Endpoint.serve s execution incoming

end Job

namespace Table

variable {t : Table} {execution : String} {s : Socket}

def perform (t : Table) (sent : Except Failure Unit) : (c : Call) → Reply c × Table
  | .accept _ => ((), t)
  | .attach execution s => ((), t.attach execution s)
  | .detach execution s => ((), t.detach execution s)
  | .subscribers execution => (t.subscribers execution, t)
  | .send _ _ => (sent, t)
  | .settle execution last dead => ((), t.settle execution last dead)

/-- Sockets that note what reaches them answer like the table, by some luck in sending. -/
theorem exists_answer_eq (c : Call) (s : Rehearsal.Sockets) :
    ∃ sent, (Rehearsal.Sockets.answer c s).1 = (s.table.perform sent c).1 ∧
      (Rehearsal.Sockets.answer c s).2.table = (s.table.perform sent c).2 := by
  cases c with
  | send socket text =>
      rw [Rehearsal.Sockets.answer]
      split
      · exact ⟨.error Rehearsal.Sockets.full, rfl, rfl⟩
      · exact ⟨.ok (), rfl, rfl⟩
  | _ => exact ⟨.ok (), rfl, rfl⟩

theorem subscribers_of_get? {sockets : List Socket} (listed : t.get? execution = some sockets) :
    t.subscribers execution = sockets := by
  rw [subscribers, listed, Option.getD_some]

theorem mem_subscribers_attach {e x : String} :
    x ∈ (t.attach execution s).subscribers e ↔
      (e = execution ∧ x = s) ∨ x ∈ t.subscribers e := by
  rw [attach, subscribers, Keyed.get?_put]
  by_cases here : e = execution
  · subst here
    rw [if_pos rfl, Option.getD_some]
    split
    · next known =>
      have known : s ∈ t.subscribers e := by simpa using known
      constructor
      · exact .inr
      · rintro (⟨-, rfl⟩ | mem)
        · exact known
        · exact mem
    · rw [List.mem_append, List.mem_singleton]
      simp only [true_and]
      exact or_comm
  · rw [if_neg here]
    simp only [here, false_and, false_or]
    rfl

theorem mem_subscribers_detach {e x : String} :
    x ∈ (t.detach execution s).subscribers e ↔
      x ∈ t.subscribers e ∧ ¬ (e = execution ∧ x = s) := by
  unfold detach
  cases listed : t.get? execution with
  | none =>
      refine ⟨fun mem => ⟨mem, ?_⟩, And.left⟩
      rintro ⟨rfl, -⟩
      rw [subscribers, listed] at mem
      cases mem
  | some before =>
      by_cases here : e = execution
      · subst here
        dsimp only
        rw [subscribers_of_get? listed]
        split
        · next gone =>
          rw [subscribers, Keyed.get?_erase, if_pos rfl]
          have gone : ∀ y ∈ before, y = s := by simpa using gone
          rw [Option.getD_none, List.mem_nil_iff, false_iff]
          rintro ⟨mem, other⟩
          exact other ⟨rfl, gone x mem⟩
        · rw [subscribers, Keyed.get?_put, if_pos rfl, Option.getD_some, List.mem_filter]
          simp
      · simp only [here, false_and, not_false_eq_true, and_true]
        split
        · rw [subscribers, Keyed.get?_erase, if_neg here, subscribers]
        · rw [subscribers, Keyed.get?_put, if_neg here, subscribers]

theorem mem_subscribers_settle {e x : String} {last : Bool} {dead : List Socket} :
    x ∈ (t.settle execution last dead).subscribers e ↔
      x ∈ t.subscribers e ∧ ¬ (e = execution ∧ (last = true ∨ x ∈ dead)) := by
  unfold settle
  by_cases here : e = execution
  · subst here
    split
    · next final =>
      rw [subscribers, Keyed.get?_erase, if_pos rfl]
      simp [final]
    · next open_ =>
      cases listed : t.get? e with
      | none => simp [subscribers, listed]
      | some before =>
          dsimp only
          rw [subscribers_of_get? listed, subscribers, Keyed.get?_put, if_pos rfl,
            Option.getD_some, List.mem_filter]
          simp [open_]
  · simp only [here, false_and, not_false_eq_true, and_true]
    split
    · rw [subscribers, Keyed.get?_erase, if_neg here, subscribers]
    · split
      · rfl
      · rw [subscribers, Keyed.get?_put, if_neg here, subscribers]

/-- An execution has an entry in the table, be it one without sockets. -/
def Lists (t : Table) (execution : String) : Prop := (t.get? execution).isSome = true

theorem lists_attach {e : String} :
    (t.attach execution s).Lists e ↔ e = execution ∨ t.Lists e := by
  rw [Lists, attach, Keyed.get?_put]
  split
  · next here => simp [here]
  · next elsewhere => simp [elsewhere, Lists]

/-- What is left of an entry after a socket was detached from it is not empty. -/
theorem Lists.of_detach {e : String} (h : (t.detach execution s).Lists e) :
    t.Lists e ∧ (e = execution → ∃ x, x ∈ (t.detach execution s).subscribers e) := by
  rw [Lists, detach] at h
  rw [Lists, detach]
  cases listed : t.get? execution with
  | none =>
      rw [listed] at h
      refine ⟨h, ?_⟩
      rintro rfl
      rw [listed] at h
      cases h
  | some before =>
      rw [listed] at h
      dsimp only at h ⊢
      split at h
      · next gone =>
        rw [Keyed.get?_erase] at h
        split at h
        · cases h
        · next elsewhere => exact ⟨h, fun here => absurd here elsewhere⟩
      · next filled =>
        rw [if_neg filled]
        by_cases here : e = execution
        · subst here
          refine ⟨by rw [listed]; rfl, fun _ => ?_⟩
          rw [subscribers, Keyed.get?_put, if_pos rfl, Option.getD_some]
          exact List.exists_mem_of_ne_nil _ (by simpa using filled)
        · rw [Keyed.get?_put, if_neg here] at h
          exact ⟨h, fun same => absurd same here⟩

theorem Lists.of_settle {e : String} {last : Bool} {dead : List Socket}
    (h : (t.settle execution last dead).Lists e) : t.Lists e := by
  unfold Lists settle at h
  split at h
  · rw [Keyed.get?_erase] at h
    split at h
    · cases h
    · exact h
  · split at h
    · exact h
    · next before listed =>
      rw [Keyed.get?_put] at h
      split at h
      · next here => rw [Lists, here, listed]; rfl
      · exact h

end Table

structure Activity where
  job : Job
  past : List Exchange
  rest : Task job.Given

namespace Activity

def start (j : Job) : Activity := ⟨j, [], j.work⟩

def isOver (a : Activity) : Bool :=
  match a.rest with
  | .done _ => true
  | .call _ _ => false

def go (t : Table) (sent : Except Failure Unit) : Activity → Option (Activity × Table)
  | ⟨_, _, .done _⟩ => none
  | ⟨job, past, .call c next⟩ =>
    some (⟨job, past ++ [⟨c, (t.perform sent c).1⟩], next (t.perform sent c).1⟩,
      (t.perform sent c).2)

/-- An activity that has come from the start of its job to where it is, by whatever replies. -/
def Continues (a : Activity) : Prop := ∀ u r, a.rest.Ends u r → a.job.work.Ends (a.past ++ u) r

theorem continues_start (j : Job) : (start j).Continues := fun _ _ ends => ends

theorem continues_answered {job : Job} {past : List Exchange} {c : Call} {r : Reply c}
    {next : Reply c → Task job.Given} (h : Continues ⟨job, past, .call c next⟩) :
    Continues ⟨job, past ++ [⟨c, r⟩], next r⟩ := by
  intro u a ends
  have whole := h _ a (.call c r ends)
  rw [List.append_cons] at whole
  exact whole

end Activity

structure State where
  table : Table
  activities : List Activity

inductive Move where
  | submit (j : Job)
  | go (i : Nat) (sent : Except Failure Unit)

namespace State

variable {s s' : State} {moves : List Move}

def empty : State := ⟨.empty, []⟩

def move (s : State) : Move → Option State
  | .submit j => some { s with activities := s.activities ++ [.start j] }
  | .go i sent =>
    (s.activities[i]?).bind fun a =>
      (a.go s.table sent).map fun (a, table) => ⟨table, s.activities.set i a⟩

def follow (s : State) (moves : List Move) : Option State := moves.foldlM move s

/-- A move in which the activity at one place makes its next call. -/
structure Turn (s s' : State) (i : Nat) (sent : Except Failure Unit) (job : Job)
    (past : List Exchange) (c : Call) (next : Reply c → Task job.Given) : Prop where
  found : s.activities[i]? = some ⟨job, past, .call c next⟩
  activities : s'.activities = s.activities.set i
    ⟨job, past ++ [⟨c, (s.table.perform sent c).1⟩], next (s.table.perform sent c).1⟩
  table : s'.table = (s.table.perform sent c).2

theorem turn_of_move {i : Nat} {sent : Except Failure Unit} (h : s.move (.go i sent) = some s') :
    ∃ job past c next, s.Turn s' i sent job past c next := by
  obtain ⟨a, found, h⟩ := Option.bind_eq_some_iff.mp h
  obtain ⟨⟨a', table⟩, went, rfl⟩ := Option.map_eq_some_iff.mp h
  obtain ⟨job, past, rest⟩ := a
  cases rest with
  | done r => cases went
  | call c next =>
      cases went
      exact ⟨job, past, c, next, found, rfl, rfl⟩

/-- What every move of a kind preserves holds after such moves. -/
theorem follow_preserves {P : State → Prop} {Q : Move → Prop} (h : s.follow moves = some s')
    (all : ∀ m ∈ moves, Q m) (start : P s)
    (step : ∀ {s m s'}, Q m → s.move m = some s' → P s → P s') : P s' := by
  induction moves generalizing s with
  | nil =>
      cases h
      exact start
  | cons m moves ih =>
      rw [follow, List.foldlM_cons] at h
      obtain ⟨s₁, moved, rest⟩ := Option.bind_eq_some_iff.mp h
      rw [List.forall_mem_cons] at all
      exact ih rest all.2 (step all.1 moved start)

theorem Turn.mem {i : Nat} {sent : Except Failure Unit} {job : Job} {past : List Exchange}
    {c : Call} {next : Reply c → Task job.Given} (turn : s.Turn s' i sent job past c next) :
    ⟨job, past, .call c next⟩ ∈ s.activities :=
  List.mem_of_getElem? turn.found

/-- What some activity does, one does after a turn, if the one that took it does not give it up. -/
theorem Turn.exists_mem {P : Activity → Prop} {i : Nat} {sent : Except Failure Unit} {job : Job}
    {past : List Exchange} {c : Call} {next : Reply c → Task job.Given}
    (turn : s.Turn s' i sent job past c next) (some : ∃ a ∈ s.activities, P a)
    (kept : P ⟨job, past, .call c next⟩ →
      P ⟨job, past ++ [⟨c, (s.table.perform sent c).1⟩], next (s.table.perform sent c).1⟩) :
    ∃ a ∈ s'.activities, P a := by
  obtain ⟨a, mem, holds⟩ := some
  obtain ⟨j, inside, rfl⟩ := List.getElem_of_mem mem
  obtain ⟨within, here⟩ := List.getElem?_eq_some_iff.mp turn.found
  rw [turn.activities]
  by_cases same : i = j
  · subst same
    rw [here] at holds
    exact ⟨_, List.mem_set within _, kept holds⟩
  · refine ⟨s.activities[j], ?_, holds⟩
    refine List.mem_iff_getElem.mpr ⟨j, by simpa using inside, ?_⟩
    exact List.getElem_set_ne same _

/-- What holds of all activities, and of the one that took a turn, goes on to hold. -/
theorem Turn.forall_mem {P : Activity → Prop} {i : Nat} {sent : Except Failure Unit} {job : Job}
    {past : List Exchange} {c : Call} {next : Reply c → Task job.Given}
    (turn : s.Turn s' i sent job past c next) (all : ∀ a ∈ s.activities, P a)
    (gone : P ⟨job, past ++ [⟨c, (s.table.perform sent c).1⟩],
      next (s.table.perform sent c).1⟩) : ∀ a ∈ s'.activities, P a := by
  intro a mem
  rw [turn.activities] at mem
  obtain mem | rfl := List.mem_or_eq_of_mem_set mem
  · exact all a mem
  · exact gone

theorem continues_of_follow (h : empty.follow moves = some s) :
    ∀ a ∈ s.activities, a.Continues := by
  refine follow_preserves (P := fun s => ∀ a ∈ s.activities, a.Continues) h
    (fun _ _ => trivial) (fun _ mem => by cases mem) ?_
  intro s m s' _ moved before
  cases m with
  | submit j =>
      cases moved
      intro a mem
      obtain mem | mem := List.mem_append.mp mem
      · exact before a mem
      · obtain rfl := List.mem_singleton.mp mem
        exact Activity.continues_start j
  | go i sent =>
      obtain ⟨job, past, c, next, turn⟩ := turn_of_move moved
      exact turn.forall_mem before (Activity.continues_answered (before _ turn.mem))

end State

theorem exists_ends {α : Type} (work : Task α) : ∃ t a, work.Ends t a :=
  ⟨_, _, ends_run (fun c t => Table.perform t (.ok ()) c) work .empty⟩

end TriggerFlow.Stream
