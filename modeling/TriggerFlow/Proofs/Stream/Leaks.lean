import TriggerFlow.Proofs.Stream.Publication

/-!
Entries of the table and the conversations they are there for. Settling a message may drop sockets
whose conversation goes on, or leave an entry without sockets; but a conversation ends by detaching
its socket, which removes an entry that is empty by then. So an entry lasts no longer than the last
conversation about its execution.
-/

namespace TriggerFlow.Stream

open Program

variable {s x y : Socket} {execution e : String}

/-- Nothing but texts to one socket. -/
def OnlySends (s : Socket) (t : List Exchange) : Prop :=
  ∀ x ∈ t, ∃ text r, x = ⟨.send s text, r⟩

theorem OnlySends.append {t u : List Exchange} (h : OnlySends s t) (rest : OnlySends s u) :
    OnlySends s (t ++ u) :=
  List.forall_mem_append.mpr ⟨h, rest⟩

namespace Endpoint

theorem onlySends_sendJson {fields : Fields} {t : List Exchange} {goesOn : Bool}
    (h : (sendJson s fields).Ends t goesOn) : OnlySends s t := by
  unfold sendJson at h
  split at h
  · obtain ⟨rfl, -⟩ := ends_pure.mp h
    exact List.forall_mem_nil _
  · obtain ⟨r, u, ended, rfl⟩ := ends_ask_andThen.mp h
    obtain ⟨rfl, -⟩ := ends_pure.mp ended
    exact List.forall_mem_singleton.mpr ⟨_, r, rfl⟩

theorem onlySends_react {incoming : Incoming} {t : List Exchange} {goesOn : Bool}
    (h : (react s incoming).Ends t goesOn) : OnlySends s t := by
  cases incoming with
  | text said =>
      rw [react] at h
      split at h
      · obtain ⟨r, u, ended, rfl⟩ := ends_ask_andThen.mp h
        obtain ⟨rfl, -⟩ := ends_pure.mp ended
        exact List.forall_mem_singleton.mpr ⟨_, r, rfl⟩
      · obtain ⟨rfl, -⟩ := ends_pure.mp h
        exact List.forall_mem_nil _
  | silence =>
      rw [react] at h
      exact onlySends_sendJson h
  | gone =>
      obtain ⟨rfl, -⟩ := ends_pure.mp h
      exact List.forall_mem_nil _

theorem onlySends_converse {incoming : List Incoming} {t : List Exchange} {goesOn : Bool}
    (h : (converse s incoming).Ends t goesOn) : OnlySends s t := by
  induction incoming generalizing t with
  | nil =>
      obtain ⟨rfl, -⟩ := ends_pure.mp h
      exact List.forall_mem_nil _
  | cons i incoming ih =>
      obtain ⟨_, t₁, t₂, reacted, rest, rfl⟩ := ends_andThen.mp h
      refine (onlySends_react reacted).append ?_
      split at rest
      · exact ih rest
      · obtain ⟨rfl, -⟩ := ends_pure.mp rest
        exact List.forall_mem_nil _

/-- The calls of a conversation: between the first two and the last one there are only texts. -/
inductive Serves (s : Socket) (execution : String) : List Exchange → Prop
  | refused : Serves s execution [⟨.accept s, ()⟩]
  | served {sends : List Exchange} (only : OnlySends s sends) :
      Serves s execution
        (⟨.accept s, ()⟩ :: ⟨.attach execution s, ()⟩ :: sends ++ [⟨.detach execution s, ()⟩])

theorem served_of_ends {incoming : List Incoming} {t : List Exchange} {u : Unit}
    (h : (serve s execution (some incoming)).Ends t u) : ∃ sends, OnlySends s sends ∧
      t = ⟨.accept s, ()⟩ :: ⟨.attach execution s, ()⟩ :: sends ++
        [⟨.detach execution s, ()⟩] := by
  obtain ⟨goesOn, begun, rest, started, continued, rfl⟩ := ends_andThen.mp h
  obtain ⟨_, joined, told, subscribed, said, rfl⟩ := ends_andThen.mp started
  obtain ⟨⟨⟩, _, attached, rfl⟩ := ends_ask_andThen.mp subscribed
  obtain rfl := ends_ask.mp attached
  obtain ⟨_, talked, parted, conversed, finished, rfl⟩ := ends_andThen.mp continued
  obtain rfl := ends_ask.mp finished
  refine ⟨told ++ talked, (onlySends_sendJson said).append (onlySends_converse conversed), ?_⟩
  simp only [List.append_assoc, List.cons_append, List.nil_append]

theorem serves_of_ends {incoming : Option (List Incoming)} {t : List Exchange} {u : Unit}
    (h : (serve s execution incoming).Ends t u) : Serves s execution t := by
  cases incoming with
  | none =>
      obtain rfl := ends_ask.mp h
      exact .refused
  | some incoming =>
      obtain ⟨sends, only, rfl⟩ := served_of_ends h
      exact .served only

variable {past rest : List Exchange} {c : Call} {r : Reply c}

/-- As long as a call is to come, the socket has not been detached. -/
theorem Serves.not_detached (h : Serves s execution (past ++ ⟨c, r⟩ :: rest)) :
    ⟨.detach execution s, ()⟩ ∉ past := by
  generalize whole : past ++ ⟨c, r⟩ :: rest = t at h
  have before : past <+: t.dropLast := by
    rw [← whole, List.dropLast_append_of_ne_nil (List.cons_ne_nil _ _)]
    exact List.prefix_append _ _
  intro mem
  have mem := before.subset mem
  cases h with
  | refused => cases mem
  | served only =>
      rw [List.dropLast_concat] at mem
      simp only [List.mem_cons] at mem
      obtain same | same | mem := mem
      · cases same
      · cases same
      · obtain ⟨_, _, same⟩ := only _ mem
        cases same

/-- A conversation attaches and detaches its own socket only, and settles nothing. -/
theorem Serves.own (h : Serves s execution (past ++ ⟨c, r⟩ :: rest)) :
    c = .accept s ∨ c = .attach execution s ∨ c = .detach execution s ∨
      ∃ text, c = .send s text := by
  generalize whole : past ++ ⟨c, r⟩ :: rest = t at h
  have mem : ⟨c, r⟩ ∈ t := whole ▸ List.mem_append_right _ (.head _)
  cases h with
  | refused =>
      cases List.mem_singleton.mp mem
      exact .inl rfl
  | served only =>
      simp only [List.cons_append, List.mem_cons, List.mem_append, List.not_mem_nil,
        or_false] at mem
      obtain same | same | mem | same := mem
      · cases same
        exact .inl rfl
      · cases same
        exact .inr (.inl rfl)
      · obtain ⟨text, _, same⟩ := only _ mem
        cases same
        exact .inr (.inr (.inr ⟨text, rfl⟩))
      · cases same
        exact .inr (.inr (.inl rfl))

theorem Serves.detached (h : Serves s execution past)
    (attached : ⟨.attach execution s, ()⟩ ∈ past) : ⟨.detach execution s, ()⟩ ∈ past := by
  cases h with
  | refused => cases List.mem_singleton.mp attached
  | served only => simp

end Endpoint

open Endpoint

namespace Activity

variable {job : Job} {past : List Exchange} {c : Call} {r : Reply c}
  {next : Reply c → Task job.Given}

/-- The activity is a conversation that has subscribed its socket to an execution and has not
unsubscribed it yet. -/
structure Listens (a : Activity) (s : Socket) (execution : String) : Prop where
  serves : ∃ incoming, a.job = .serve s execution incoming
  attached : ⟨.attach execution s, ()⟩ ∈ a.past
  undetached : ⟨.detach execution s, ()⟩ ∉ a.past

theorem Continues.serves {incoming : Option (List Incoming)}
    {next : Reply c → Task (Job.serve s execution incoming).Given}
    (h : Continues ⟨.serve s execution incoming, past, .call c next⟩) (r : Reply c) :
    ∃ rest, Serves s execution (past ++ ⟨c, r⟩ :: rest) := by
  obtain ⟨u, a, ends⟩ := exists_ends (next r)
  exact ⟨u, serves_of_ends (h _ a (.call c r ends))⟩

theorem Listens.answered (h : Listens ⟨job, past, .call c next⟩ s execution)
    (stays : c ≠ .detach execution s) (r : Reply c) :
    Listens ⟨job, past ++ [⟨c, r⟩], next r⟩ s execution where
  serves := h.serves
  attached := List.mem_append_left _ h.attached
  undetached := by
    intro mem
    obtain mem | mem := List.mem_append.mp mem
    · exact h.undetached mem
    · exact stays (congrArg Sigma.fst (List.mem_singleton.mp mem)).symm

theorem Continues.not_listens {a : Activity} (h : a.Continues) (ended : a.isOver = true) :
    ¬ a.Listens s execution := by
  rintro ⟨⟨incoming, same⟩, attached, undetached⟩
  obtain ⟨job, past, rest⟩ := a
  obtain rfl : job = .serve s execution incoming := same
  cases rest with
  | call c next => cases ended
  | done u =>
      have whole := serves_of_ends (h [] u (.done u))
      rw [List.append_nil] at whole
      exact undetached (whole.detached attached)

end Activity

/-- Conversations and publications; nobody attaches or detaches a socket without a conversation. -/
def Job.IsService : Job → Prop
  | .publish _ _ | .serve _ _ _ => True
  | .subscribe _ _ | .unsubscribe _ _ => False

namespace State

variable {st st' : State} {moves : List Move}

/-- Some conversation about an execution listens with a socket. -/
def Hears (st : State) (s : Socket) (execution : String) : Prop :=
  ∃ a ∈ st.activities, a.Listens s execution

/-- Every entry, and every socket in one, is there for a conversation. -/
structure Tidy (st : State) : Prop where
  continues : ∀ a ∈ st.activities, a.Continues
  services : ∀ a ∈ st.activities, a.job.IsService
  listed : ∀ e, st.table.Lists e → ∃ x, st.Hears x e
  belongs : ∀ e x, x ∈ st.table.subscribers e → st.Hears x e

theorem tidy_empty : empty.Tidy where
  continues := List.forall_mem_nil _
  services := List.forall_mem_nil _
  listed := nofun
  belongs := nofun

theorem Tidy.submit (h : st.Tidy) {j : Job} (service : j.IsService) :
    Tidy { st with activities := st.activities ++ [.start j] } := by
  have more {x e : String} : st.Hears x e →
      Hears { st with activities := st.activities ++ [.start j] } x e :=
    fun ⟨a, mem, listens⟩ => ⟨a, List.mem_append_left _ mem, listens⟩
  refine ⟨?_, ?_, fun e listed => ?_, fun e x mem => more (h.belongs e x mem)⟩
  · exact List.forall_mem_append.mpr
      ⟨h.continues, List.forall_mem_singleton.mpr (Activity.continues_start j)⟩
  · exact List.forall_mem_append.mpr ⟨h.services, List.forall_mem_singleton.mpr service⟩
  · obtain ⟨x, hears⟩ := h.listed e listed
    exact ⟨x, more hears⟩

section Turn

variable {i : Nat} {sent : Except Failure Unit} {job : Job} {past : List Exchange} {c : Call}
  {next : Reply c → Task job.Given}

/-- Whoever listened before a turn listens after it, unless it was the turn to leave. -/
theorem Turn.hears (turn : st.Turn st' i sent job past c next) (h : st.Hears x e)
    (stays : c ≠ .detach e x) : st'.Hears x e :=
  turn.exists_mem h fun listens => listens.answered stays _

theorem Tidy.turn_still (h : st.Tidy) (turn : st.Turn st' i sent job past c next)
    (stays : ∀ e x, c ≠ .detach e x) (listed : ∀ e, st'.table.Lists e → st.table.Lists e)
    (belongs : ∀ e x, x ∈ st'.table.subscribers e → x ∈ st.table.subscribers e) : st'.Tidy where
  continues := turn.forall_mem h.continues (Activity.continues_answered (h.continues _ turn.mem))
  services := by
    have service : job.IsService := h.services _ turn.mem
    exact turn.forall_mem h.services service
  listed e lists := by
    obtain ⟨x, hears⟩ := h.listed e (listed e lists)
    exact ⟨x, turn.hears hears (stays e x)⟩
  belongs e x mem := turn.hears (h.belongs e x (belongs e x mem)) (stays e x)

theorem Tidy.attached {incoming : Option (List Incoming)}
    {next : Reply (.attach execution s) → Task (Job.serve s execution incoming).Given}
    (h : st.Tidy)
    (turn : st.Turn st' i sent (.serve s execution incoming) past (.attach execution s) next) :
    st'.Tidy := by
  have continues := h.continues _ turn.mem
  obtain ⟨rest, serves⟩ := continues.serves ()
  have here : st'.Hears s execution := by
    refine ⟨⟨_, past ++ [⟨.attach execution s, ()⟩], next ()⟩, ?_, ⟨incoming, rfl⟩,
      List.mem_append_right _ (.head _), ?_⟩
    · rw [turn.activities]
      exact List.mem_set (List.getElem?_eq_some_iff.mp turn.found).1 _
    · intro mem
      obtain mem | mem := List.mem_append.mp mem
      · exact serves.not_detached mem
      · cases List.mem_singleton.mp mem
  have table : st'.table = st.table.attach execution s := turn.table
  refine ⟨turn.forall_mem h.continues (Activity.continues_answered continues),
    turn.forall_mem h.services trivial, fun e lists => ?_, fun e x mem => ?_⟩
  · rw [table, Table.lists_attach] at lists
    obtain rfl | lists := lists
    · exact ⟨s, here⟩
    · obtain ⟨x, hears⟩ := h.listed e lists
      exact ⟨x, turn.hears hears nofun⟩
  · rw [table, Table.mem_subscribers_attach] at mem
    obtain ⟨rfl, rfl⟩ | mem := mem
    · exact here
    · exact turn.hears (h.belongs e x mem) nofun

/-- The conversation that leaves is the only one about its execution that its socket is there for;
an entry that is left is not empty, so that another conversation listens with what is left. -/
theorem Tidy.detached {incoming : Option (List Incoming)}
    {next : Reply (.detach execution s) → Task (Job.serve s execution incoming).Given}
    (h : st.Tidy)
    (turn : st.Turn st' i sent (.serve s execution incoming) past (.detach execution s) next) :
    st'.Tidy := by
  have table : st'.table = st.table.detach execution s := turn.table
  have belongs (e x : String) (mem : x ∈ st'.table.subscribers e) : st'.Hears x e := by
    rw [table, Table.mem_subscribers_detach] at mem
    refine turn.hears (h.belongs e x mem.1) fun same => mem.2 ?_
    cases same
    exact ⟨rfl, rfl⟩
  refine ⟨turn.forall_mem h.continues (Activity.continues_answered (h.continues _ turn.mem)),
    turn.forall_mem h.services trivial, fun e lists => ?_, belongs⟩
  rw [table] at lists
  obtain ⟨before, filled⟩ := lists.of_detach
  by_cases here : e = execution
  · obtain ⟨x, mem⟩ := filled here
    subst here
    exact ⟨x, belongs e x (table ▸ mem)⟩
  · obtain ⟨x, hears⟩ := h.listed e before
    refine ⟨x, turn.hears hears fun same => here ?_⟩
    cases same
    rfl

theorem Tidy.turn (h : st.Tidy) (turn : st.Turn st' i sent job past c next) : st'.Tidy := by
  have quiet (same : st'.table = st.table) (stays : ∀ e x, c ≠ .detach e x) : st'.Tidy :=
    h.turn_still turn stays (fun _ lists => same ▸ lists) fun _ _ mem => same ▸ mem
  cases job with
  | subscribe | unsubscribe => exact (h.services _ turn.mem).elim
  | publish execution message =>
      obtain ⟨rest, a, publishes⟩ :=
        (h.continues _ turn.mem).publishes (st.table.perform sent c).1
      obtain (rfl | ⟨s, text, rfl⟩) | ⟨attempts, text, last, -, -, rfl, -⟩ := publishes.next
      · exact quiet turn.table nofun
      · exact quiet turn.table nofun
      · refine h.turn_still turn nofun (fun e lists => ?_) fun e x mem => ?_
        · rw [turn.table] at lists
          exact lists.of_settle
        · rw [turn.table] at mem
          exact (Table.mem_subscribers_settle.mp mem).1
  | serve s execution incoming =>
      obtain ⟨rest, serves⟩ := (h.continues _ turn.mem).serves (st.table.perform sent c).1
      obtain rfl | rfl | rfl | ⟨text, rfl⟩ := serves.own
      · exact quiet turn.table nofun
      · exact h.attached turn
      · exact h.detached turn
      · exact quiet turn.table nofun

end Turn

/-- Moves that ask for nothing but conversations and publications. -/
def Serviceable : Move → Prop
  | .submit j => j.IsService
  | .go _ _ => True

theorem tidy_of_follow (h : empty.follow moves = some st) (services : ∀ m ∈ moves, Serviceable m) :
    st.Tidy := by
  refine follow_preserves h services tidy_empty fun {st m st'} service moved tidy => ?_
  cases m with
  | submit j =>
      cases moved
      exact tidy.submit service
  | go i sent =>
      obtain ⟨job, past, c, next, turn⟩ := turn_of_move moved
      exact tidy.turn turn

/-- However conversations and publications are interleaved: an entry of the table is there for a
conversation that has subscribed and not yet unsubscribed, and so is every socket in it. When all
conversations are over, the table is empty. -/
theorem entries_are_listened_to (followed : empty.follow moves = some st)
    (services : ∀ m ∈ moves, Serviceable m) :
    (∀ execution sockets, st.table.get? execution = some sockets →
      (∃ s, ∃ a ∈ st.activities, a.Listens s execution) ∧
        ∀ s ∈ sockets, ∃ a ∈ st.activities, a.Listens s execution) ∧
    ((∀ a ∈ st.activities, (∃ s execution incoming, a.job = .serve s execution incoming) →
      a.isOver = true) → st.table = []) := by
  have tidy := tidy_of_follow followed services
  refine ⟨fun execution sockets found => ⟨?_, fun s mem => ?_⟩, fun finished => ?_⟩
  · exact tidy.listed execution (by rw [Table.Lists, found]; rfl)
  · exact tidy.belongs execution s (by rwa [Table.subscribers_of_get? found])
  · cases entries : st.table with
    | nil => rfl
    | cons entry table =>
        obtain ⟨execution, sockets⟩ := entry
        have listed : st.table.Lists execution := by
          rw [Table.Lists, entries, Keyed.get?_cons, if_pos rfl]
          rfl
        obtain ⟨s, a, mem, listens⟩ := tidy.listed execution listed
        obtain ⟨incoming, job⟩ := listens.serves
        have ended := finished a mem ⟨s, execution, incoming, job⟩
        exact absurd listens ((tidy.continues a mem).not_listens ended)

/-- A message that does not reach the one socket that listens, whose conversation goes on. -/
def losingMoves : List Move :=
  [.submit (.serve "a" "e" (some [.silence])), .go 0 (.ok ()), .go 0 (.ok ()), .go 0 (.ok ()),
    .submit (.publish "e" (.obj [("type", .str "node_start")])), .go 1 (.ok ()),
    .go 1 (.error .noAnswer), .go 1 (.ok ())]

/-- The message leaves an entry without sockets, which is there for the conversation. -/
theorem emptied_entry_is_listened_to :
    ∃ st, empty.follow losingMoves = some st ∧ (∀ m ∈ losingMoves, Serviceable m) ∧
      st.table.get? "e" = some [] ∧ ∃ s, ∃ a ∈ st.activities, a.Listens s "e" := by
  obtain ⟨st, followed, entry⟩ := Option.bind_eq_some_iff.mp
    (show (empty.follow losingMoves).bind (·.table.get? "e") = some [] by decide +kernel)
  have services : ∀ m ∈ losingMoves, Serviceable m := by
    simp [losingMoves, Serviceable, Job.IsService]
  have held := entries_are_listened_to followed services
  exact ⟨st, followed, services, entry, (held.1 "e" [] entry).1⟩

end State
end TriggerFlow.Stream
