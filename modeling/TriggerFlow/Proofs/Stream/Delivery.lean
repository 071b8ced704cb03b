import Mathlib.Data.List.DropRight
import Mathlib.Data.List.Nodup
import TriggerFlow.Proofs.Stream.Leaks
import TriggerFlow.Proofs.Stream.Updates

/-!
Who gets which texts when the stream is asked one thing after the other. A socket is attached to an
execution from when it is subscribed until it is detached, and gets the text of every update that
is published meanwhile, unless sending it fails; nobody else gets anything. A publication counts
whom it reached.
-/

namespace TriggerFlow.Stream

open Program

/-- Something that the stream was asked, and did. -/
structure Deed where
  job : Job
  exchange : List Exchange
  given : job.Given

/-- A table, and what will become of the texts that are still to be sent. -/
structure Line where
  table : Table
  luck : Nat → Except Failure Unit

namespace Line

def start (luck : Nat → Except Failure Unit) : Line := ⟨.empty, luck⟩

def answer (c : Call) (l : Line) : Reply c × Line :=
  ((l.table.perform (l.luck 0) c).1, ⟨(l.table.perform (l.luck 0) c).2, fun n => l.luck (n + 1)⟩)

def deed (l : Line) (j : Job) : Deed := ⟨j, j.work.exchange answer l, (j.work.run answer l).1⟩

def after (l : Line) (j : Job) : Line := (j.work.run answer l).2

/-- What is done when one job is asked for after the other. -/
def deeds (l : Line) : List Job → List Deed
  | [] => []
  | j :: jobs => l.deed j :: (l.after j).deeds jobs

end Line

/-- The text that a socket gets in an exchange. -/
def taken (s : Socket) : Exchange → Option String
  | ⟨.send x text, .ok _⟩ => if x = s then some text else none
  | _ => none

def refuses (s : Socket) : Exchange → Bool
  | ⟨.send x _, .error _⟩ => x = s
  | _ => false

namespace Deed

def texts (s : Socket) (d : Deed) : List String := d.exchange.filterMap (taken s)

def fails (s : Socket) (d : Deed) : Bool := d.exchange.any (refuses s)

def subscribes (s : Socket) (execution : String) (d : Deed) : Bool :=
  match d.job with
  | .subscribe x e => x = s && e = execution
  | _ => false

/-- Unsubscribing detaches a socket, and so does the end of its conversation. Publishing a terminal
status detaches everyone, publishing anything else those that it failed to reach. -/
def detaches (s : Socket) (execution : String) : Deed → Bool
  | ⟨.unsubscribe x e, _, _⟩ => x = s && e = execution
  | ⟨.serve x e (some _), _, _⟩ => x = s && e = execution
  | ⟨.publish e message, t, _⟩ => e = execution && (isTerminal message || t.any (refuses s))
  | _ => false

end Deed

/-- Whether a socket is attached after some deeds: whatever detached it last, it has been subscribed
since. -/
def attached (past : List Deed) (s : Socket) (execution : String) : Bool :=
  (past.rtakeWhile fun d => !d.detaches s execution).any fun d => d.subscribes s execution

def received (s : Socket) (execution : String) (deeds : List Deed) : List String :=
  deeds.flatMap fun d => match d.job with
    | .publish e _ => if e = execution then d.texts s else []
    | _ => []

/-- The texts of the messages that are published for an execution while a socket is attached to it,
less those that fail to be sent to it. -/
def due (s : Socket) (execution : String) (past : List Deed) : List Deed → List String
  | [] => []
  | d :: rest =>
    (match d.job with
      | .publish e message =>
        if e = execution ∧ attached past s execution = true ∧ d.fails s = false then
          (Json.write .spaced message).toOption.toList
        else []
      | _ => []) ++ due s execution (past ++ [d]) rest

/-- What a publication does and gives: everyone who is attached is sent its text once and gets it
unless that fails, and those who got it are counted. A message that has no text, since it holds an
integer beyond the digit limit, is sent to nobody. -/
structure Reaches (past : List Deed) (execution : String) (message : Value) (t : List Exchange)
    (given : Except Failure Nat) (audience : List Socket) : Prop where
  once : audience.Nodup
  mem : ∀ s, s ∈ audience ↔ attached past s execution = true
  texts : ∀ s, t.filterMap (taken s) =
    if s ∈ audience ∧ t.any (refuses s) = false then (Json.write .spaced message).toOption.toList
    else []
  counted : given = if audience = [] then .ok 0 else do
    let _ ← Json.write .spaced message
    return audience.countP fun s => !t.any (refuses s)

/-- A publication reaches those who are attached, a conversation has texts for its own socket only,
and nothing else sends any. -/
def Deed.Delivers (past : List Deed) : Deed → Prop
  | ⟨.publish execution message, t, given⟩ =>
    ∃ audience, Reaches past execution message t given audience
  | ⟨.serve x _ _, t, _⟩ => ∀ s, s ≠ x → t.filterMap (taken s) = []
  | ⟨_, t, _⟩ => ∀ s, t.filterMap (taken s) = []

variable {t t' : Table} {past : List Deed} {s : Socket} {execution text : String}

theorem attached_concat (d : Deed) : attached (past ++ [d]) s execution =
    (!d.detaches s execution && (d.subscribes s execution || attached past s execution)) := by
  rw [attached, List.rtakeWhile_concat]
  cases d.detaches s execution with
  | true => rfl
  | false => simp [attached, Bool.or_comm]

namespace Table

/-- `t.Answers xs t'`: the replies of an exchange are those of the table, which ends as `t'`. -/
inductive Answers : Table → List Exchange → Table → Prop
  | nil (t : Table) : Answers t [] t
  | cons {t t' : Table} {xs : List Exchange} (sent : Except Failure Unit) (c : Call)
      (h : Answers (t.perform sent c).2 xs t') : Answers t (⟨c, (t.perform sent c).1⟩ :: xs) t'

theorem answers_run {α : Type} (p : Task α) (l : Line) :
    l.table.Answers (p.exchange Line.answer l) (p.run Line.answer l).2.table := by
  induction p generalizing l with
  | done a => exact .nil _
  | call c next ih => exact .cons (l.luck 0) c (ih _ (Line.answer c l).2)

theorem Answers.of_nil (h : t.Answers [] t') : t = t' := by
  cases h
  rfl

theorem Answers.of_cons {c : Call} {r : Reply c} {xs : List Exchange}
    (h : t.Answers (⟨c, r⟩ :: xs) t') :
    ∃ sent, r = (t.perform sent c).1 ∧ (t.perform sent c).2.Answers xs t' := by
  cases h with
  | cons sent _ h => exact ⟨sent, rfl, h⟩

theorem Answers.of_sends {sends xs : List Exchange}
    (only : ∀ x ∈ sends, ∃ s text r, x = ⟨.send s text, r⟩) (h : t.Answers (sends ++ xs) t') :
    t.Answers xs t' := by
  induction sends with
  | nil => exact h
  | cons x sends ih =>
      obtain ⟨s, text, r, rfl⟩ := only x (.head _)
      obtain ⟨_, _, rest⟩ := Answers.of_cons h
      exact ih (fun x mem => only x (.tail _ mem)) rest

theorem nodup_attach (h : ∀ e, (t.subscribers e).Nodup) (e : String) :
    ((t.attach execution s).subscribers e).Nodup := by
  rw [attach, subscribers, Keyed.get?_put]
  split
  · rw [Option.getD_some]
    split
    · exact h execution
    · next new =>
      have new : s ∉ t.subscribers execution := by simpa using new
      exact List.nodup_append.mpr ⟨h execution, List.nodup_singleton s, by grind⟩
  · exact h e

theorem nodup_detach (h : ∀ e, (t.subscribers e).Nodup) (e : String) :
    ((t.detach execution s).subscribers e).Nodup := by
  unfold detach
  cases listed : t.get? execution with
  | none => exact h e
  | some sockets =>
      have before := h execution
      rw [subscribers_of_get? listed] at before
      dsimp only
      split
      · rw [subscribers, Keyed.get?_erase]
        split
        · exact List.nodup_nil
        · exact h e
      · rw [subscribers, Keyed.get?_put]
        split
        · exact before.filter _
        · exact h e

theorem nodup_settle {last : Bool} {dead : List Socket} (h : ∀ e, (t.subscribers e).Nodup)
    (e : String) : ((t.settle execution last dead).subscribers e).Nodup := by
  unfold settle
  split
  · rw [subscribers, Keyed.get?_erase]
    split
    · exact List.nodup_nil
    · exact h e
  · split
    · exact h e
    · next sockets listed =>
      have before := h execution
      rw [subscribers_of_get? listed] at before
      rw [subscribers, Keyed.get?_put]
      split
      · exact before.filter _
      · exact h e

end Table

theorem mem_failing {attempts : List Attempt} :
    s ∈ failing attempts ↔ ∃ f, (s, .error f) ∈ attempts := by
  rw [failing, List.mem_map]
  constructor
  · rintro ⟨⟨x, outcome⟩, mem, rfl⟩
    obtain ⟨mem, failed⟩ := List.mem_filter.mp mem
    cases outcome with
    | ok _ => cases failed
    | error f => exact ⟨f, mem⟩
  · rintro ⟨f, mem⟩
    exact ⟨_, List.mem_filter.mpr ⟨mem, rfl⟩, rfl⟩

theorem any_refuses {attempts : List Attempt} :
    (attempts.map (Attempt.exchange text)).any (refuses s) = decide (s ∈ failing attempts) := by
  rw [Bool.eq_iff_iff, decide_eq_true_iff, mem_failing, List.any_map, List.any_eq_true]
  constructor
  · rintro ⟨⟨x, outcome⟩, mem, failed⟩
    cases outcome with
    | ok _ => cases failed
    | error f =>
        obtain rfl : x = s := of_decide_eq_true failed
        exact ⟨f, mem⟩
  · rintro ⟨f, mem⟩
    exact ⟨_, mem, decide_eq_true rfl⟩

/-- The socket is one that a publication failed to reach. -/
theorem any_refuses_sent (execution : String) (attempts : List Attempt) (rest : List Exchange)
    (text : String) (s : Socket) (calm : rest.any (refuses s) = false) :
    (⟨.subscribers execution, attempts.map (·.1)⟩ :: attempts.map (Attempt.exchange text) ++
      rest).any (refuses s) = decide (s ∈ failing attempts) := by
  rw [List.cons_append, List.any_cons, List.any_append, any_refuses, calm, Bool.or_false]
  rfl

theorem mem_of_mem_failing {attempts : List Attempt} (h : s ∈ failing attempts) :
    s ∈ attempts.map (·.1) := by
  obtain ⟨f, mem⟩ := mem_failing.mp h
  exact List.mem_map_of_mem mem

/-- Of the sockets that are sent a text, each gets it once, those apart to which sending fails. -/
theorem filterMap_taken {attempts : List Attempt} (once : (attempts.map (·.1)).Nodup) :
    (attempts.map (Attempt.exchange text)).filterMap (taken s) =
      if s ∈ attempts.map (·.1) ∧ s ∉ failing attempts then [text] else [] := by
  induction attempts with
  | nil => rfl
  | cons a attempts ih =>
      obtain ⟨x, outcome⟩ := a
      rw [List.map_cons, List.nodup_cons] at once
      have ih := ih once.2
      have known : s ∈ failing attempts → s ∈ attempts.map (·.1) := mem_of_mem_failing
      cases outcome with
      | ok _ =>
          have same : failing ((x, .ok ()) :: attempts) = failing attempts := rfl
          have first : taken s (Attempt.exchange text (x, .ok ())) =
            if x = s then some text else none := rfl
          rw [List.map_cons, List.map_cons, List.filterMap_cons, first, same, ih]
          grind
      | error f =>
          have more : failing ((x, .error f) :: attempts) = x :: failing attempts := rfl
          have first : taken s (Attempt.exchange text (x, .error f)) = none := rfl
          rw [List.map_cons, List.map_cons, List.filterMap_cons, first, more, ih]
          grind

theorem countP_reached {attempts : List Attempt} (once : (attempts.map (·.1)).Nodup) :
    (attempts.map (·.1)).countP (fun s => !decide (s ∈ failing attempts)) =
      attempts.length - (failing attempts).length := by
  have reached : ∀ a ∈ attempts, a.1 ∉ failing attempts ↔ a.2.isOk = true := by
    rintro ⟨x, outcome⟩ mem
    cases outcome with
    | ok _ =>
        refine iff_of_true (fun failed => ?_) rfl
        obtain ⟨f, other⟩ := mem_failing.mp failed
        cases List.inj_on_of_nodup_map once mem other rfl
    | error f => exact iff_of_false (not_not_intro (mem_failing.mpr ⟨f, mem⟩)) Bool.noConfusion
  have same : attempts.countP (fun a => !decide (a.1 ∈ failing attempts)) =
      attempts.countP fun a => a.2.isOk :=
    List.countP_congr fun a mem => by simpa using reached a mem
  have parts := attempts.length_eq_countP_add_countP fun a => a.2.isOk
  simp only [Bool.not_eq_true, Bool.decide_eq_false] at parts
  have count : (failing attempts).length = attempts.countP fun a => !a.2.isOk := by
    rw [failing, List.length_map, List.countP_eq_length_filter]
  rw [List.countP_map, Function.comp_def, same, count]
  omega

/-- Who is in the table is who is attached, and each is there once. -/
structure Tallies (past : List Deed) (t : Table) : Prop where
  once : ∀ e, (t.subscribers e).Nodup
  mem : ∀ s e, s ∈ t.subscribers e ↔ attached past s e = true

theorem Tallies.concat {d : Deed} (h : Tallies past t) (once : ∀ e, (t'.subscribers e).Nodup)
    (mem : ∀ s e, s ∈ t'.subscribers e ↔
      d.detaches s e = false ∧ (d.subscribes s e = true ∨ s ∈ t.subscribers e)) :
    Tallies (past ++ [d]) t' := by
  refine ⟨once, fun s e => ?_⟩
  rw [mem, h.mem, attached_concat, Bool.and_eq_true, Bool.or_eq_true, Bool.not_eq_true']

theorem Tallies.idle {d : Deed} (h : Tallies past t)
    (idle : ∀ s e, d.detaches s e = false ∧ d.subscribes s e = false) :
    Tallies (past ++ [d]) t := by
  refine h.concat h.once fun s e => ?_
  rw [(idle s e).1, (idle s e).2]
  simp

theorem tallies_empty : Tallies [] .empty :=
  ⟨fun _ => List.nodup_nil, fun _ _ => iff_of_false List.not_mem_nil Bool.noConfusion⟩

variable {xs : List Exchange} {message : Value}

theorem Tallies.subscribe {given : Unit} (h : Tallies past t) :
    Tallies (past ++ [⟨.subscribe s execution, xs, given⟩]) (t.attach execution s) := by
  refine h.concat (Table.nodup_attach h.once) fun x e => ?_
  rw [Table.mem_subscribers_attach]
  simp only [Deed.detaches, Deed.subscribes, Bool.and_eq_true, decide_eq_true_eq, true_and]
  grind

theorem Tallies.unsubscribe {given : Unit} (h : Tallies past t) :
    Tallies (past ++ [⟨.unsubscribe s execution, xs, given⟩]) (t.detach execution s) := by
  refine h.concat (Table.nodup_detach h.once) fun x e => ?_
  rw [Table.mem_subscribers_detach]
  simp only [Deed.detaches, Deed.subscribes, Bool.and_eq_false_iff, decide_eq_false_iff_not]
  grind

theorem Tallies.serve {incoming : List Endpoint.Incoming} {given : Unit} (h : Tallies past t) :
    Tallies (past ++ [⟨.serve s execution (some incoming), xs, given⟩])
      ((t.attach execution s).detach execution s) := by
  refine h.concat (Table.nodup_detach (Table.nodup_attach h.once)) fun x e => ?_
  rw [Table.mem_subscribers_detach, Table.mem_subscribers_attach]
  simp only [Deed.detaches, Deed.subscribes, Bool.and_eq_false_iff, decide_eq_false_iff_not]
  grind

theorem Tallies.settle {attempts : List Attempt} {n : Nat} (h : Tallies past t)
    (failed : ∀ s, xs.any (refuses s) = decide (s ∈ failing attempts)) :
    Tallies (past ++ [⟨.publish execution message, xs, .ok n⟩])
      (t.settle execution (isTerminal message) (failing attempts)) := by
  refine h.concat (Table.nodup_settle h.once) fun x e => ?_
  rw [Table.mem_subscribers_settle]
  simp only [Deed.detaches, Deed.subscribes, failed]
  grind

/-- A publication that has sent its text to everyone who listens. -/
theorem reaches_of_attempts {attempts : List Attempt} {rest : List Exchange}
    {given : Except Failure Nat} (h : Tallies past t)
    (heard : attempts.map (·.1) = t.subscribers execution) (filled : attempts ≠ [])
    (written : Json.write .spaced message = .ok text)
    (quiet : ∀ s, rest.filterMap (taken s) = []) (calm : ∀ s, rest.any (refuses s) = false)
    (counted : given = .ok (attempts.length - (failing attempts).length)) :
    Reaches past execution message
      (⟨.subscribers execution, attempts.map (·.1)⟩ :: attempts.map (Attempt.exchange text) ++ rest)
      given (attempts.map (·.1)) := by
  have once : (attempts.map (·.1)).Nodup := heard ▸ h.once execution
  have failed (s : Socket) := any_refuses_sent execution attempts rest text s (calm s)
  refine ⟨once, fun s => heard ▸ h.mem s execution, fun s => ?_, ?_⟩
  · have first : taken s ⟨.subscribers execution, attempts.map (·.1)⟩ = none := rfl
    rw [failed, List.cons_append, List.filterMap_cons_none first, List.filterMap_append, quiet,
      List.append_nil, filterMap_taken once, written]
    simp only [decide_eq_false_iff_not]
    rfl
  · simp only [failed]
    rw [if_neg (by simpa using filled), written, countP_reached once]
    exact counted

theorem tallies_publish {given : Except Failure Nat} (h : Tallies past t)
    (update : IsUpdate execution message) (ends : (publish execution message).Ends xs given)
    (answers : t.Answers xs t') :
    Tallies (past ++ [⟨.publish execution message, xs, given⟩]) t' ∧
      ∃ audience, Reaches past execution message xs given audience := by
  have sends (attempts : List Attempt) (text : String) : ∀ x ∈ attempts.map (Attempt.exchange text),
      ∃ s text r, x = (⟨.send s text, r⟩ : Exchange) := by
    intro x mem
    obtain ⟨a, -, rfl⟩ := List.mem_map.mp mem
    exact ⟨a.1, text, a.2, rfl⟩
  cases publishes_of_ends ends with
  | unheard =>
      obtain ⟨_, heard, answers⟩ := answers.of_cons
      obtain rfl := answers.of_nil
      have heard : [] = Table.subscribers t execution := heard
      refine ⟨h.concat h.once fun s e => ?_, [], List.nodup_nil,
        fun s => heard ▸ h.mem s execution, fun _ => rfl, rfl⟩
      have elsewhere : s ∈ t.subscribers e → ¬ execution = e := by
        rintro mem rfl
        rw [← heard] at mem
        cases mem
      have idle : execution ≠ e →
          Deed.detaches s e ⟨.publish execution message, [⟨.subscribers execution, []⟩], .ok 0⟩ =
            false := fun other => by simp [Deed.detaches, other]
      exact ⟨fun mem => ⟨idle (elsewhere mem), .inr mem⟩, fun kept => kept.2.resolve_left nofun⟩
  | @unwritten audience f filled failed =>
      obtain ⟨_, heard, answers⟩ := answers.of_cons
      obtain rfl := answers.of_nil
      have heard : audience = Table.subscribers t execution := heard
      have open_ : isTerminal message = false := by
        refine Bool.eq_false_iff.mpr fun final => ?_
        obtain ⟨text, written⟩ := update.exists_text final
        rw [failed] at written
        cases written
      refine ⟨h.idle fun s e => ⟨?_, rfl⟩, audience, heard ▸ h.once execution,
        fun s => heard ▸ h.mem s execution, fun s => ?_, ?_⟩
      · simp only [Deed.detaches, open_, Bool.false_or]
        exact Bool.and_false _
      · rw [failed]
        exact (ite_self _).symm
      · rw [if_neg filled, failed]
        rfl
  | undecided _ _ failed =>
      rw [update.isLast_eq] at failed
      cases failed
  | @settled attempts text last filled written decided =>
      obtain rfl : isTerminal message = last := Except.ok.inj (update.isLast_eq.symm.trans decided)
      obtain ⟨_, heard, answers⟩ := answers.of_cons
      obtain ⟨_, _, answers⟩ := (answers.of_sends (sends attempts text)).of_cons
      obtain rfl := answers.of_nil
      refine ⟨h.settle fun s => any_refuses_sent execution attempts _ text s rfl,
        attempts.map (·.1), ?_⟩
      exact reaches_of_attempts h heard filled written (fun _ => rfl) (fun _ => rfl) rfl

theorem filterMap_taken_onlySends {x : Socket} {sends : List Exchange}
    (only : OnlySends x sends) (other : s ≠ x) : sends.filterMap (taken s) = [] := by
  refine List.filterMap_eq_nil_iff.mpr fun exchange mem => ?_
  obtain ⟨text, r, rfl⟩ := only exchange mem
  cases r with
  | ok _ => exact if_neg other.symm
  | error _ => rfl

theorem tallies_serve {incoming : Option (List Endpoint.Incoming)} {given : Unit}
    (h : Tallies past t) (ends : (Endpoint.serve s execution incoming).Ends xs given)
    (answers : t.Answers xs t') :
    Tallies (past ++ [⟨.serve s execution incoming, xs, given⟩]) t' ∧
      ∀ x, x ≠ s → xs.filterMap (taken x) = [] := by
  cases incoming with
  | none =>
      obtain rfl := ends_ask.mp ends
      obtain ⟨_, _, answers⟩ := answers.of_cons
      obtain rfl := answers.of_nil
      exact ⟨h.idle fun _ _ => ⟨rfl, rfl⟩, fun _ _ => rfl⟩
  | some incoming =>
      obtain ⟨sends, only, rfl⟩ := Endpoint.served_of_ends ends
      obtain ⟨_, _, answers⟩ := answers.of_cons
      obtain ⟨_, _, answers⟩ := answers.of_cons
      have answers := answers.of_sends fun x mem => ⟨s, only x mem⟩
      obtain ⟨_, _, answers⟩ := answers.of_cons
      obtain rfl := answers.of_nil
      refine ⟨h.serve, fun x other => ?_⟩
      have accepted : taken x ⟨.accept s, ()⟩ = none := rfl
      have entered : taken x ⟨.attach execution s, ()⟩ = none := rfl
      rw [List.cons_append, List.cons_append, List.filterMap_cons_none accepted,
        List.filterMap_cons_none entered, List.filterMap_append,
        filterMap_taken_onlySends only other]
      rfl

theorem tallies_deed {l : Line} (j : Job) (h : Tallies past l.table)
    (updates : ∀ execution message, j = .publish execution message → IsUpdate execution message) :
    Tallies (past ++ [l.deed j]) (l.after j).table ∧ (l.deed j).Delivers past := by
  have ends := ends_run Line.answer j.work l
  have answers := Table.answers_run j.work l
  cases j with
  | subscribe s execution => exact ⟨h.subscribe, fun _ => rfl⟩
  | unsubscribe s execution => exact ⟨h.unsubscribe, fun _ => rfl⟩
  | publish execution message =>
      exact tallies_publish h (updates execution message rfl) ends answers
  | serve s execution incoming => exact tallies_serve h ends answers

/-- Every deed delivers what it has to, given those before it. -/
theorem delivers_deeds {l : Line} {jobs : List Job} (h : Tallies past l.table)
    (updates : ∀ execution message, .publish execution message ∈ jobs → IsUpdate execution message)
    {before after : List Deed} {d : Deed} (parts : l.deeds jobs = before ++ d :: after) :
    d.Delivers (past ++ before) := by
  induction jobs generalizing l past before with
  | nil => cases before <;> cases parts
  | cons j jobs ih =>
      obtain ⟨next, delivers⟩ := tallies_deed j h fun _ _ same => updates _ _ (same ▸ .head _)
      cases before with
      | nil =>
          obtain ⟨rfl, -⟩ := List.cons.inj parts
          rwa [List.append_nil]
      | cons x before =>
          obtain ⟨rfl, rest⟩ := List.cons.inj parts
          rw [List.append_cons]
          exact ih next (fun _ _ mem => updates _ _ (.tail _ mem)) rest

theorem received_eq_due {deeds : List Deed}
    (h : ∀ before d after, deeds = before ++ d :: after → d.Delivers (past ++ before)) :
    received s execution deeds = due s execution past deeds := by
  induction deeds generalizing past with
  | nil => rfl
  | cons d deeds ih =>
      have rest : received s execution deeds = due s execution (past ++ [d]) deeds := by
        refine ih fun before x after parts => ?_
        rw [List.append_assoc]
        exact h (d :: before) x after (congrArg (d :: ·) parts)
      rw [received, List.flatMap_cons, due]
      refine congrArg₂ (· ++ ·) ?_ rest
      have first := h [] d deeds rfl
      rw [List.append_nil] at first
      obtain ⟨job, t, given⟩ := d
      cases job with
      | publish e message =>
          obtain ⟨audience, reaches⟩ := first
          by_cases here : e = execution
          · subst here
            simp only [← reaches.mem, true_and]
            exact reaches.texts s
          · simp only [here, false_and]
            rfl
      | subscribe | unsubscribe | serve => rfl

def openingUpdate : Value :=
  .obj [("type", .str "status"), ("execution_id", .str "e"), ("status", .str "running")]

def closingUpdate : Value :=
  .obj [("type", .str "status"), ("execution_id", .str "e"), ("status", .str "failed"),
    ("error", .str "late")]

/-- Two sockets listen to a run, and one of them misses its start; nobody is left after its end. -/
def sampleJobs : List Job :=
  [.subscribe "a" "e", .subscribe "b" "e", .publish "e" openingUpdate, .publish "e" closingUpdate,
    .publish "e" openingUpdate]

def sampleDeeds : List Deed :=
  (Line.start fun n => if n = 6 then .error Rehearsal.Sockets.full else .ok ()).deeds sampleJobs

theorem isUpdate_of_sample (execution : String) (message : Value)
    (mem : .publish execution message ∈ sampleJobs) : IsUpdate execution message := by
  simp only [sampleJobs, List.mem_cons, Job.publish.injEq, reduceCtorEq, List.not_mem_nil,
    false_or, or_false] at mem
  obtain ⟨rfl, rfl⟩ | ⟨rfl, rfl⟩ | ⟨rfl, rfl⟩ := mem
  · exact ⟨_, _, .opened .running, rfl⟩
  · exact ⟨_, _, .closed .failed (some "late"), rfl⟩
  · exact ⟨_, _, .opened .running, rfl⟩

end TriggerFlow.Stream
