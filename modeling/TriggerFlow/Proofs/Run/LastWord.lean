import TriggerFlow.Proofs.Run.Closing
import TriggerFlow.Proofs.Run.Retelling

/-!
The last that is heard of a run. Whatever calls of the store fail, the listener was told last of the
status that the run stored last, save in one case: a completion that was stored and then could not
be counted ends the run before anybody is told of it.
-/

namespace TriggerFlow.Engine

open Program
open Store (Memory)

variable {w : Workflow} {ticket : Ticket} {e l d b : Execution} {t t₀ t₁ t₂ : List Exchange}
  {u v : List Event} {x : Exchange} {m m' m₀ m₁ : Memory} {id execution : String} {n : Node}
  {context : Fields} {a : Option Execution}

section Hearing

/-- The status of an execution that a notice tells of, if it tells of one. -/
def Notice.status? (execution : String) (n : Notice) : Option String :=
  if n.event = "status" ∧ n.execution = execution then
    match n.data.get? "status" with
    | some (.str name) => some name
    | _ => none
  else none

def statuses (execution : String) (t : List Exchange) : List String :=
  (notices t).filterMap (Notice.status? execution)

def lastWord? (execution : String) (t : List Exchange) : Option String :=
  (statuses execution t).getLast?

@[simp] theorem statuses_append (execution : String) (t u : List Exchange) :
    statuses execution (t ++ u) = statuses execution t ++ statuses execution u := by
  rw [statuses, notices_append, List.filterMap_append]
  rfl

/-- Nothing is told of the status of a run. -/
def Wordless (t : List Exchange) : Prop := ∀ n ∈ notices t, n.event ≠ "status"

theorem Wordless.statuses (h : Wordless t) (execution : String) : statuses execution t = [] :=
  List.filterMap_eq_nil_iff.mpr fun n hn => if_neg fun both => h n hn both.1

theorem Wordless.append (h : Wordless t₁) (h' : Wordless t₂) : Wordless (t₁ ++ t₂) := by
  rw [Wordless, notices_append, List.forall_mem_append]
  exact ⟨h, h'⟩

theorem wordless_visit {fresh : String} {start : Moment} {told : Except Failure Unit}
    {p : Except Failure Fields} (work : (perform n context).Ends t p) (rest : Wordless t₂) :
    Wordless (beginning l n fresh start told ++ t ++ t₂) := by
  rw [Wordless, notices_visit work, List.forall_mem_cons]
  exact ⟨by simp [started], rest⟩

theorem Visits.wordless {r : Except (Execution × Stop) (Execution × Visit)}
    (h : Visits w l n context t r) : Wordless t := by
  cases h with
  | unbegun => exact List.forall_mem_nil _
  | failedUnsaved _ _ _ _ _ work | succeededUnsaved _ _ _ _ _ work =>
      exact wordless_visit work (List.forall_mem_nil _)
  | failed _ _ _ _ _ work | succeeded _ _ _ _ _ work =>
      exact wordless_visit work (List.forall_mem_singleton.mpr (by simp))

theorem Skips.wordless {c : Connection} {r : Execution × Except Failure Unit}
    (h : Skips w l c t r) : Wordless t := by
  cases h with
  | unsaved => exact List.forall_mem_nil _
  | saved => exact List.forall_mem_singleton.mpr (by simp)

theorem Turn.wordless {s s' : Walk} (h : Turn w ticket s v s') : Wordless (exchanges v) := by
  cases h with
  | leave | pass => exact List.forall_mem_nil _
  | skip no skips =>
      rw [exchanges_looked]
      exact skips.wordless
  | enter yes target away fresh visits =>
      rw [exchanges_stepped]
      exact visits.wordless

theorem Halt.wordless {s : Walk} {r : Execution × Option Stop} (h : Halt w ticket s v r) :
    Wordless (exchanges v) := by
  cases h with
  | finished | cancelled | raised | lost | cycle => exact List.forall_mem_nil _
  | unskipped no skips =>
      rw [exchanges_looked]
      exact skips.wordless
  | stopped yes target away fresh visits =>
      rw [exchanges_stepped]
      exact visits.wordless

theorem Traverses.wordless {r : Execution × Option Stop} (prepared : Prepared w e)
    (h : Traverses w ticket e u r) : Wordless (exchanges u) := by
  obtain ⟨n, ns, first⟩ := prepared.activatable.trigger
  obtain ⟨t, l, stop, visits, rfl, rfl⟩ | ⟨u', s, v, wordless, halt, rfl⟩ :=
    h.exists_halt (P := fun u _ => Wordless (exchanges u)) prepared first
      (fun visits => by
        rw [exchanges_begun]
        exact visits.wordless)
      fun wordless turn => by
        rw [exchanges_append]
        exact wordless.append turn.wordless
  · rw [exchanges_begun]
    exact visits.wordless
  · rw [exchanges_append]
    exact wordless.append halt.wordless

end Hearing

section Keeping

/-- A store in memory that may be out of order: it answers a call, or fails and stays as it is. -/
inductive Tries : Memory → Exchange → Memory → Prop
  | given {m m' : Memory} {x : Exchange} (h : Gives m x m') : Tries m x m'
  | refused (m : Memory) (c : Store.Call) (f : Failure) : Tries m ⟨.store c, .error f⟩ m

theorem Tries.get?_of_finished (h : Tries m x m') (stored : m.executions.get? id = some l)
    (finished : l.isFinished = true) : m'.executions.get? id = some l := by
  cases h with
  | given gives => exact gives.get?_of_finished stored finished
  | refused => exact stored

/-- The record that the store says it has saved. -/
def acknowledged? : Exchange → Option Execution
  | ⟨.store (.saveExecution l), .ok ()⟩ => some l
  | _ => none

def acknowledgements (t : List Exchange) : List Execution := t.filterMap acknowledged?

/-- The record that the store said last it has saved. -/
def lastAcknowledged? (t : List Exchange) : Option Execution := (acknowledgements t).getLast?

@[simp] theorem acknowledgements_append (t u : List Exchange) :
    acknowledgements (t ++ u) = acknowledgements t ++ acknowledgements u :=
  List.filterMap_append

theorem lastAcknowledged?_cons (x : Exchange) (t : List Exchange) :
    lastAcknowledged? (x :: t) = (lastAcknowledged? t).or (acknowledged? x) := by
  rw [lastAcknowledged?, acknowledgements]
  cases h : acknowledged? x with
  | none =>
      rw [List.filterMap_cons_none h, Option.or_none]
      rfl
  | some l =>
      rw [List.filterMap_cons_some h, List.getLast?_cons]
      exact Option.or_some.symm

theorem lastAcknowledged?_saving (nothing : acknowledgements t₂ = []) :
    lastAcknowledged? (t ++ saving l (.ok ()) :: t₂) = some l := by
  have kept : acknowledgements (saving l (.ok ()) :: t₂) = [l] := by
    show l :: acknowledgements t₂ = [l]
    rw [nothing]
  rw [lastAcknowledged?, acknowledgements_append, kept]
  exact List.getLast?_concat

theorem saved_of_acknowledged (h : l ∈ acknowledgements t) : l ∈ savings t := by
  obtain ⟨⟨c, reply⟩, hx, same⟩ := List.mem_filterMap.mp h
  refine List.mem_filterMap.mpr ⟨_, hx, ?_⟩
  cases c with
  | store c =>
      cases c with
      | saveExecution d =>
          cases reply with
          | ok _ => exact same
          | error _ => cases same
      | _ => cases same
  | _ => cases same

/-- No record but that of this id is written, and that by a save. -/
def Mine (id : String) : Exchange → Prop
  | ⟨.store (.saveExecution l), _⟩ => l.id = id
  | ⟨.store (.markCancelled _ _ _), _⟩ => False
  | _ => True

theorem Working.mine (h : Working e ticket x) : Mine e.id x := by
  cases h with
  | saved steps => exact steps.id
  | drawn | timed | told | invoked | polled => trivial

theorem Gives.displays {reply : Except Failure Unit}
    (h : Gives m (Engine.saving d reply) m') (shown : Displays d.id a m)
    (unfinished : ∀ b ∈ a, b.isFinished = false) : reply = .ok () ∧ Displays d.id (some d) m' := by
  obtain ⟨time, fresh, answer⟩ := h
  obtain rfl : m.saveExecution d = m' := congrArg Prod.snd answer
  refine ⟨(congrArg Prod.fst answer).symm, ?_⟩
  obtain saved | ⟨l, closed, -, stored⟩ := shown.save unfinished
  · exact .inl saved
  · exact .inr ⟨l, closed, stored⟩

/-- While it is unfinished, a record is displayed until the store says that it has saved another. -/
theorem Tries.displays (h : Tries m x m') (mine : Mine id x)
    (unfinished : ∀ b ∈ a, b.isFinished = false) (shown : Displays id a m) :
    Displays id ((acknowledged? x).or a) m' := by
  cases h with
  | @refused c f =>
      have unsaved : acknowledged? ⟨.store c, .error f⟩ = none := by cases c <;> rfl
      rw [unsaved]
      exact shown
  | given gives =>
  obtain ⟨c, reply⟩ := x
  cases c with
  | store c =>
      cases c with
      | saveExecution d =>
          obtain rfl : d.id = id := mine
          obtain ⟨rfl, displayed⟩ := Gives.displays gives shown unfinished
          exact displayed
      | markCancelled => exact mine.elim
      | _ =>
          rw [Displays, gives.executions_eq rfl]
          exact shown
  | _ =>
      obtain rfl : m' = m := gives
      exact shown

/-- As long as all that the store says it has saved is unfinished, it shows the last of that. -/
theorem displays_of_amid (h : Amid Tries (Marks id) m t m') (mine : ∀ x ∈ t, Mine id x)
    (running : ∀ l ∈ acknowledgements t, l.isFinished = false)
    (unfinished : ∀ b ∈ a, b.isFinished = false) (shown : Displays id a m) :
    Displays id ((lastAcknowledged? t).or a) m' := by
  induction h generalizing a with
  | nil => exact shown
  | other marks _ ih => exact ih mine running unfinished (marks.displays shown)
  | @call m _ _ x t tries _ ih =>
      rw [List.forall_mem_cons] at mine
      rw [lastAcknowledged?_cons, Option.or_assoc]
      have still : ∀ b ∈ (acknowledged? x).or a, b.isFinished = false := by
        intro b hb
        obtain hb | ⟨-, hb⟩ := Option.or_eq_some_iff.mp hb
        · exact running b (List.mem_filterMap.mpr ⟨x, List.mem_cons_self, hb⟩)
        · exact unfinished b hb
      refine ih mine.2 (fun l hl => running l ?_) still (tries.displays mine.1 unfinished shown)
      obtain ⟨y, hy, same⟩ := List.mem_filterMap.mp hl
      exact List.mem_filterMap.mpr ⟨y, .tail _ hy, same⟩

end Keeping

section Agreement

/-- The store refused no count of a completion. -/
def Counted (t : List Exchange) : Prop :=
  ∀ id tenant finish f, (⟨.store (.incrementRunCount id tenant finish), .error f⟩ : Exchange) ∉ t

theorem counted_of_countings (h : countings t = 0) : Counted t :=
  fun _ _ _ _ hx => List.countP_eq_zero.mp h _ hx rfl

theorem counted_of_stored (h : Stored t) : Counted t := fun _ _ _ f => h _ f

theorem Counted.append (h : Counted t₁) (h' : Counted t₂) : Counted (t₁ ++ t₂) := by
  intro id tenant finish f hx
  obtain hx | hx := List.mem_append.mp hx
  · exact h _ _ _ _ hx
  · exact h' _ _ _ _ hx

/-- What a run goes on with as long as it does not store its end. -/
structure Onward (e : Execution) (t : List Exchange) : Prop where
  mine : ∀ x ∈ t, Mine e.id x
  running : ∀ l ∈ acknowledgements t, l.status = .running
  wordless : Wordless t
  uncounted : countings t = 0

theorem onward_of_idle (mine : ∀ x ∈ t, Mine e.id x) (unsaved : acknowledgements t = [])
    (untold : notices t = []) (uncounted : countings t = 0) : Onward e t := by
  refine ⟨mine, ?_, ?_, uncounted⟩
  · rw [unsaved]
    exact List.forall_mem_nil _
  · rw [Wordless, untold]
    exact List.forall_mem_nil _

theorem Traverses.onward {r : Execution × Option Stop} (prepared : Prepared w e)
    (h : Traverses w ticket e u r) : Onward e (exchanges u) where
  mine x hx := (h.working x hx).mine
  running _ hl := (h.of_mem_savings (saved_of_acknowledged hl)).status.trans prepared.running
  wordless := h.wordless prepared
  uncounted := h.countings

/-- A run that is under way: the listener and the store know that it is running, and no more. -/
structure Underway (e : Execution) (t : List Exchange) : Prop where
  mine : ∀ x ∈ t, Mine e.id x
  running : ∀ l ∈ acknowledgements t, l.status = .running
  begun : acknowledgements t ≠ []
  told : statuses e.id t = [ExecutionStatus.running.name]
  uncounted : countings t = 0

theorem Underway.append (h : Underway e t₁) (onward : Onward e t₂) : Underway e (t₁ ++ t₂) where
  mine := List.forall_mem_append.mpr ⟨h.mine, onward.mine⟩
  running := by
    rw [acknowledgements_append, List.forall_mem_append]
    exact ⟨h.running, onward.running⟩
  begun := by
    rw [acknowledgements_append]
    exact List.append_ne_nil_of_left_ne_nil h.begun _
  told := by rw [statuses_append, h.told, onward.wordless.statuses, List.append_nil]
  uncounted := by rw [countings_append, h.uncounted, onward.uncounted]

theorem Prepares.underway {data : Value} (h : Prepares w data t (.ok e))
    (running : e.status = .running) : Underway e t := by
  have told : statuses e.id t = [ExecutionStatus.running.name] := by
    rw [statuses, h.notices_eq running]
    simp [Notice.status?, opening, Fields.get?]
  have uncounted := h.countings
  cases h with
  | registered fresh start given new =>
      exact ⟨by simp [Mine, saving, telling], List.forall_mem_singleton.mpr running,
        List.cons_ne_nil _ _, told, uncounted⟩

/-- What the store shows in the end of a run of which it acknowledged `l` last: that, or a record
that was closed while all it had acknowledged was running. -/
inductive Found (id : String) (m₀ : Memory) (t : List Exchange) (l : Execution) : Execution → Prop
  | own : Found id m₀ t l l
  | closed {c : Execution} {t₁ t₂ : List Exchange} {m : Memory} (closed : Closed c)
      (cut : t = t₁ ++ t₂) (company : Amid Tries (Marks id) m₀ t₁ m)
      (earlier : m.executions.get? id = some c)
      (running : ∀ l ∈ acknowledgements t₁, l.status = .running) : Found id m₀ t l c

theorem Underway.exists_last (h : Underway e t) :
    ∃ l, lastAcknowledged? t = some l ∧ l.status = .running := by
  refine ⟨_, List.getLast?_eq_some_getLast h.begun, ?_⟩
  exact h.running _ (List.getLast_mem h.begun)

theorem Underway.displays (h : Underway e t) (company : Amid Tries (Marks e.id) m₀ t m)
    (new : m₀.executions.get? e.id = none) : Displays e.id (lastAcknowledged? t) m := by
  have unfinished : ∀ l ∈ acknowledgements t, l.isFinished = false := fun l hl =>
    Execution.isFinished_eq_false.mpr (h.running l hl)
  have shown : Displays e.id none m₀ := .inl new
  have displays := displays_of_amid company h.mine unfinished (by simp) shown
  rw [Option.or_none] at displays
  exact displays

theorem Underway.found (h : Underway e t) (company : Amid Tries (Marks e.id) m₀ t m)
    (new : m₀.executions.get? e.id = none) (last : lastAcknowledged? t = some l) :
    ∃ c, m.executions.get? e.id = some c ∧ Found e.id m₀ t l c := by
  obtain same | ⟨c, closed, stored⟩ := h.displays company new
  · exact ⟨l, same.trans last, .own⟩
  · exact ⟨c, stored, .closed closed (List.append_nil t).symm company stored h.running⟩

/-- Once the end of a run is stored, the store shows it, unless the record was closed before. -/
theorem Underway.found_of_saved (h : Underway e t)
    (company : Amid Tries (Marks e.id) m₀ (t ++ saving d (.ok ()) :: t₂) m₁)
    (new : m₀.executions.get? e.id = none) (same : d.id = e.id) (finished : d.isFinished = true) :
    ∃ c, m₁.executions.get? e.id = some c ∧ Found e.id m₀ (t ++ saving d (.ok ()) :: t₂) d c := by
  obtain ⟨m₂, walked, saved⟩ := Amid.of_append company
  obtain ⟨m₃, m₄, idle, tries, after⟩ := Amid.of_cons saved
  have before := Amid.append walked idle
  rw [List.append_nil] at before
  have stays {c : Execution} (stored : m₄.executions.get? e.id = some c)
      (finished : c.isFinished = true) : m₁.executions.get? e.id = some c :=
    Amid.preserves (P := fun m => m.executions.get? e.id = some c) after stored
      (fun marks stored => marks.get?_of_finished stored finished)
      fun _ tries stored => tries.get?_of_finished stored finished
  obtain ⟨l, last, running⟩ := h.exists_last
  have shown := h.displays before new
  rw [last, ← same] at shown
  obtain ⟨gives⟩ := tries
  obtain rfl : m₄ = m₃.saveExecution d := gives.saving
  obtain stored | ⟨c, closed, earlier, stored⟩ := shown.save fun b hb => by
    cases hb
    exact Execution.isFinished_eq_false.mpr running
  all_goals rw [same] at stored
  · exact ⟨d, stays stored finished, .own⟩
  · rw [same] at earlier
    exact ⟨c, stays stored closed.isFinished, .closed closed rfl before earlier h.running⟩

/-- What the listener was told last of a run of which the store acknowledged `l` last: the status of
`l`, unless that is a completion which the store refused to count. -/
inductive Heard (w : Workflow) (execution : String) (t : List Exchange)
    (r : Except Failure Execution) (l : Execution) : Prop
  | agreeing (counted : Counted t) (word : lastWord? execution t = some l.status.name)
  | uncounted (refused : ¬ Counted t) (completed : l.status = .completed)
      (word : lastWord? execution t = some ExecutionStatus.running.name)
      (raised : ∃ detail,
        r = .error (.engine (.persistence "update run statistics" detail w.id)))

theorem Underway.heard {r : Except Failure Execution} (h : Underway e t)
    (running : l.status = .running) : Heard w e.id t r l := by
  refine .agreeing (counted_of_countings h.uncounted) ?_
  rw [lastWord?, h.told, running]
  rfl

/-- How a run parts once its end `d` was stored: it tells of that if it is no completion or counted,
and tells nothing otherwise. -/
inductive Parts (w : Workflow) (execution : String) (d : Execution) :
    List Exchange → Except Failure Execution → Prop
  | told {t : List Exchange} (counted : Counted t)
      (told : statuses execution t = [d.status.name]) : Parts w execution d t (.ok d)
  | untold {t : List Exchange} (refused : ¬ Counted t) (completed : d.status = .completed)
      (untold : statuses execution t = []) (detail : String) :
      Parts w execution d t
        (.error (.engine (.persistence "update run statistics" detail w.id)))

theorem Parts.heard {r : Except Failure Execution} (parts : Parts w e.id d t₂ r)
    (h : Underway e t) : Heard w e.id (t ++ saving d (.ok ()) :: t₂) r d := by
  have word : statuses e.id (t ++ saving d (.ok ()) :: t₂) =
      ExecutionStatus.running.name :: statuses e.id t₂ := by
    rw [statuses_append, h.told]
    rfl
  cases parts with
  | told counted told =>
      refine .agreeing ((counted_of_countings h.uncounted).append ?_) ?_
      · have saved : Counted [saving d (.ok ())] := counted_of_countings rfl
        exact saved.append counted
      · rw [lastWord?, word, told]
        rfl
  | untold refused completed untold detail =>
      refine .uncounted (fun counted => refused ?_) completed ?_ ⟨detail, rfl⟩
      · exact fun _ _ _ _ hx => counted _ _ _ _ (List.mem_append_right _ (.tail _ hx))
      · rw [lastWord?, word, untold]
        rfl

theorem notices_saved (finish : Moment) (d : Execution) (t : List Exchange) :
    notices (⟨.now, finish⟩ :: saving d (.ok ()) :: t) = notices t := rfl

theorem statuses_of_closing (h : notices t = [closing d]) (same : d.id = e.id) :
    statuses e.id t = [d.status.name] := by
  rw [statuses, h]
  simp [closing, Notice.status?, Fields.get?, same]

/-- A run that concludes stores no end, or stores it and parts. -/
theorem Concludes.parts {s : Execution × Option Stop} {r : Except Failure Execution}
    (h : Concludes w ticket s t r) (same : s.1.id = e.id) :
    Onward e t ∨ ∃ finish d rest, t = ⟨.now, finish⟩ :: saving d (.ok ()) :: rest ∧ d.id = e.id ∧
      d.isFinished = true ∧ acknowledgements rest = [] ∧ Parts w e.id d rest r := by
  have told : ∀ d, r = .ok d → notices t = [closing d] := by
    rintro d rfl
    exact h.notices_eq
  cases h with
  | aborted => exact .inl (onward_of_idle (by simp [Mine]) rfl rfl rfl)
  | unsaved taken finish =>
      have mine := (concluded_id taken).trans same
      exact .inl (onward_of_idle (by simp [Mine, saving, mine]) rfl rfl rfl)
  | @uncounted l ended stop taken completed finish f =>
      have finished : ended.isFinished = true := concluded_isFinished taken
      refine .inr ⟨finish, _, _, rfl, (concluded_id taken).trans same, finished, rfl, ?_⟩
      refine .untold ?_ ?_ ?_ f.message
      · exact fun counted => counted _ _ _ _ (.head _)
      · exact completed
      · rfl
  | @counted l ended stop taken completed finish reply =>
      have finished : ended.isFinished = true := concluded_isFinished taken
      have mine : ended.id = e.id := (concluded_id taken).trans same
      have told := told _ rfl
      rw [notices_saved] at told
      refine .inr ⟨finish, _, _, rfl, mine, finished, rfl, ?_⟩
      exact .told (counted_of_stored (stored_iff.mpr rfl)) (statuses_of_closing told mine)
  | @closed l ended stop taken incomplete finish reply =>
      have finished : ended.isFinished = true := concluded_isFinished taken
      have mine : ended.id = e.id := (concluded_id taken).trans same
      have told := told _ rfl
      rw [notices_saved] at told
      refine .inr ⟨finish, _, _, rfl, mine, finished, rfl, ?_⟩
      exact .told (counted_of_stored (stored_iff.mpr rfl)) (statuses_of_closing told mine)

/-- The listener was told last of a run what the store acknowledged last of it, whatever calls of
the store failed, unless that is a completion which the store refused to count; and the store shows
what it acknowledged last, unless the record was closed before. -/
theorem last_word_unless_uncounted {data : Value} {r : Except Failure Execution}
    (accepted : (prepare w data).Ends t₀ (.ok e)) (ran : (run w alone e).Ends t r)
    (company : Amid Tries (Marks e.id) m₀ (t₀ ++ t) m₁)
    (new : m₀.executions.get? e.id = none) :
    ∃ l c, lastAcknowledged? (t₀ ++ t) = some l ∧ Heard w e.id (t₀ ++ t) r l ∧
      m₁.executions.get? e.id = some c ∧ Found e.id m₀ (t₀ ++ t) l c := by
  have prepared := prepared_of_ends accepted
  have prepares := prepares_of_ends accepted
  obtain ⟨u, s, @⟨ticket, _, s, c, _, traverses, concludes⟩⟩ := course_of_ends ran
  have attached : Onward e [⟨.attach e.id, ticket⟩] := onward_of_idle (by simp [Mine]) rfl rfl rfl
  have walked : Underway e (t₀ ++ ⟨.attach e.id, ticket⟩ :: exchanges u) := by
    rw [List.append_cons]
    exact ((prepares.underway prepared.running).append attached).append (traverses.onward prepared)
  rw [← List.append_assoc] at company ⊢
  obtain onward | ⟨finish, d, rest, rfl, same, finished, unsaved, parts⟩ :=
    concludes.parts (e := e) traverses.onlySteps.id
  · have whole := walked.append onward
    obtain ⟨l, last, running⟩ := whole.exists_last
    obtain ⟨c, stored, found⟩ := whole.found company new last
    exact ⟨l, c, last, whole.heard running, stored, found⟩
  · have onward : Onward e [⟨.now, finish⟩] := onward_of_idle (by simp [Mine]) rfl rfl rfl
    have dated := walked.append onward
    rw [List.append_cons] at company ⊢
    obtain ⟨c, stored, found⟩ := dated.found_of_saved company new same finished
    exact ⟨d, c, lastAcknowledged?_saving unsaved, parts.heard dated, stored, found⟩

section
variable (answer : (c : Call) → Memory → Reply c × Memory)

def sampleStory : List Exchange := (run sample alone sampleRecord).exchange answer preparedStore

def sampleRemains : Memory := ((run sample alone sampleRecord).run answer preparedStore).2

variable {answer}

theorem company_sample (tries : ∀ c m, Tries m ⟨c, (answer c m).1⟩ (answer c m).2) :
    Amid Tries (Marks sampleRecord.id) sampleStore
      ((prepare sample .null).exchange storing sampleStore ++ sampleStory answer)
      (sampleRemains answer) :=
  Amid.append (amid_exchange (fun c m => .given (gives_storing c m)) (prepare sample .null) _)
    (amid_exchange tries (run sample alone sampleRecord) _)

end

/-- Where the store works, the sample is completed and the listener hears of it. -/
theorem sample_last_word : ∃ (r : Except Failure Execution) (l c : Execution),
    (run sample alone sampleRecord).Ends (sampleStory storing) r ∧
    lastAcknowledged? ((prepare sample .null).exchange storing sampleStore ++
      sampleStory storing) = some l ∧ l.status = .completed ∧
    Heard sample sampleRecord.id ((prepare sample .null).exchange storing sampleStore ++
      sampleStory storing) r l ∧
    (sampleRemains storing).executions.get? sampleRecord.id = some c ∧
    Found sampleRecord.id sampleStore ((prepare sample .null).exchange storing sampleStore ++
      sampleStory storing) l c := by
  have ran : (run sample alone sampleRecord).Ends (sampleStory storing) _ :=
    ends_run storing (run sample alone sampleRecord) preparedStore
  have company := company_sample fun c m => .given (gives_storing c m)
  obtain ⟨l, c, last, heard, stored, found⟩ :=
    last_word_unless_uncounted sample_accepted ran company rfl
  have completed : (lastAcknowledged? ((prepare sample .null).exchange storing sampleStore ++
      sampleStory storing)).map (·.status) = some .completed := by decide +kernel
  rw [last] at completed
  exact ⟨_, l, c, ran, last, Option.some.inj completed, heard, stored, found⟩

/-- Surroundings that keep a store in memory which cannot count. -/
def uncounting : (c : Call) → Memory → Reply c × Memory
  | .store (.incrementRunCount _ _ _), m => (.error (.external "ConnectionError" "down"), m)
  | c, m => storing c m

theorem tries_uncounting (c : Call) (m : Memory) :
    Tries m ⟨c, (uncounting c m).1⟩ (uncounting c m).2 := by
  cases c with
  | store c =>
      cases c with
      | incrementRunCount => exact .refused _ _ _
      | _ => exact .given (gives_storing (.store _) m)
  | _ => exact .given (gives_storing _ m)

/-- A run whose completion is stored and cannot be counted leaves the listener with the word that it
is running. -/
theorem uncounted_run_is_untold : ∃ (r : Except Failure Execution) (c : Execution),
    (prepare sample .null).Ends ((prepare sample .null).exchange storing sampleStore)
      (.ok sampleRecord) ∧
    (run sample alone sampleRecord).Ends (sampleStory uncounting) r ∧
    sampleStore.executions.get? sampleRecord.id = none ∧
    Amid Tries (Marks sampleRecord.id) sampleStore
      ((prepare sample .null).exchange storing sampleStore ++ sampleStory uncounting)
      (sampleRemains uncounting) ∧
    (sampleRemains uncounting).executions.get? sampleRecord.id = some c ∧
    c.status = .completed ∧
    lastWord? sampleRecord.id ((prepare sample .null).exchange storing sampleStore ++
      sampleStory uncounting) = some ExecutionStatus.running.name := by
  have ran := ends_run uncounting (run sample alone sampleRecord) preparedStore
  obtain ⟨c, stored, completed⟩ := Option.map_eq_some_iff.mp
    (show ((sampleRemains uncounting).executions.get? sampleRecord.id).map (·.status) =
      some .completed by decide +kernel)
  exact ⟨_, c, sample_accepted, ran, rfl, company_sample tries_uncounting, stored, completed,
    by decide +kernel⟩

end Agreement

end TriggerFlow.Engine
