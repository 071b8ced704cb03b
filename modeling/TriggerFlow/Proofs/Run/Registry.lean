import TriggerFlow.Engine.Runs
import TriggerFlow.Proofs.Company
import TriggerFlow.Proofs.Run.Calls

/-!
The registry between the calls of a run. A run holds the ticket it was registered under until it is
released, whatever others do with theirs; a cancel request marks the ticket, and no mark is ever
taken back.
-/

namespace TriggerFlow.Engine

open Program

namespace Runs

variable {r r' : Runs} {id other : String} {k : Ticket} {x : Exchange}

theorem ticket?_register :
    (r.register other).2.ticket? id = if id = other then some r.marks.length else r.ticket? id :=
  Keyed.get?_put ..

theorem ticket?_release :
    (r.release other k).ticket? id = if id = other then none else r.ticket? id :=
  Keyed.get?_erase ..

theorem attach_of_some (h : r.ticket? id = some k) : r.attach id = (k, r) := by
  simp only [attach, h]

theorem attach_of_none (h : r.ticket? id = none) : r.attach id = r.register id := by
  simp only [attach, h]

theorem requestCancel_of_some (h : r.ticket? id = some k) :
    r.requestCancel id =
      (true, { r with marks := r.marks.modify k fun m => { m with cancelled := true } }) := by
  simp only [requestCancel, h]

theorem requestCancel_of_none (h : r.ticket? id = none) : r.requestCancel id = (false, r) := by
  simp only [requestCancel, h]

theorem ticket?_requestCancel : (r.requestCancel other).2.ticket? id = r.ticket? id := by
  cases h : r.ticket? other with
  | none => rw [requestCancel_of_none h]
  | some k =>
      rw [requestCancel_of_some h]
      rfl

theorem exists_ticket_of_requestCancel (h : r.requestCancel id = (true, r')) :
    ∃ k, r.ticket? id = some k := by
  cases ht : r.ticket? id with
  | none =>
      rw [requestCancel_of_none ht] at h
      cases h
  | some k => exact ⟨k, rfl⟩

/-- An execution holds a ticket that was given out. -/
structure Holds (r : Runs) (id : String) (k : Ticket) : Prop where
  ticket : r.ticket? id = some k
  given : k < r.marks.length

theorem holds_register : (r.register id).2.Holds id r.marks.length where
  ticket := by rw [ticket?_register, if_pos rfl]
  given := by simp [register]

theorem Holds.register (h : r.Holds id k) (apart : id ≠ other) :
    (r.register other).2.Holds id k where
  ticket := by rw [ticket?_register, if_neg apart, h.ticket]
  given := by
    rw [Runs.register, List.length_append]
    exact Nat.lt_add_right _ h.given

theorem Holds.release (h : r.Holds id k) (apart : id ≠ other) {j : Ticket} :
    (r.release other j).Holds id k where
  ticket := by rw [ticket?_release, if_neg apart, h.ticket]
  given := by simpa [Runs.release] using h.given

theorem Holds.requestCancel (h : r.Holds id k) : (r.requestCancel other).2.Holds id k where
  ticket := by rw [ticket?_requestCancel, h.ticket]
  given := by
    unfold Runs.requestCancel
    split
    · simpa using h.given
    · exact h.given

theorem isCancelled_requestCancel (h : r.Holds id k) :
    (r.requestCancel id).2.isCancelled k = true := by
  have given := h.given
  simp [requestCancel_of_some h.ticket, isCancelled, given]

/-- What was put down on the mark of a ticket. -/
def Marked (p : Mark → Bool) (r : Runs) (k : Ticket) : Prop := r.marks[k]?.any p = true

/-- What is never taken back from a mark. -/
structure Lasting (p : Mark → Bool) : Prop where
  cancel : ∀ m : Mark, p m = true → p { m with cancelled := true } = true
  finish : ∀ m : Mark, p m = true → p { m with finished := true } = true

theorem lasting_cancelled : Lasting (·.cancelled) := ⟨fun _ _ => rfl, fun _ h => h⟩

theorem lasting_finished : Lasting (·.finished) := ⟨fun _ h => h, fun _ _ => rfl⟩

variable {p : Mark → Bool}

theorem marked_append (h : Marked p r k) (marks : List Mark) (active : Keyed Ticket) :
    Marked p ⟨active, r.marks ++ marks⟩ k := by
  unfold Marked at h ⊢
  cases hk : r.marks[k]? with
  | none => simp [hk] at h
  | some m =>
      rw [List.getElem?_append_left (List.getElem?_eq_some_iff.mp hk).1, hk]
      rwa [hk] at h

theorem marked_modify {f : Mark → Mark} (keeps : ∀ m : Mark, p m = true → p (f m) = true)
    (h : Marked p r k) (j : Ticket) (active : Keyed Ticket) :
    Marked p ⟨active, r.marks.modify j f⟩ k := by
  unfold Marked at h ⊢
  rw [List.getElem?_modify]
  cases hk : r.marks[k]? with
  | none => simp [hk] at h
  | some m =>
      have marked : p m = true := by simpa [hk] using h
      by_cases hj : j = k
      · simpa [hj] using keeps m marked
      · simpa [hj] using marked

theorem marked_release (given : k < r.marks.length) : Marked (·.finished) (r.release id k) k := by
  simp [Marked, release, given]

theorem isFinished_of_marked (h : Marked (·.finished) r k) : r.isFinished k = true := by
  unfold Marked at h
  unfold isFinished
  cases hk : r.marks[k]? with
  | none => rfl
  | some m =>
      rw [hk] at h
      exact h

theorem isFinished_requestCancel : (r.requestCancel other).2.isFinished k = r.isFinished k := by
  cases h : r.ticket? other with
  | none => rw [requestCancel_of_none h]
  | some j =>
      rw [requestCancel_of_some h, isFinished, isFinished, List.getElem?_modify]
      by_cases same : j = k <;> cases r.marks[k]? <;> simp [same]

/-- Only the ticket that is given out becomes that of a live run. -/
theorem isFinished_register (other_ticket : k ≠ r.marks.length) :
    (r.register id).2.isFinished k = r.isFinished k := by
  rw [isFinished, isFinished, register]
  obtain below | above := Nat.lt_or_gt_of_ne other_ticket
  · rw [List.getElem?_append_left below]
  · have beyond : (r.marks ++ [(⟨false, false⟩ : Mark)]).length ≤ k := by
      rw [List.length_append]
      exact above
    rw [List.getElem?_eq_none beyond, List.getElem?_eq_none (Nat.le_of_lt above)]

theorem isFinished_release {j : Ticket} (h : r.isFinished k = true ∨ j = k) :
    (r.release id j).isFinished k = true := by
  rw [isFinished] at h
  rw [isFinished, release, List.getElem?_modify]
  generalize r.marks[k]? = mark at h ⊢
  cases mark with
  | none => rfl
  | some m =>
      by_cases same : j = k
      · simp [same]
      · have finished : m.finished = true := by simpa [same] using h
        simpa [same] using finished

/-- How the registry answers the call of an exchange; to any other call it is not asked. -/
def Answers (r : Runs) : Exchange → Runs → Prop
  | ⟨.register id, k⟩, r' => r.register id = (k, r')
  | ⟨.attach id, k⟩, r' => r.attach id = (k, r')
  | ⟨.release id k, _⟩, r' => r' = r.release id k
  | ⟨.isCancelled k, marked⟩, r' => marked = r.isCancelled k ∧ r' = r
  | ⟨.requestCancel id, asked⟩, r' => r.requestCancel id = (asked, r')
  | ⟨.isRunning id, running⟩, r' => running = (r.ticket? id).isSome ∧ r' = r
  | _, r' => r' = r

/-- What others do with the registry while an execution of this id runs: they ask anyone to stop,
and register and release executions of their own. -/
inductive Meddles (id : String) : Runs → Runs → Prop
  | cancel (r : Runs) (other : String) : Meddles id r (r.requestCancel other).2
  | register (r : Runs) {other : String} (apart : id ≠ other) : Meddles id r (r.register other).2
  | release (r : Runs) {other : String} (apart : id ≠ other) (k : Ticket) :
      Meddles id r (r.release other k)

/-- The registry is shared by the execution of this id, which has the exchange, and others. -/
abbrev Shared (id : String) : Runs → List Exchange → Runs → Prop :=
  Amid Answers (Meddles id)

theorem Meddles.holds (h : Meddles id r r') (holds : r.Holds id k) : r'.Holds id k := by
  cases h with
  | cancel => exact holds.requestCancel
  | register apart => exact holds.register apart
  | release apart => exact holds.release apart

theorem Meddles.ticket?_eq (h : Meddles id r r') : r'.ticket? id = r.ticket? id := by
  cases h with
  | cancel => exact ticket?_requestCancel
  | register apart => rw [ticket?_register, if_neg apart]
  | release apart => rw [ticket?_release, if_neg apart]

theorem Marked.register (h : Marked p r k) : Marked p (r.register other).2 k := marked_append h _ _

theorem Marked.release (h : Marked p r k) (lasting : Lasting p) {j : Ticket} :
    Marked p (r.release other j) k :=
  marked_modify lasting.finish h j _

theorem Marked.requestCancel (h : Marked p r k) (lasting : Lasting p) :
    Marked p (r.requestCancel other).2 k := by
  cases ht : r.ticket? other with
  | none =>
      rw [requestCancel_of_none ht]
      exact h
  | some j =>
      rw [requestCancel_of_some ht]
      exact marked_modify lasting.cancel h _ _

theorem Meddles.marked (h : Meddles id r r') (lasting : Lasting p) (marked : Marked p r k) :
    Marked p r' k := by
  cases h with
  | cancel => exact marked.requestCancel lasting
  | register => exact marked.register
  | release => exact marked.release lasting

theorem Answers.marked (h : Answers r x r') (lasting : Lasting p) (marked : Marked p r k) :
    Marked p r' k := by
  obtain ⟨c, reply⟩ := x
  cases c with
  | register id =>
      obtain rfl : (r.register id).2 = r' := congrArg Prod.snd h
      exact marked.register
  | attach id =>
      obtain rfl : (r.attach id).2 = r' := congrArg Prod.snd h
      unfold Runs.attach
      split
      · exact marked
      · exact marked.register
  | release id j =>
      obtain rfl : r' = r.release id j := h
      exact marked.release lasting
  | isCancelled j | isRunning id =>
      obtain rfl : r' = r := h.2
      exact marked
  | requestCancel id =>
      obtain rfl : (r.requestCancel id).2 = r' := congrArg Prod.snd h
      exact marked.requestCancel lasting
  | _ =>
      obtain rfl : r' = r := h
      exact marked

/-- The registry is looked at but not changed, cancel requests apart. -/
def IsLook : Exchange → Prop
  | ⟨.register _, _⟩ | ⟨.release _ _, _⟩ | ⟨.attach _, _⟩ => False
  | _ => True

theorem Answers.ticket?_eq (h : Answers r x r') (look : IsLook x) :
    r'.ticket? id = r.ticket? id := by
  obtain ⟨c, reply⟩ := x
  cases c with
  | register | attach | release => exact look.elim
  | isCancelled j | isRunning id =>
      obtain rfl : r' = r := h.2
      rfl
  | requestCancel id =>
      obtain rfl : (r.requestCancel id).2 = r' := congrArg Prod.snd h
      exact ticket?_requestCancel
  | _ =>
      obtain rfl : r' = r := h
      rfl

/-- No run is put into the registry as a new one, and none is taken out. -/
def Stays : Exchange → Prop
  | ⟨.register _, _⟩ | ⟨.release _ _, _⟩ => False
  | _ => True

theorem Holds.attach (h : r.Holds id k) : (r.attach other).2.Holds id k := by
  cases ht : r.ticket? other with
  | some j =>
      rw [attach_of_some ht]
      exact h
  | none =>
      rw [attach_of_none ht]
      refine h.register ?_
      rintro rfl
      rw [h.ticket] at ht
      cases ht

theorem Answers.holds (h : Answers r x r') (stays : Stays x) (holds : r.Holds id k) :
    r'.Holds id k := by
  obtain ⟨c, reply⟩ := x
  cases c with
  | register | release => exact stays.elim
  | attach other =>
      obtain rfl : (r.attach other).2 = r' := congrArg Prod.snd h
      exact holds.attach
  | isCancelled j | isRunning other =>
      obtain rfl : r' = r := h.2
      exact holds
  | requestCancel other =>
      obtain rfl : (r.requestCancel other).2 = r' := congrArg Prod.snd h
      exact holds.requestCancel
  | _ =>
      obtain rfl : r' = r := h
      exact holds

namespace Shared

variable {t : List Exchange}

theorem ticket?_eq (h : Shared id r t r') (looks : ∀ x ∈ t, IsLook x) :
    r'.ticket? id = r.ticket? id :=
  Amid.preserves (P := fun s => s.ticket? id = r.ticket? id) h rfl
    (fun meddles same => meddles.ticket?_eq.trans same)
    fun hx answers same => (answers.ticket?_eq (looks _ hx)).trans same

theorem holds (h : Shared id r t r') (stays : ∀ x ∈ t, Stays x) (holds : r.Holds id k) :
    r'.Holds id k :=
  Amid.preserves (P := (·.Holds id k)) h holds Meddles.holds
    fun hx answers => answers.holds (stays _ hx)

/-- A mark that was made stays, whatever is done besides. -/
theorem marked {p : Mark → Bool} (h : Shared id r t r') (lasting : Lasting p)
    (marked : Marked p r k) : Marked p r' k :=
  Amid.preserves (P := (Marked p · k)) h marked (fun meddles => meddles.marked lasting)
    fun _ answers => answers.marked lasting

/-- Whoever looks for a cancel request after there was one sees it. -/
theorem polled (h : Shared id r t r') (marked : r.isCancelled k = true) : polling k false ∉ t := by
  intro missed
  obtain ⟨before, after, rfl⟩ := List.append_of_mem missed
  obtain ⟨r₁, first, rest⟩ := Amid.of_append h
  obtain ⟨r₂, r₃, idle, ⟨answer, -⟩, -⟩ := Amid.of_cons rest
  have seen : r₂.isCancelled k = true :=
    Shared.marked idle lasting_cancelled (Shared.marked first lasting_cancelled marked)
  rw [← answer] at seen
  cases seen

/-- A new run holds the ticket it was registered under. -/
theorem registered {t₁ : List Exchange} (h : Shared id r (t₁ ++ ⟨.register id, k⟩ :: t) r')
    (stays : ∀ x ∈ t, Stays x) : r'.Holds id k := by
  obtain ⟨r₁, -, rest⟩ := Amid.of_append h
  obtain ⟨r₂, r₃, -, (answer : r₂.register id = (k, r₃)), after⟩ := Amid.of_cons rest
  have holds : (r₂.register id).2.Holds id r₂.marks.length := holds_register
  rw [answer] at holds
  obtain rfl : r₂.marks.length = k := congrArg Prod.fst answer
  exact Shared.holds after stays holds

/-- The run goes on under its ticket. -/
theorem attached {t₁ : List Exchange} {j : Ticket}
    (h : Shared id r (t₁ ++ ⟨.attach id, j⟩ :: t) r') (stays : ∀ x ∈ t₁, Stays x)
    (holds : r.Holds id k) : j = k := by
  obtain ⟨r₁, first, rest⟩ := Amid.of_append h
  obtain ⟨r₂, r₃, idle, (answer : r₂.attach id = (j, r₃)), -⟩ := Amid.of_cons rest
  have still := Shared.holds idle (List.forall_mem_nil _) (Shared.holds first stays holds)
  rw [attach_of_some still.ticket] at answer
  exact (congrArg Prod.fst answer).symm

/-- A request that reaches the run is seen at every look from then on. -/
theorem heard {s : Runs} (asked : r.requestCancel id = (true, r')) (holds : r.Holds id k)
    (after : Shared id r' t s) : polling k false ∉ t := by
  have marked := isCancelled_requestCancel holds
  rw [asked] at marked
  exact Shared.polled after marked

/-- A run that is out of the registry is not reached. -/
theorem unheard {s : Runs} (none : r.ticket? id = none) (h : Shared id r t r')
    (looks : ∀ x ∈ t, IsLook x) : r'.requestCancel id ≠ (true, s) := by
  intro asked
  obtain ⟨k, ticket⟩ := exists_ticket_of_requestCancel asked
  rw [Shared.ticket?_eq h looks, none] at ticket
  cases ticket

theorem released {t₁ : List Exchange} {s : Runs} {u : Unit}
    (h : Shared id r (t₁ ++ [⟨.release id k, u⟩]) r') : r'.requestCancel id ≠ (true, s) := by
  obtain ⟨r₁, -, rest⟩ := Amid.of_append h
  obtain ⟨r₂, r₃, -, (answer : r₃ = r₂.release id k), after⟩ := Amid.of_cons rest
  refine Shared.unheard ?_ after (List.forall_mem_nil _)
  rw [answer, ticket?_release, if_pos rfl]

/-- A run that was released under the ticket it held is out of the registry, and those who wait for
its end are let go. -/
theorem gone {t₁ : List Exchange} {u : Unit}
    (h : Shared id r (t₁ ++ ⟨.release id k, u⟩ :: t) r') (holds : r.Holds id k)
    (stays : ∀ x ∈ t₁, Stays x) (looks : ∀ x ∈ t, IsLook x) :
    r'.ticket? id = none ∧ r'.isFinished k = true := by
  obtain ⟨r₁, first, rest⟩ := Amid.of_append h
  obtain ⟨r₂, r₃, idle, (answer : r₃ = r₂.release id k), after⟩ := Amid.of_cons rest
  have still := Shared.holds idle (List.forall_mem_nil _) (Shared.holds first stays holds)
  subst answer
  constructor
  · rw [Shared.ticket?_eq after looks, ticket?_release, if_pos rfl]
  · exact isFinished_of_marked (Shared.marked after lasting_finished (marked_release still.given))

end Shared
end Runs
end TriggerFlow.Engine
