import TriggerFlow.Proofs.Server.Stages

/-!
What the past of a task says about the run of its record, and how its stage agrees with that:
whether the record was saved, and whether its run has ceased because its end is stored and counted,
because the store refused it a save, or because an evaluation raised.
-/

namespace TriggerFlow.Server

open Engine Program

variable {id : String} {k : Ticket} {t u : List Exchange} {x : Exchange} {c : Call} {r : Reply c}
  {p : Stage} {given : Option String}

section Records

def Saved (t : List Exchange) (id : String) : Prop := ∃ d, d.id = id ∧ saving d (.ok ()) ∈ t

/-- The end of the record is stored, and if it is a completion, the store was asked to count it. -/
def Concluded (t : List Exchange) (id : String) : Prop :=
  ∃ d, d.id = id ∧ d.isFinished = true ∧ saving d (.ok ()) ∈ t ∧
    (d.status = .completed → ∃ x ∈ t, isCounting x = true)

def Denied (t : List Exchange) (id : String) : Prop := ∃ d f, d.id = id ∧ saving d (.error f) ∈ t

/-- The run of the record was taken down by an evaluation that raised. -/
def Failed (t : List Exchange) (id : String) : Prop := ∃ w e u, e.id = id ∧ Raised w e u ∧ u <:+: t

theorem Saved.mono (h : Saved t id) (within : t ⊆ u) : Saved u id := by
  obtain ⟨d, same, saved⟩ := h
  exact ⟨d, same, within saved⟩

theorem Failed.mono (h : Failed t id) (within : t <:+: u) : Failed u id := by
  obtain ⟨w, e, v, same, raised, part⟩ := h
  exact ⟨w, e, v, same, raised, part.trans within⟩

/-- One of the ways in which a run ceases. -/
def Broken (t : List Exchange) (id : String) : Prop := Concluded t id ∨ Denied t id ∨ Failed t id

theorem Broken.mono (h : Broken t id) (within : t <:+: u) : Broken u id := by
  obtain ⟨d, same, finished, saved, counted⟩ | ⟨d, f, same, refused⟩ | failed := h
  · refine .inl ⟨d, same, finished, within.subset saved, fun completed => ?_⟩
    obtain ⟨x, hx, counts⟩ := counted completed
    exact ⟨x, within.subset hx, counts⟩
  · exact .inr (.inl ⟨d, f, same, within.subset refused⟩)
  · exact .inr (.inr (failed.mono within))

theorem Failed.released (h : Failed t id) : ∃ k, (⟨.release id k, ()⟩ : Exchange) ∈ t := by
  obtain ⟨w, e, u, rfl, ⟨v, s, f, @⟨k, _, _, _, _, traverses, concludes⟩, -⟩, part⟩ := h
  obtain ⟨a, b, rfl, -, -⟩ := exists_release_of_concludes concludes traverses.onlySteps
  exact ⟨k, part.subset (List.mem_append_right _ (List.mem_append_right _ List.mem_cons_self))⟩

end Records

namespace Stage

/-- The id that a task has for a record and no other task has. -/
def claim? : Stage → Option String
  | drew id | denied id | begun id | entered id | taken id => some id
  | running id _ _ | counting id _ | ending id _ | left id | gone id => some id
  | idle | handed _ => none

def saved? : Stage → Option String
  | begun id | entered id | handed id | taken id => some id
  | running id _ _ | counting id _ | ending id _ | left id | gone id => some id
  | idle | drew _ | denied _ => none

/-- The record whose run a task was to go on with from the start. -/
def resumed? : Stage → Option String
  | taken id | running id _ _ | counting id _ | ending id _ | left id | gone id => some id
  | _ => none

def isConcluding : Stage → Bool
  | counting _ _ | ending _ _ | left _ | gone _ => true
  | _ => false

/-- The run is to be released, or was. -/
def isOver : Stage → Bool
  | ending _ _ | left _ | gone _ => true
  | _ => false

theorem saved?_of_resumed? (h : p.resumed? = some id) : p.saved? = some id := by
  cases p <;> first | exact h | cases h

theorem claim?_of_resumed? (h : p.resumed? = some id) : p.claim? = some id := by
  cases p <;> first | exact h | cases h

theorem claim?_of_isOver (h : p.isOver = true) : p.claim? = p.saved? := by
  cases p <;> first | rfl | cases h

/-- What an exchange of the past says about the stage. -/
def Bears (p : Stage) : Exchange → Prop
  | ⟨.store (.saveExecution d), .ok _⟩ => p.saved? = some d.id ∧ (d.isFinished = true →
      p.isConcluding = true ∧ (d.status ≠ .completed → p.isOver = true))
  | ⟨.store (.saveExecution d), .error _⟩ =>
      p = denied d.id ∨ p.saved? = some d.id ∧ p.isOver = true
  | ⟨.store (.incrementRunCount _ _ _), _⟩ => p.isOver = true
  | ⟨.release id _, _⟩ => p.saved? = some id ∧ p.isOver = true
  | _ => True

/-- What the stage says about the past. -/
def Backed (t : List Exchange) : Stage → Prop
  | begun id | entered id | handed id => Saved t id
  | running _ _ u => u <:+ t
  | counting id _ => ∃ d, d.id = id ∧ d.isFinished = true ∧ saving d (.ok ()) ∈ t
  | ending id _ | left id | gone id => Broken t id
  | _ => True

end Stage

theorem Stage.Bears.isOver (h : p.Bears x) (counts : isCounting x = true) : p.isOver = true := by
  obtain ⟨c, r⟩ := x
  cases c with
  | store c =>
      cases c with
      | incrementRunCount => exact h
      | _ => cases counts
  | _ => cases counts

theorem Unrelated.bears (h : Unrelated c) : p.Bears ⟨c, r⟩ := by
  cases c with
  | store c =>
      cases c with
      | saveExecution | incrementRunCount => exact h.elim
      | _ => trivial
  | release => exact h.elim
  | _ => trivial

section After

variable (unrelated : Unrelated c) (r : Reply c)
include unrelated

theorem after_entered : (Stage.entered id).after ⟨c, r⟩ = .entered id := by
  cases c with
  | attach | startInBackground => exact unrelated.elim
  | _ => rfl

theorem after_running : (Stage.running id k t).after ⟨c, r⟩ = .running id k (t ++ [⟨c, r⟩]) := by
  cases c with
  | store c =>
      cases c with
      | saveExecution => exact unrelated.elim
      | _ => rfl
  | release => exact unrelated.elim
  | _ => rfl

theorem after_left : (Stage.left id).after ⟨c, r⟩ = .left id := by
  cases c with
  | leaveBackground => exact unrelated.elim
  | _ => rfl

end After

theorem Stage.Early.backed (early : p.Early) (t : List Exchange) : p.Backed t := by
  cases early <;> trivial

/-- What a stage told goes on to hold. -/
structure Stage.Grows (p q : Stage) : Prop where
  saved : ∀ {id}, p.saved? = some id → q.saved? = some id
  resumed : ∀ {id}, p.resumed? = some id → q.resumed? = some id
  concluding : p.isConcluding = true → q.isConcluding = true
  isOver : p.isOver = true → q.isOver = true

theorem Stage.Grows.refl (p : Stage) : p.Grows p :=
  ⟨fun h => h, fun h => h, fun h => h, fun h => h⟩

theorem Stage.Early.grows (early : p.Early) (q : Stage) : p.Grows q := by
  cases early <;> exact ⟨nofun, nofun, nofun, nofun⟩

theorem Allows.grows (h : Allows p c) (r : Reply c) : p.Grows (p.after ⟨c, r⟩) := by
  cases h with
  | aside free unrelated =>
      cases free with
      | early early => exact early.grows _
      | entered =>
          rw [after_entered unrelated]
          exact .refl _
      | running =>
          rw [after_running unrelated]
          exact ⟨fun h => h, fun h => h, nofun, nofun⟩
      | left =>
          rw [after_left unrelated]
          exact .refl _
  | begin => exact Stage.Early.grows (.drew _) _
  | save d k t =>
      have led := after_save d k t r
      generalize Stage.after _ _ = q at led ⊢
      cases led <;> exact ⟨fun h => h, fun h => h, nofun, nofun⟩
  | register | hand | attach => exact ⟨fun h => h, nofun, nofun, nofun⟩
  | resume | abort => exact ⟨fun h => h, fun h => h, nofun, nofun⟩
  | count => exact ⟨fun h => h, fun h => h, fun h => h, nofun⟩
  | release | leave => exact ⟨fun h => h, fun h => h, fun h => h, fun h => h⟩

theorem Allows.not_denied (h : Allows p c) : p ≠ .denied id := by
  rintro rfl
  cases h with
  | aside free => cases free with | early early => cases early

theorem Stage.Grows.bears {q : Stage} (grows : p.Grows q) (undenied : ∀ id, p ≠ .denied id)
    (h : p.Bears x) : q.Bears x := by
  obtain ⟨c, r⟩ := x
  cases c with
  | store c =>
      cases c with
      | saveExecution d =>
          match r with
          | .ok _ => exact ⟨grows.saved h.1, fun finished => ⟨grows.concluding (h.2 finished).1,
              fun incomplete => grows.isOver ((h.2 finished).2 incomplete)⟩⟩
          | .error _ =>
              obtain denied | ⟨saved, ended⟩ := h
              · exact absurd denied (undenied _)
              · exact .inr ⟨grows.saved saved, grows.isOver ended⟩
      | incrementRunCount => exact grows.isOver h
      | _ => trivial
  | release => exact ⟨grows.saved h.1, grows.isOver h.2⟩
  | _ => trivial

/-- What was just answered bears on the next stage. -/
theorem Allows.bears (h : Allows p c) (r : Reply c) : (p.after ⟨c, r⟩).Bears ⟨c, r⟩ := by
  cases h with
  | aside free unrelated => exact unrelated.bears
  | begin unfinished =>
      match r with
      | .error _ => exact .inl rfl
      | .ok _ =>
          refine ⟨rfl, fun finished => ?_⟩
          cases unfinished.symm.trans finished
  | save d k t =>
      have led := after_save d k t r
      generalize Stage.after _ _ = q at led ⊢
      cases led with
      | refused => exact .inr ⟨rfl, rfl⟩
      | completed _ completed =>
          exact ⟨rfl, fun _ => ⟨rfl, fun incomplete => absurd completed incomplete⟩⟩
      | closed => exact ⟨rfl, fun _ => ⟨rfl, fun _ => rfl⟩⟩
      | saved unfinished =>
          refine ⟨rfl, fun finished => ?_⟩
          cases unfinished.symm.trans finished
  | abort | release => exact ⟨rfl, rfl⟩
  | count => exact rfl
  | register | hand | attach | resume | leave => trivial

theorem Allows.backed (h : Allows p c) (r : Reply c) (backed : p.Backed t) :
    (p.after ⟨c, r⟩).Backed (t ++ [⟨c, r⟩]) := by
  have longer : t ⊆ t ++ [⟨c, r⟩] := List.subset_append_left _ _
  have grows : t <:+: t ++ [⟨c, r⟩] := (List.prefix_append _ _).isInfix
  have now : (⟨c, r⟩ : Exchange) ∈ t ++ [⟨c, r⟩] := List.mem_append_right _ (.head _)
  cases h with
  | aside free unrelated =>
      cases free with
      | early early => exact (early.after unrelated).backed _
      | entered =>
          rw [after_entered unrelated]
          exact Saved.mono backed longer
      | running =>
          rw [after_running unrelated]
          obtain ⟨before, rfl⟩ := backed
          exact ⟨before, (List.append_assoc ..).symm⟩
      | left =>
          rw [after_left unrelated]
          exact Broken.mono backed grows
  | begin =>
      match r with
      | .error _ => trivial
      | .ok _ => exact ⟨_, rfl, now⟩
  | register | hand => exact Saved.mono backed longer
  | attach | resume => exact List.suffix_append _ _
  | save d k u =>
      have led := after_save d k u r
      generalize Stage.after _ _ = q at led ⊢
      cases led with
      | refused f => exact .inr (.inl ⟨d, f, rfl, now⟩)
      | completed finished => exact ⟨d, rfl, finished, now⟩
      | closed finished incomplete =>
          exact .inl ⟨d, rfl, finished, now, fun completed => absurd completed incomplete⟩
      | saved =>
          obtain ⟨before, rfl⟩ := backed
          exact ⟨before, (List.append_assoc ..).symm⟩
  | @abort w e k u raised =>
      obtain ⟨before, rfl⟩ := backed
      refine .inr (.inr ⟨w, e, _, rfl, raised, before, [], ?_⟩)
      rw [List.append_nil, List.append_assoc]
      rfl
  | count =>
      obtain ⟨d, same, finished, saved⟩ := backed
      exact .inl ⟨d, same, finished, longer saved, fun _ => ⟨_, now, rfl⟩⟩
  | release | leave => exact Broken.mono backed grows

theorem Stage.Early.saved? (early : p.Early) : p.saved? = none := by
  cases early <;> rfl

/-- A record is not taken for saved without a save. -/
theorem Allows.saved_or (h : Allows p c) {r : Reply c}
    (saved : (p.after ⟨c, r⟩).saved? = some id) : p.saved? = some id ∨ Saved [⟨c, r⟩] id := by
  cases h with
  | aside free unrelated =>
      cases free with
      | early early =>
          rw [(early.after unrelated).saved?] at saved
          cases saved
      | entered =>
          rw [after_entered unrelated] at saved
          exact .inl saved
      | running =>
          rw [after_running unrelated] at saved
          exact .inl saved
      | left =>
          rw [after_left unrelated] at saved
          exact .inl saved
  | begin =>
      match r with
      | .error _ => cases saved
      | .ok _ => exact .inr ⟨_, Option.some.inj saved, .head _⟩
  | save d k t =>
      have led := after_save d k t r
      generalize Stage.after _ _ = q at led saved
      cases led <;> exact .inl saved
  | _ => exact .inl saved

def Job.resumes? : Job → Option String
  | .operation _ => none
  | .run _ e => some e.id

/-- The stage agrees with the past of a task. -/
structure Stage.Reflects (resumes : Option String) (t : List Exchange) (p : Stage) : Prop where
  bears : ∀ x ∈ t, p.Bears x
  backed : p.Backed t
  saved : ∀ {id}, p.saved? = some id → Saved t id ∨ resumes = some id
  resumed : ∀ {id}, resumes = some id → p.resumed? = some id

theorem reflects_start (j : Job) : j.stage.Reflects j.resumes? [] where
  bears := List.forall_mem_nil _
  backed := by cases j <;> trivial
  saved := by
    cases j with
    | operation o => exact nofun
    | run w e => exact .inr
  resumed := by
    cases j with
    | operation o => exact nofun
    | run w e => exact fun h => h

theorem Stage.Reflects.after {resumes : Option String} (h : p.Reflects resumes t)
    (allows : Allows p c) (r : Reply c) :
    (p.after ⟨c, r⟩).Reflects resumes (t ++ [⟨c, r⟩]) where
  bears := by
    rw [List.forall_mem_append, List.forall_mem_singleton]
    exact ⟨fun x hx => (allows.grows r).bears (fun _ => allows.not_denied) (h.bears x hx),
      allows.bears r⟩
  backed := allows.backed r h.backed
  saved same := by
    obtain before | now := allows.saved_or same
    · exact (h.saved before).imp_left (·.mono (List.subset_append_left _ _))
    · exact .inl (now.mono (List.subset_append_right _ _))
  resumed same := (allows.grows r).resumed (h.resumed same)

namespace Task

def stage (t : Task) : Stage := t.past.foldl Stage.after t.job.stage

/-- The task goes from stage to stage as it may. -/
structure Steady (t : Task) : Prop where
  fit : t.job.Fit
  continues : t.Continues
  reflects : t.stage.Reflects t.job.resumes? t.past

theorem steady_start {j : Job} (fit : j.Fit) : (start j).Steady where
  fit := fit
  continues := continues_start j
  reflects := reflects_start j

theorem Steady.regular {t : Task} (h : t.Steady) {a : Except Failure t.job.Given}
    (ends : t.rest.Ends u a) : Regular t.job.Over t.stage u :=
  (Job.regular h.fit (h.continues u a ends)).rest

theorem Steady.allows {t : Task} (h : t.Steady) (next : t.next? = some c) : Allows t.stage c := by
  obtain ⟨job, past, rest, waiting⟩ := t
  cases rest with
  | done a => cases next
  | call c next' =>
      cases next
      obtain ⟨_, a, ends⟩ := exists_ends (.call c next')
      obtain ⟨r, u, -, rfl⟩ := ends_call.mp ends
      exact (h.regular ends).1

/-- A task ends only where its job may. -/
theorem Steady.over {t : Task} (h : t.Steady) (done : t.next? = none) : t.job.Over t.stage := by
  obtain ⟨job, past, rest, waiting⟩ := t
  cases rest with
  | call => cases done
  | done a => exact h.regular (.done a)

theorem stage_answered {job : Job} {past : List Exchange} {rest : Work (Except Failure job.Given)} :
    stage ⟨job, past ++ [x], rest, none⟩ = (past.foldl Stage.after job.stage).after x := by
  rw [stage, List.foldl_append]
  rfl

theorem Steady.answered {job : Job} {past : List Exchange}
    {next : Reply c → Work (Except Failure job.Given)} {waiting : Option Wait}
    (h : Steady ⟨job, past, .call c next, waiting⟩) (r : Reply c) :
    Steady ⟨job, past ++ [⟨c, r⟩], next r, none⟩ where
  fit := h.fit
  continues := continues_answered h.continues
  reflects := by
    rw [stage_answered]
    exact h.reflects.after (h.allows rfl) r

def leaving (t : Task) : List Exchange :=
  match t.next? with
  | some (.release id k) => [⟨.release id k, ()⟩]
  | _ => []

def Begun (t : Task) (id : String) : Prop := Saved t.past id

def Ceased (t : Task) (id : String) : Prop := Broken (t.past ++ t.leaving) id

variable {t : Task}

theorem mem_leaving (h : x ∈ t.leaving) :
    ∃ id k, t.next? = some (.release id k) ∧ x = ⟨.release id k, ()⟩ := by
  unfold leaving at h
  split at h
  · next id k next => exact ⟨id, k, next, List.mem_singleton.mp h⟩
  · cases h

theorem leaving_of_next (next : t.next? = some (.release id k)) :
    t.leaving = [⟨.release id k, ()⟩] := by
  rw [leaving, next]

theorem Steady.saved? (h : t.Steady) (begun : t.Begun id) : t.stage.saved? = some id := by
  obtain ⟨d, rfl, saved⟩ := begun
  exact (h.reflects.bears _ saved).1

theorem Steady.begun (h : t.Steady) (saved : t.stage.saved? = some id) :
    t.Begun id ∨ t.job.resumes? = some id := h.reflects.saved saved

/-- What can be seen of a task whose run has ceased. -/
theorem Steady.of_ceased (h : t.Steady) (ceased : t.Ceased id) :
    t.stage = .denied id ∨ (t.stage.saved? = some id ∧ t.stage.isOver = true) ∨
      ∃ k, t.next? = some (.release id k) := by
  have past {x : Exchange} (hx : x ∈ t.past ++ t.leaving)
      (other : ∀ id k u, x ≠ ⟨.release id k, u⟩) : x ∈ t.past := by
    obtain hx | hx := List.mem_append.mp hx
    · exact hx
    · obtain ⟨id, k, -, rfl⟩ := mem_leaving hx
      exact absurd rfl (other id k ())
  obtain ⟨d, rfl, finished, saved, counted⟩ | ⟨d, f, rfl, refused⟩ | failed := ceased
  · obtain ⟨same, ended⟩ := h.reflects.bears _ (past saved nofun)
    refine .inr (.inl ⟨same, ?_⟩)
    by_cases completed : d.status = .completed
    · obtain ⟨x, hx, counts⟩ := counted completed
      refine (h.reflects.bears x (past hx ?_)).isOver counts
      rintro id k u rfl
      cases counts
    · exact (ended finished).2 completed
  · obtain denied | ended := h.reflects.bears _ (past refused nofun)
    · exact .inl denied
    · exact .inr (.inl ended)
  · obtain ⟨k, released⟩ := failed.released
    obtain released | leaving := List.mem_append.mp released
    · exact .inr (.inl (h.reflects.bears _ released))
    · obtain ⟨id', k', next, same⟩ := mem_leaving leaving
      cases same
      exact .inr (.inr ⟨k, next⟩)

theorem Steady.ceased (h : t.Steady) (saved : t.stage.saved? = some id)
    (ended : t.stage.isOver = true) : t.Ceased id := by
  have backed := h.reflects.backed
  have broken : Broken t.past id := by
    generalize t.stage = p at saved ended backed
    cases p with
    | ending | left | gone =>
        cases saved
        exact backed
    | _ => cases ended
  exact broken.mono (List.prefix_append _ _).isInfix

end Task

theorem Allows.of_release (h : Allows p (.release id k)) :
    p = .ending id k ∨ ∃ w e u, e.id = id ∧ p = .running id k u ∧
      Raised w e (u ++ [⟨.release id k, ()⟩]) := by
  cases h with
  | aside _ unrelated => exact unrelated.elim
  | abort raised => exact .inr ⟨_, _, _, rfl, rfl, raised⟩
  | release => exact .inl rfl

theorem Allows.claim?_of_release (h : Allows p (.release id k)) : p.claim? = some id := by
  obtain rfl | ⟨w, e, u, rfl, rfl, -⟩ := h.of_release <;> rfl

theorem Allows.of_register (h : Allows p (.register id)) : p = .begun id := by
  cases h with
  | aside _ unrelated => exact unrelated.elim
  | register => rfl

namespace Task

variable {t : Task}

/-- A run is released when it has ceased, and not before. -/
theorem Steady.ceased_of_release (h : t.Steady) (next : t.next? = some (.release id k)) :
    t.Ceased id := by
  obtain ending | ⟨w, e, u, rfl, running, raised⟩ := (h.allows next).of_release
  · exact h.ceased (by rw [ending]; rfl) (by rw [ending]; rfl)
  · have backed := h.reflects.backed
    rw [running] at backed
    obtain ⟨before, whole⟩ := backed
    refine .inr (.inr ⟨w, e, _, rfl, raised, before, [], ?_⟩)
    rw [leaving_of_next next, List.append_nil, ← whole, List.append_assoc]

end Task
end TriggerFlow.Server
