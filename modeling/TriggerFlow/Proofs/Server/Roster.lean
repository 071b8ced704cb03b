import TriggerFlow.Proofs.Server.Steady

/-!
What the registry and the table of background tasks hold is told by the tasks. No two tasks claim
the same id; where a task claims one, its stage says whether there is a ticket for it and whether it
stands in the table, and for an id that nobody claims there is neither. Every ticket that was given
out is that of a registered run, or is marked as finished.
-/

namespace TriggerFlow.Server

open Engine Program

variable {id fresh : String} {k : Ticket} {c : Call} {r : Reply c} {p q : Stage} {w w' : World}
  {o : Chance} {drawn : List String} {t t' : Task} {ts ts' others : List Task}

namespace Stage

def isRegistered : Stage → Bool
  | entered _ | taken _ | running _ _ _ | counting _ _ | ending _ _ => true
  | _ => false

def held? : Stage → Option Ticket
  | running _ k _ | counting _ k | ending _ k => some k
  | _ => none

theorem Early.isRegistered (early : p.Early) : p.isRegistered = false := by
  cases early <;> rfl

theorem Early.resumed? (early : p.Early) : p.resumed? = none := by
  cases early <;> rfl

def isGone : Stage → Bool
  | gone _ => true
  | _ => false

/-- Two stages tell the same of the tables. -/
structure Alike (p q : Stage) : Prop where
  claim : q.claim? = p.claim?
  registered : q.isRegistered = p.isRegistered
  held : q.held? = p.held?
  gone : q.isGone = p.isGone

theorem Alike.refl (p : Stage) : p.Alike p := ⟨rfl, rfl, rfl, rfl⟩

end Stage

def LeavesTables : Call → Prop
  | .register _ | .attach _ | .release _ _ | .startInBackground _ _ | .leaveBackground _ => False
  | _ => True

theorem Unrelated.leavesTables (h : Unrelated c) : LeavesTables c := by
  cases c with
  | register | attach | release | startInBackground | leaveBackground => exact h.elim
  | _ => trivial

theorem Stage.Early.alike_or (early : p.Early) (unrelated : Unrelated c) :
    p.Alike (p.after ⟨c, r⟩) ∨
      ∃ fresh, (⟨c, r⟩ : Exchange) = ⟨.freshId, fresh⟩ ∧ p.after ⟨c, r⟩ = .drew fresh := by
  cases early <;> cases c with
  | freshId => exact .inr ⟨r, rfl, rfl⟩
  | store c =>
      cases c with
      | saveExecution => exact unrelated.elim
      | _ => exact .inl (.refl _)
  | _ => exact .inl (.refl _)

/-- By a quiet call a task comes to a stage that tells the same, or draws an id. -/
theorem Allows.alike_or (h : Allows p c) (quiet : LeavesTables c) :
    p.Alike (p.after ⟨c, r⟩) ∨
      p.Early ∧ ∃ fresh, (⟨c, r⟩ : Exchange) = ⟨.freshId, fresh⟩ ∧
        p.after ⟨c, r⟩ = .drew fresh := by
  cases h with
  | aside free unrelated =>
      cases free with
      | early early => exact (early.alike_or unrelated).imp_right fun draws => ⟨early, draws⟩
      | entered =>
          rw [after_entered unrelated]
          exact .inl (.refl _)
      | running =>
          rw [after_running unrelated]
          exact .inl ⟨rfl, rfl, rfl, rfl⟩
      | left =>
          rw [after_left unrelated]
          exact .inl (.refl _)
  | begin => match r with | .ok _ | .error _ => exact .inl ⟨rfl, rfl, rfl, rfl⟩
  | save d k t =>
      have led := after_save d k t r
      generalize Stage.after _ _ = q at led ⊢
      cases led <;> exact .inl ⟨rfl, rfl, rfl, rfl⟩
  | count => exact .inl ⟨rfl, rfl, rfl, rfl⟩
  | register | hand | attach | resume | abort | release | leave => exact quiet.elim

/-- Tables that differ in nothing but requests to cancel, and tickets that were marked. -/
structure World.Agrees (w w' : World) : Prop where
  ticket : ∀ id, w'.ticket? id = w.ticket? id
  finished : ∀ k, w.runs.isFinished k = true → w'.runs.isFinished k = true
  background : w'.background = w.background

theorem World.Agrees.refl (w : World) : w.Agrees w := ⟨fun _ => rfl, fun _ h => h, rfl⟩

theorem LeavesTables.agrees (quiet : LeavesTables c) (w : World) (o : Chance) :
    w.Agrees (w.perform o c).2 := by
  cases c with
  | store c =>
      unfold World.perform
      dsimp only
      split
      · exact .refl w
      · exact ⟨fun _ => rfl, fun _ h => h, rfl⟩
  | requestCancel id =>
      exact ⟨fun _ => Runs.ticket?_requestCancel, fun _ h => Runs.isFinished_requestCancel.trans h,
        rfl⟩
  | register | attach | release | startInBackground | leaveBackground => exact quiet.elim
  | _ => exact .refl w

namespace Task

theorem Steady.resumes? (h : t.Steady) (unresumed : t.stage.resumed? = none) :
    t.job.resumes? = none := by
  rw [Option.eq_none_iff_forall_ne_some]
  intro id same
  cases unresumed.symm.trans (h.reflects.resumed same)

/-- The task of a background run that is not done. -/
def isHosted (t : Task) : Bool := t.job.resumes?.isSome && !t.stage.isGone

/-- The tables hold of an id what the task says that claims it. -/
structure Listed (t : Task) (w : World) (id : String) : Prop where
  ticket : (∃ k, w.ticket? id = some k) ↔ t.stage.isRegistered = true
  held : ∀ {k}, t.stage.held? = some k → w.ticket? id = some k
  background : id ∈ w.background ↔ t.isHosted = true

def Apart (t t' : Task) : Prop := ∀ id, t.stage.claim? = some id → t'.stage.claim? ≠ some id

theorem Apart.symm (h : t.Apart t') : t'.Apart t := fun id claim' claim => h id claim claim'

instance : Std.Symm Apart := ⟨fun _ _ apart => apart.symm⟩

theorem Listed.alike (h : t.Listed w id) (agrees : w.Agrees w') (job : t'.job = t.job)
    (alike : t.stage.Alike t'.stage) : t'.Listed w' id where
  ticket := by rw [agrees.ticket, alike.registered, h.ticket]
  held held := by
    rw [agrees.ticket]
    exact h.held (alike.held.symm.trans held)
  background := by rw [agrees.background, h.background, isHosted, isHosted, job, alike.gone]

end Task

structure Roster (drawn : List String) (w : World) (ts : List Task) : Prop where
  apart : ts.Pairwise Task.Apart
  claimed : ∀ t ∈ ts, ∀ id, t.stage.claim? = some id → id ∈ drawn
  listed : ∀ t ∈ ts, ∀ id, t.stage.claim? = some id → t.Listed w id
  vacant : ∀ id, (∀ t ∈ ts, t.stage.claim? ≠ some id) → w.ticket? id = none ∧ id ∉ w.background
  finished : ∀ k, w.runs.isFinished k = true ∨ ∃ id, w.ticket? id = some k
  distinct : w.background.Nodup

namespace Roster

theorem perm (h : Roster drawn w ts) (same : ts.Perm ts') : Roster drawn w ts' where
  apart := (same.pairwise_iff fun apart => apart.symm).mp h.apart
  claimed t ht := h.claimed t (same.mem_iff.mpr ht)
  listed t ht := h.listed t (same.mem_iff.mpr ht)
  vacant id unclaimed := h.vacant id fun t ht => unclaimed t (same.mem_iff.mp ht)
  finished := h.finished
  distinct := h.distinct

/-- One task makes way for others, which concerns the id that it claims and a new one. -/
theorem replace (h : Roster drawn w (t :: others)) (new : fresh ∉ drawn)
    (apart : ts'.Pairwise Task.Apart)
    (claim : ∀ q ∈ ts', ∀ id, q.stage.claim? = some id → t.stage.claim? = some id ∨ id = fresh)
    (listed : ∀ q ∈ ts', ∀ id, q.stage.claim? = some id → q.Listed w' id)
    (freed : ∀ id, t.stage.claim? = some id → (∀ q ∈ ts', q.stage.claim? ≠ some id) →
      w'.ticket? id = none ∧ id ∉ w'.background)
    (elsewhere : ∀ id, t.stage.claim? ≠ some id →
      w'.ticket? id = w.ticket? id ∧ (id ∈ w'.background ↔ id ∈ w.background))
    (finished : ∀ k, w'.runs.isFinished k = true ∨ ∃ id, w'.ticket? id = some k)
    (distinct : w'.background.Nodup) : Roster (fresh :: drawn) w' (ts' ++ others) where
  apart := by
    obtain ⟨own, rest⟩ := List.pairwise_cons.mp h.apart
    refine List.pairwise_append.mpr ⟨apart, rest, fun q hq u hu id claims claims' => ?_⟩
    obtain before | rfl := claim q hq id claims
    · exact own u hu id before claims'
    · exact new (h.claimed u (.tail _ hu) _ claims')
  claimed := by
    rw [List.forall_mem_append]
    refine ⟨fun q hq id claims => ?_, fun u hu id claims =>
      .tail _ (h.claimed u (.tail _ hu) id claims)⟩
    obtain before | rfl := claim q hq id claims
    · exact .tail _ (h.claimed t (.head _) id before)
    · exact .head _
  listed := by
    rw [List.forall_mem_append]
    refine ⟨listed, fun u hu id claims => ?_⟩
    obtain ⟨own, -⟩ := List.pairwise_cons.mp h.apart
    obtain ⟨ticket, background⟩ := elsewhere id fun claims' => own u hu id claims' claims
    obtain ⟨registered, held, hosted⟩ := h.listed u (.tail _ hu) id claims
    exact ⟨by rw [ticket, registered], fun same => ticket ▸ held same, background.trans hosted⟩
  vacant := by
    intro id unclaimed
    rw [List.forall_mem_append] at unclaimed
    by_cases own : t.stage.claim? = some id
    · exact freed id own unclaimed.1
    · obtain ⟨ticket, background⟩ := elsewhere id own
      rw [ticket, background]
      exact h.vacant id (List.forall_mem_cons.mpr ⟨own, unclaimed.2⟩)
  finished := finished
  distinct := distinct

theorem goes (h : Roster drawn w (t :: others)) (new : fresh ∉ drawn)
    (claim : t'.stage.claim? = t.stage.claim?)
    (listed : ∀ id, t.stage.claim? = some id → t'.Listed w' id)
    (elsewhere : ∀ id, t.stage.claim? ≠ some id →
      w'.ticket? id = w.ticket? id ∧ (id ∈ w'.background ↔ id ∈ w.background))
    (finished : ∀ k, w'.runs.isFinished k = true ∨ ∃ id, w'.ticket? id = some k)
    (distinct : w'.background.Nodup) : Roster (fresh :: drawn) w' (t' :: others) := by
  show Roster _ _ ([t'] ++ others)
  refine h.replace new (List.pairwise_singleton _ _) ?_ ?_ ?_ elsewhere finished distinct
  · rw [List.forall_mem_singleton, claim]
    exact fun id claims => .inl claims
  · rw [List.forall_mem_singleton, claim]
    exact listed
  · intro id claims freed
    rw [List.forall_mem_singleton, claim] at freed
    exact absurd claims freed

theorem goes_at (h : Roster drawn w (t :: others)) (new : fresh ∉ drawn)
    (before : t.stage.claim? = some id) (after : t'.stage.claim? = some id)
    (listed : t'.Listed w' id)
    (elsewhere : ∀ id', id' ≠ id →
      w'.ticket? id' = w.ticket? id' ∧ (id' ∈ w'.background ↔ id' ∈ w.background))
    (finished : ∀ k, w'.runs.isFinished k = true ∨ ∃ id, w'.ticket? id = some k)
    (distinct : w'.background.Nodup) : Roster (fresh :: drawn) w' (t' :: others) := by
  refine h.goes new (after.trans before.symm) ?_ ?_ finished distinct
  · intro id' claims
    obtain rfl : id' = id := Option.some.inj (claims.symm.trans before)
    exact listed
  · intro id' unclaimed
    refine elsewhere id' ?_
    rintro rfl
    exact unclaimed before

section Calls

variable (h : Roster drawn w (t :: others)) (new : fresh ∉ drawn)
include h new

/-- One task goes on, and the tables stay. -/
theorem still (job : t'.job = t.job) (agrees : w.Agrees w') (alike : t.stage.Alike t'.stage) :
    Roster (fresh :: drawn) w' (t' :: others) := by
  refine h.goes new alike.claim ?_ ?_ ?_ ?_
  · exact fun id claims => (h.listed t (.head _) id claims).alike agrees job alike
  · exact fun id _ => ⟨agrees.ticket id, by rw [agrees.background]⟩
  · exact fun k => (h.finished k).imp (agrees.finished k)
      fun ⟨id, ticket⟩ => ⟨id, (agrees.ticket id).trans ticket⟩
  · rw [agrees.background]
    exact h.distinct

theorem draw (job : t'.job = t.job) (resumes : t.job.resumes? = none) (early : t.stage.Early)
    (drew : t'.stage = .drew fresh) : Roster (fresh :: drawn) w (t' :: others) := by
  have unclaimed : ∀ q ∈ t :: others, q.stage.claim? ≠ some fresh := fun q hq claims =>
    new (h.claimed q hq fresh claims)
  obtain ⟨ticket, background⟩ := h.vacant fresh unclaimed
  have unhosted : t'.isHosted = false := by rw [Task.isHosted, job, resumes]; rfl
  have here : t'.Listed w fresh := by
    refine ⟨?_, ?_, ?_⟩
    · rw [ticket, drew]
      exact ⟨nofun, nofun⟩
    · rw [drew]
      exact nofun
    · rw [unhosted]
      exact ⟨fun there => absurd there background, nofun⟩
  show Roster _ _ ([t'] ++ others)
  refine h.replace new (List.pairwise_singleton _ _) ?_ ?_ ?_ (fun _ _ => ⟨rfl, Iff.rfl⟩) h.finished
    h.distinct
  · rw [List.forall_mem_singleton, drew]
    exact fun id claims => .inr (Option.some.inj claims).symm
  · rw [List.forall_mem_singleton, drew]
    rintro _ ⟨⟩
    exact here
  · intro id claims _
    obtain ⟨registered, -, hosted⟩ := h.listed t (.head _) id claims
    have unregistered := early.isRegistered
    have unhosted : t.isHosted = false := by rw [Task.isHosted, resumes]; rfl
    rw [unregistered] at registered
    rw [unhosted] at hosted
    exact ⟨Option.eq_none_iff_forall_ne_some.mpr fun k ticket =>
      Bool.false_ne_true (registered.mp ⟨k, ticket⟩),
      fun there => Bool.false_ne_true (hosted.mp there)⟩

theorem attach {u : List Exchange} (job : t'.job = t.job)
    (before : t.stage = .entered id ∨ t.stage = .taken id) (ticket : w.ticket? id = some k)
    (after : t'.stage = .running id k u) : Roster (fresh :: drawn) w (t' :: others) := by
  obtain ⟨claims, gone⟩ : t.stage.claim? = some id ∧ t.stage.isGone = false := by
    obtain same | same := before <;> rw [same] <;> exact ⟨rfl, rfl⟩
  refine h.goes_at new claims (by rw [after]; rfl) ⟨?_, ?_, ?_⟩ (fun _ _ => ⟨rfl, Iff.rfl⟩)
    h.finished h.distinct
  · rw [after]
    exact ⟨fun _ => rfl, fun _ => ⟨k, ticket⟩⟩
  · rw [after]
    rintro _ ⟨⟩
    exact ticket
  · rw [(h.listed t (.head _) id claims).background, Task.isHosted, Task.isHosted, job, after, gone]
    rfl

theorem register (job : t'.job = t.job) (before : t.stage = .begun id)
    (after : t'.stage = .entered id) (tickets : w'.runs = (w.runs.register id).2)
    (background : w'.background = w.background) : Roster (fresh :: drawn) w' (t' :: others) := by
  have claims : t.stage.claim? = some id := by rw [before]; rfl
  have listed := h.listed t (.head _) id claims
  have absent : w.ticket? id = none := by
    rw [Option.eq_none_iff_forall_ne_some]
    intro k ticket
    have registered := listed.ticket.mp ⟨k, ticket⟩
    rw [before] at registered
    cases registered
  have ticket (id' : String) : w'.ticket? id' =
      if id' = id then some w.runs.marks.length else w.ticket? id' := by
    rw [World.ticket?, tickets]
    exact Runs.ticket?_register
  refine h.goes_at new claims (by rw [after]; rfl) ⟨?_, ?_, ?_⟩ ?_ ?_ (background ▸ h.distinct)
  · rw [after, ticket, if_pos rfl]
    exact ⟨fun _ => rfl, fun _ => ⟨_, rfl⟩⟩
  · rw [after]
    exact nofun
  · rw [background, listed.background, Task.isHosted, Task.isHosted, job, after, before]
    rfl
  · intro id' other
    rw [ticket, if_neg other, background]
    exact ⟨rfl, Iff.rfl⟩
  · intro k
    by_cases given : k = w.runs.marks.length
    · exact .inr ⟨id, by rw [ticket, if_pos rfl, given]⟩
    · rw [tickets, Runs.isFinished_register given]
      refine (h.finished k).imp_right fun ⟨id', held⟩ => ⟨id', ?_⟩
      have other : id' ≠ id := by
        rintro rfl
        cases absent.symm.trans held
      rw [ticket, if_neg other, held]

theorem release (job : t'.job = t.job) (claims : t.stage.claim? = some id)
    (gone : t.stage.isGone = false) (held : t.stage.held? = some k) (after : t'.stage = .left id)
    (tickets : w'.runs = w.runs.release id k) (background : w'.background = w.background) :
    Roster (fresh :: drawn) w' (t' :: others) := by
  have listed := h.listed t (.head _) id claims
  have ticket (id' : String) :
      w'.ticket? id' = if id' = id then none else w.ticket? id' := by
    rw [World.ticket?, tickets]
    exact Runs.ticket?_release
  refine h.goes_at new claims (by rw [after]; rfl) ⟨?_, ?_, ?_⟩ ?_ ?_ (background ▸ h.distinct)
  · rw [after, ticket, if_pos rfl]
    exact ⟨nofun, nofun⟩
  · rw [after]
    exact nofun
  · rw [background, listed.background, Task.isHosted, Task.isHosted, job, after, gone]
    rfl
  · intro id' other
    rw [ticket, if_neg other, background]
    exact ⟨rfl, Iff.rfl⟩
  · -- the ticket that nobody has any more is the one that is marked
    intro j
    rw [tickets]
    obtain finished | ⟨id', held'⟩ := h.finished j
    · exact .inl (Runs.isFinished_release (.inl finished))
    · by_cases same : id' = id
      · subst same
        refine .inl (Runs.isFinished_release (.inr ?_))
        exact Option.some.inj ((listed.held held).symm.trans held')
      · exact .inr ⟨id', by rw [ticket, if_neg same, held']⟩

theorem leave (before : t.stage = .left id) (after : t'.stage = .gone id)
    (tickets : w'.runs = w.runs) (background : w'.background = w.background.erase id) :
    Roster (fresh :: drawn) w' (t' :: others) := by
  have claims : t.stage.claim? = some id := by rw [before]; rfl
  have ticket (id' : String) : w'.ticket? id' = w.ticket? id' := by
    rw [World.ticket?, tickets]
    rfl
  refine h.goes_at new claims (by rw [after]; rfl) ⟨?_, ?_, ?_⟩ ?_ ?_
    (background ▸ h.distinct.erase id)
  · rw [ticket, (h.listed t (.head _) id claims).ticket, before, after]
    rfl
  · rw [after]
    exact nofun
  · rw [background, Task.isHosted, after]
    have erased : id ∉ w.background.erase id := h.distinct.not_mem_erase
    exact ⟨fun there => absurd there erased, by simp [Stage.isGone]⟩
  · intro id' other
    rw [ticket, background, List.mem_erase_of_ne other]
    exact ⟨rfl, Iff.rfl⟩
  · intro k
    rw [tickets]
    exact (h.finished k).imp_right fun ⟨id', held⟩ => ⟨id', (ticket id').trans held⟩

/-- A record is handed to a task of its own, which is put into the table. -/
theorem hand {e : Execution} {v : Workflow} (resumes : t.job.resumes? = none)
    (before : t.stage = .entered e.id) (after : t'.stage = .handed e.id)
    (tickets : w'.runs = w.runs) (background : w'.background = w.background ++ [e.id]) :
    Roster (fresh :: drawn) w' (t' :: .start (.run v e) :: others) := by
  have claims : t.stage.claim? = some e.id := by rw [before]; rfl
  have listed := h.listed t (.head _) e.id claims
  have ticket (id' : String) : w'.ticket? id' = w.ticket? id' := by
    rw [World.ticket?, tickets]
    rfl
  have absent : e.id ∉ w.background := by
    rw [listed.background, Task.isHosted, resumes]
    exact nofun
  have taken : (Task.start (.run v e)).Listed w' e.id := by
    refine ⟨?_, nofun, ?_⟩
    · rw [ticket, listed.ticket, before]
      rfl
    · rw [background]
      exact ⟨fun _ => rfl, fun _ => List.mem_append_right _ (.head _)⟩
  show Roster _ _ ([t', .start (.run v e)] ++ others)
  refine h.replace new ?_ ?_ ?_ ?_ ?_ ?_ ?_
  · rw [List.pairwise_pair, Task.Apart, after]
    exact nofun
  · rw [List.forall_mem_cons, List.forall_mem_singleton, after]
    exact ⟨nofun, fun id same => .inl (claims.trans same)⟩
  · rw [List.forall_mem_cons, List.forall_mem_singleton, after]
    refine ⟨nofun, ?_⟩
    rintro _ ⟨⟩
    exact taken
  · intro id claims' unclaimed
    rw [List.forall_mem_cons, List.forall_mem_singleton] at unclaimed
    exact absurd (claims.symm.trans claims') unclaimed.2
  · intro id' claims'
    have other : id' ≠ e.id := by
      rintro rfl
      exact claims' claims
    rw [ticket, background, List.mem_append, List.mem_singleton, or_iff_left other]
    exact ⟨rfl, Iff.rfl⟩
  · intro k
    rw [tickets]
    exact (h.finished k).imp_right fun ⟨id', held⟩ => ⟨id', (ticket id').trans held⟩
  · rw [background]
    exact (List.perm_append_singleton _ _).nodup_iff.mpr (List.nodup_cons.mpr ⟨absent, h.distinct⟩)

end Calls

theorem answered_quiet (h : Roster drawn w (t :: others)) (new : o.id ∉ drawn) (steady : t.Steady)
    (allows : Allows t.stage c) (leaves : LeavesTables c) (job : t'.job = t.job)
    (after : t'.stage = t.stage.after ⟨c, (w.perform o c).1⟩) :
    Roster (o.id :: drawn) (w.perform o c).2 (t' :: others) := by
  obtain alike | ⟨early, fresh, drawing, drew⟩ := allows.alike_or (r := (w.perform o c).1) leaves
  · exact h.still new job (leaves.agrees w o) (after ▸ alike)
  · obtain rfl : c = .freshId := congrArg Sigma.fst drawing
    obtain rfl : o.id = fresh := eq_of_heq (Sigma.mk.inj drawing).2
    exact h.draw new job (steady.resumes? early.resumed?) early (after.trans drew)

theorem answered_attach (h : Roster drawn w (t :: others)) (new : o.id ∉ drawn)
    (before : t.stage = .entered id ∨ t.stage = .taken id) (job : t'.job = t.job)
    (after : ∀ k : Ticket, (w.perform o (.attach id)).1 = k →
      t'.stage = .running id k [⟨.attach id, k⟩]) :
    Roster (o.id :: drawn) (w.perform o (.attach id)).2 (t' :: others) := by
  obtain ⟨claims, registered⟩ : t.stage.claim? = some id ∧ t.stage.isRegistered = true := by
    obtain same | same := before <;> rw [same] <;> exact ⟨rfl, rfl⟩
  obtain ⟨k, ticket⟩ := (h.listed t (.head _) id claims).ticket.mpr registered
  have attached : w.runs.attach id = (k, w.runs) := Runs.attach_of_some ticket
  have world : (w.perform o (.attach id)).2 = w := by
    rw [World.perform, attached]
  rw [world]
  exact h.attach new job before ticket (after k (congrArg Prod.fst attached))

theorem answered (h : Roster drawn w (t :: others)) (new : o.id ∉ drawn) (steady : t.Steady)
    (allows : Allows t.stage c) (job : t'.job = t.job)
    (after : t'.stage = t.stage.after ⟨c, (w.perform o c).1⟩) :
    Roster (o.id :: drawn) (w.perform o c).2 (t' :: (Task.started c ++ others)) := by
  by_cases leaves : LeavesTables c
  · have none : Task.started c = [] := by
      cases c with
      | startInBackground => exact leaves.elim
      | _ => rfl
    rw [none, List.nil_append]
    exact h.answered_quiet new steady allows leaves job after
  generalize stage : t.stage = p at allows after
  cases allows with
  | aside free unrelated => exact absurd unrelated.leavesTables leaves
  | begin | save | count => exact absurd trivial leaves
  | register id => exact h.register new job stage after rfl rfl
  | @hand v e launched =>
      have resumes : t.job.resumes? = none := steady.resumes? (by rw [stage]; rfl)
      exact h.hand new resumes stage after rfl rfl
  | attach id =>
      refine h.answered_attach new (.inl stage) job ?_
      rintro k rfl
      exact after
  | resume id =>
      refine h.answered_attach new (.inr stage) job ?_
      rintro k rfl
      exact after
  | abort | release =>
      exact h.release new job (by rw [stage]; rfl) (by rw [stage]; rfl) (by rw [stage]; rfl) after
        rfl rfl
  | leave id => exact h.leave new stage after rfl rfl

end Roster
end TriggerFlow.Server
