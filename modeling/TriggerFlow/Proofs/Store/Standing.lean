import TriggerFlow.Proofs.Store.Histories

/-!
What the history of a store says of its workflows. A workflow is stored exactly if its last creation
has not been followed by a deletion; its tenant and its date are those of that creation, and its
statistics are what the creation gave and the counts since then made of it, whatever else was
written meanwhile.
-/

namespace TriggerFlow.Store.Memory

variable {m m' : Memory} {t since : List Exchange} {x : Exchange} {w v current : Workflow}
  {id : String} {stored new : Option Workflow}

/-- The moments of the runs that are counted for a workflow, in the order of the calls. -/
def counts (id tenant : String) (t : List Exchange) : List Moment := t.filterMap (count? id tenant)

/-- The last that was done to the existence of the id: `w` was created under it, stored as `v`, and
since then the id was neither created again nor deleted. -/
structure LastCreated (id : String) (t : List Exchange) (w v : Workflow) (since : List Exchange) :
    Prop where
  called : ∃ before, t = before ++ ⟨.createWorkflow w, .ok v⟩ :: since
  named : v.id = some id
  lasts : ∀ x ∈ since, ¬ Creates id x ∧ ¬ Deletes id x

/-- What the creation of `w`, stored as `v`, and the runs counted since then come to. -/
structure Reckoned (w v : Workflow) (finishes : List Moment) (current : Workflow) : Prop where
  tenant : current.tenant = w.tenant
  createdAt : current.createdAt = v.createdAt
  runCount : current.runCount = w.runCount + finishes.length
  lastRun : current.lastRun = finishes.getLast?.or w.lastRun

theorem LastCreated.snoc (h : LastCreated id t w v since) (creates : ¬ Creates id x)
    (deletes : ¬ Deletes id x) : LastCreated id (t ++ [x]) w v (since ++ [x]) where
  called := by
    obtain ⟨before, rfl⟩ := h.called
    exact ⟨before, by simp⟩
  named := h.named
  lasts := by
    intro y hy
    obtain hy | hy := List.mem_append.mp hy
    · exact h.lasts y hy
    · cases List.mem_singleton.mp hy
      exact ⟨creates, deletes⟩

theorem lastCreated_created (t : List Exchange) (w : Workflow) (id : String) (time : Moment) :
    LastCreated id (t ++ [⟨.createWorkflow w, .ok (created w id time)⟩]) w (created w id time) [] :=
  ⟨⟨t, rfl⟩, rfl, fun _ hx => by cases hx⟩

theorem not_lastCreated_nil : ¬ LastCreated id [] w v since := by
  intro h
  obtain ⟨before, same⟩ := h.called
  cases before <;> cases same

theorem LastCreated.of_snoc (h : LastCreated id (t ++ [x]) w v since) :
    (x = ⟨.createWorkflow w, .ok v⟩ ∧ since = []) ∨
      ∃ earlier, since = earlier ++ [x] ∧ LastCreated id t w v earlier ∧ ¬ Creates id x ∧
        ¬ Deletes id x := by
  obtain ⟨before, split⟩ := h.called
  obtain ⟨same, rfl, -⟩ | ⟨earlier, rfl, rfl⟩ := split_concat split
  · exact .inl ⟨same, rfl⟩
  · obtain ⟨creates, deletes⟩ := h.lasts x (List.mem_append_right _ List.mem_cons_self)
    have last : LastCreated id (before ++ ⟨.createWorkflow w, .ok v⟩ :: earlier) w v earlier :=
      ⟨⟨before, rfl⟩, h.named, fun y hy => h.lasts y (List.mem_append_left _ hy)⟩
    exact .inr ⟨earlier, rfl, last, creates, deletes⟩

theorem counts_snoc (id tenant : String) (t : List Exchange) (x : Exchange) :
    counts id tenant (t ++ [x]) = counts id tenant t ++ (count? id tenant x).toList := by
  rw [counts, counts, List.filterMap_append]
  cases counted : count? id tenant x <;> simp [counted]

theorem reckoned_created (w : Workflow) (id : String) (time : Moment) :
    Reckoned w (created w id time) [] (created w id time) :=
  ⟨rfl, rfl, (Int.add_zero _).symm, rfl⟩

section Steps

variable {finishes : List Moment} {finish : Moment}

theorem Reckoned.updated (h : Reckoned w v finishes current) {next : Workflow}
    (keeps : KeepsStanding next current) : Reckoned w v finishes next :=
  ⟨keeps.tenant.trans h.tenant, keeps.createdAt.trans h.createdAt, keeps.runCount.trans h.runCount,
    keeps.lastRun.trans h.lastRun⟩

theorem Reckoned.counted (h : Reckoned w v finishes current) (finish : Moment) :
    Reckoned w v (finishes ++ [finish]) (countedOnce current finish) where
  tenant := h.tenant
  createdAt := h.createdAt
  runCount := by
    show current.runCount + 1 = _
    rw [h.runCount, List.length_append, List.length_singleton]
    omega
  lastRun := by
    show some finish = _
    rw [List.getLast?_append]
    rfl

end Steps

/-- What stands under an id is what the history of the id comes to. -/
structure Stands (id : String) (t : List Exchange) (stored : Option Workflow) : Prop where
  created : ∀ current, stored = some current → ∃ w v since, LastCreated id t w v since
  reckoned : ∀ w v since, LastCreated id t w v since →
    ∃ current, stored = some current ∧ Reckoned w v (counts id w.tenant since) current

theorem stands_nil (id : String) : Stands id [] none where
  created _ found := by cases found
  reckoned _ _ _ last := absurd last not_lastCreated_nil

/-- The step when the id goes on to exist as it did: the same creation, a later workflow. -/
theorem Stands.goes_on (h : Stands id t (some current)) {next : Workflow}
    (creates : ¬ Creates id x) (deletes : ¬ Deletes id x)
    (reckons : ∀ w v since, Reckoned w v (counts id w.tenant since) current →
      Reckoned w v (counts id w.tenant (since ++ [x])) next) :
    Stands id (t ++ [x]) (some next) where
  created _ _ := by
    obtain ⟨w, v, since, last⟩ := h.created current rfl
    exact ⟨w, v, _, last.snoc creates deletes⟩
  reckoned w v since last := by
    obtain ⟨rfl, -⟩ | ⟨earlier, rfl, last, -, -⟩ := last.of_snoc
    · exact absurd last.named creates
    · obtain ⟨_, ⟨⟩, reckoned⟩ := h.reckoned w v earlier last
      exact ⟨next, rfl, reckons w v earlier reckoned⟩

theorem Changes.stands (changes : Changes id stored x new) (h : Stands id t stored) :
    Stands id (t ++ [x]) new := by
  cases changes with
  | created w time =>
      refine ⟨fun _ _ => ⟨w, _, [], lastCreated_created t w id time⟩, fun w' v since last => ?_⟩
      obtain ⟨same, rfl⟩ | ⟨-, -, -, creates, -⟩ := last.of_snoc
      · cases same
        exact ⟨_, rfl, reckoned_created w id time⟩
      · exact absurd rfl creates
  | deleted w =>
      refine ⟨fun _ found => (by cases found), fun w' v since last => ?_⟩
      obtain ⟨same, -⟩ | ⟨-, -, -, -, deletes⟩ := last.of_snoc
      · cases same
      · exact absurd ⟨rfl, rfl⟩ deletes
  | updated u named keeps =>
      refine h.goes_on not_false not_false fun w v since reckoned => ?_
      rw [counts_snoc]
      exact (List.append_nil (counts id w.tenant since)).symm ▸ reckoned.updated keeps
  | counted current finish =>
      refine h.goes_on not_false not_false fun w v since reckoned => ?_
      rw [counts_snoc, ← reckoned.tenant, count?, if_pos ⟨rfl, rfl⟩, reckoned.tenant]
      exact reckoned.counted finish
  | unchanged same creates deletes counts =>
      subst same
      cases new with
      | some current =>
          refine h.goes_on creates deletes fun w v since reckoned => ?_
          rw [counts_snoc, ← reckoned.tenant, counts current rfl, reckoned.tenant]
          exact (List.append_nil (Memory.counts id w.tenant since)).symm ▸ reckoned
      | none =>
          refine ⟨fun _ found => (by cases found), fun w v since last => ?_⟩
          obtain ⟨rfl, -⟩ | ⟨earlier, rfl, last, -, -⟩ := last.of_snoc
          · exact absurd last.named creates
          · obtain ⟨_, ⟨⟩, -⟩ := h.reckoned w v earlier last

/-- The id was deleted and has not been created again since. -/
structure Gone (id : String) (t since : List Exchange) : Prop where
  called : ∃ before owner, t = before ++ ⟨.deleteWorkflow id owner, .ok true⟩ :: since
  lasts : ∀ x ∈ since, ¬ Creates id x

theorem Gone.of_snoc (h : Gone id (t ++ [x]) since) :
    (Deletes id x ∧ since = []) ∨
      ∃ earlier, since = earlier ++ [x] ∧ Gone id t earlier ∧ ¬ Creates id x := by
  obtain ⟨before, owner, split⟩ := h.called
  obtain ⟨rfl, rfl, -⟩ | ⟨earlier, rfl, rfl⟩ := split_concat split
  · exact .inl ⟨⟨rfl, rfl⟩, rfl⟩
  · have gone : Gone id (before ++ ⟨.deleteWorkflow id owner, .ok true⟩ :: earlier) earlier :=
      ⟨⟨before, owner, rfl⟩, fun y hy => h.lasts y (List.mem_append_left _ hy)⟩
    exact .inr ⟨earlier, rfl, gone, h.lasts x (List.mem_append_right _ List.mem_cons_self)⟩

/-- What is known of a store that has answered the calls of `t`. -/
structure Settled (t : List Exchange) (m : Memory) : Prop where
  filed : m.Filed
  distinct : m.Distinct
  stands : ∀ id, Stands id t (m.workflows.get? id)
  gone : ∀ id since, Gone id t since → m.workflows.get? id = none ∧ ∀ x ∈ since, ¬ Finds id x

theorem settled_empty : Settled [] empty where
  filed _ _ found := by cases found
  distinct := ⟨List.nodup_nil, List.nodup_nil⟩
  stands := stands_nil
  gone id since h := by
    obtain ⟨before, owner, same⟩ := h.called
    cases before <;> cases same

theorem Settled.reply (h : Settled t m) (time : Moment) (fresh : String) (c : Call) :
    Settled (t ++ [⟨c, (m.reply time fresh c).1⟩]) (m.reply time fresh c).2 where
  filed := h.filed.reply time fresh c
  distinct := h.distinct.reply time fresh c
  stands id := (m.changes_reply time fresh c id).stands (h.stands id)
  gone id since gone := by
    have changes := m.changes_reply time fresh c id
    obtain ⟨deletes, rfl⟩ | ⟨earlier, rfl, gone, creates⟩ := gone.of_snoc
    · exact ⟨changes.none_of_deletes deletes, fun _ hx => by cases hx⟩
    · obtain ⟨missing, unfound⟩ := h.gone id earlier gone
      rw [missing] at changes
      refine ⟨changes.stays_none creates, fun x hx => ?_⟩
      obtain hx | hx := List.mem_append.mp hx
      · exact unfound x hx
      · cases List.mem_singleton.mp hx
        exact not_finds h.filed h.distinct missing time fresh c

theorem Serves.settled (h : empty.Serves t m) : Settled t m :=
  h.preserves settled_empty fun time fresh c settled => settled.reply time fresh c

/-- Whatever a store is asked, its workflows are those whose last creation was followed by no
deletion, with the tenant and the date of that creation, and the statistics that it gave and the
counts since then made of it. An id that was deleted is found by no call until it is created
again. -/
theorem statistics_follow_history (h : empty.Serves t m) (id : String) :
    (∀ current, (id, current) ∈ m.workflows → ∃ w v since, LastCreated id t w v since ∧
      Reckoned w v (counts id w.tenant since) current) ∧
    (∀ w v since, LastCreated id t w v since → ∃ current, (id, current) ∈ m.workflows ∧
      Reckoned w v (counts id w.tenant since) current) ∧
    ∀ since, Gone id t since → (∀ current, (id, current) ∉ m.workflows) ∧
      ∀ x ∈ since, ¬ Finds id x := by
  have settled := h.settled
  have stands := settled.stands id
  have look {current : Workflow} (stored : (id, current) ∈ m.workflows) :
      m.workflows.get? id = some current :=
    Keyed.get?_of_mem settled.distinct.workflows stored
  refine ⟨fun current stored => ?_, fun w v since last => ?_, fun since gone => ?_⟩
  · obtain ⟨w, v, since, last⟩ := stands.created current (look stored)
    obtain ⟨found, same, reckoned⟩ := stands.reckoned w v since last
    cases same.symm.trans (look stored)
    exact ⟨w, v, since, last, reckoned⟩
  · obtain ⟨current, found, reckoned⟩ := stands.reckoned w v since last
    exact ⟨current, Keyed.mem_of_get? found, reckoned⟩
  · obtain ⟨missing, unfound⟩ := settled.gone id since gone
    have absent (current : Workflow) : (id, current) ∉ m.workflows := by
      intro stored
      cases missing.symm.trans (look stored)
    exact ⟨absent, unfound⟩

section Sample

/-- A workflow that was run five times before it came to the store. -/
def sampleWorkflow (id : String) : Workflow :=
  { nodes := [], connections := [], id := some id, tenant := "tenant", name := "Sample",
    description := none, status := .draft, tags := [], runCount := 5, lastRun := none,
    createdBy := none, createdAt := none, updatedAt := none }

/-- Two workflows are created and the second one is deleted; runs are counted for the first one and
for nobody, and updates come with old statistics. -/
def sampleCalls : List Call :=
  [.createWorkflow (sampleWorkflow "kept"), .createWorkflow (sampleWorkflow "dropped"),
    .incrementRunCount (some "kept") "tenant" (.utc 1),
    .incrementRunCount (some "kept") "other" (.utc 2),
    .updateWorkflow { sampleWorkflow "kept" with name := "Renamed", runCount := 99 },
    .deleteWorkflow "dropped" "other", .deleteWorkflow "dropped" "tenant",
    .updateWorkflow (sampleWorkflow "dropped"), .getWorkflow "dropped" "tenant",
    .incrementRunCount (some "kept") "tenant" (.utc 3)]

theorem sample_follows_history :
    ∃ t m, empty.Serves t m ∧
      (∃ current, ("kept", current) ∈ m.workflows ∧ current.runCount = 7 ∧
        current.lastRun = some (.utc 3)) ∧
      (∀ current, ("dropped", current) ∉ m.workflows) ∧ ∀ x ∈ t.drop 7, ¬ Finds "dropped" x := by
  have served := serves_transcript empty (Sources.start 1) sampleCalls
  have last : LastCreated "kept" (empty.transcript (Sources.start 1) sampleCalls).1
      (sampleWorkflow "kept") (created (sampleWorkflow "kept") "kept" (Sources.start 1).now.1)
      ((empty.transcript (Sources.start 1) sampleCalls).1.drop 1) :=
    ⟨⟨[], rfl⟩, rfl, by decide +kernel⟩
  have gone : Gone "dropped" (empty.transcript (Sources.start 1) sampleCalls).1
      ((empty.transcript (Sources.start 1) sampleCalls).1.drop 7) :=
    ⟨⟨(empty.transcript (Sources.start 1) sampleCalls).1.take 6, "tenant", rfl⟩, by decide +kernel⟩
  obtain ⟨current, stored, reckoned⟩ := (statistics_follow_history served "kept").2.1 _ _ _ last
  exact ⟨_, _, served, ⟨current, stored, reckoned.runCount, reckoned.lastRun⟩,
    (statistics_follow_history served "dropped").2.2 _ gone⟩

end Sample

end TriggerFlow.Store.Memory
