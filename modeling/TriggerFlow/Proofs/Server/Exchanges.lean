import TriggerFlow.Proofs.Server.Conduct

/-!
What cancellations and runs exchange with their surroundings when the store may fail. A cancellation
is refused because of what it read, or because the store refused to close the record; a run that has
left the registry has stored its end, or a save of it failed, or a condition raised.
-/

namespace TriggerFlow.Server

open Engine Program Service

variable {tenant id : String} {t p u : List Exchange} {e d : Execution} {f : Failure}
  {v : Workflow} {k : Ticket} {x : Exchange}

section Cancelling

def reading (tenant id : String) (reply : Except Failure (Option Execution)) : Exchange :=
  ⟨.store (.getExecution id tenant), reply⟩

def marking (tenant id : String) (finish : Moment) (reply : Except Failure (Option Execution)) :
    Exchange :=
  ⟨.store (.markCancelled id tenant finish), reply⟩

/-- How a cancellation can go: which calls it makes, and what a refusal comes from. -/
inductive Cancelling (tenant id : String) : List Exchange → Except Failure Execution → Prop
  | unread (f : Failure) {g : Failure} (same : Refuses g → Refuses f) :
      Cancelling tenant id [reading tenant id (.error f)] (.error g)
  | missing : Cancelling tenant id [reading tenant id (.ok none)]
      (.error (.engine (.executionNotFound id)))
  | late {e : Execution} (finished : e.isFinished = true) :
      Cancelling tenant id [reading tenant id (.ok (some e))] (.error (notRunning e))
  | waited (e : Execution) (reply : Except Failure (Option Execution))
      (r : Except Failure Execution) :
      Cancelling tenant id [reading tenant id (.ok (some e)), ⟨.requestCancel id, true⟩,
        ⟨.awaitFinished id, ()⟩, reading tenant id reply] r
  | marked (e : Execution) (finish : Moment) (d : Execution) :
      Cancelling tenant id [reading tenant id (.ok (some e)), ⟨.requestCancel id, false⟩,
        ⟨.now, finish⟩, marking tenant id finish (.ok (some d))] (.ok d)
  | unmarked (e : Execution) (finish : Moment) (r : Except Failure Execution) :
      Cancelling tenant id [reading tenant id (.ok (some e)), ⟨.requestCancel id, false⟩,
        ⟨.now, finish⟩, marking tenant id finish (.ok none)] r
  | unstored (e : Execution) (finish : Moment) (f : Failure) {g : Failure}
      (same : Refuses g → Refuses f) :
      Cancelling tenant id [reading tenant id (.ok (some e)), ⟨.requestCancel id, false⟩,
        ⟨.now, finish⟩, marking tenant id finish (.error f)] (.error g)

theorem ends_guarded {action : String} {workflow : Option String} {c : Store.Call}
    {r : Store.Reply c} (h : (guarded action workflow c).Ends t r) :
    ∃ reply : Store.Reply c, t = [⟨.store c, reply⟩] ∧
      ((∃ a, reply = .ok a ∧ r = .ok a) ∨
        ∃ f g, reply = .error f ∧ r = .error g ∧ (Refuses g → Refuses f)) := by
  obtain ⟨(reply : Store.Reply c), _, rest, rfl⟩ := ends_ask_andThen.mp h
  refine ⟨reply, ?_⟩
  cases reply with
  | ok a =>
      obtain ⟨rfl, rfl⟩ := ends_pure.mp rest
      exact ⟨rfl, .inl ⟨a, rfl, rfl⟩⟩
  | error f =>
      cases f with
      | engine err =>
          obtain ⟨rfl, rfl⟩ := ends_pure.mp rest
          exact ⟨rfl, .inr ⟨_, _, rfl, rfl, fun refuses => refuses⟩⟩
      | _ =>
          obtain ⟨rfl, rfl⟩ := ends_pure.mp rest
          exact ⟨rfl, .inr ⟨_, _, rfl, rfl, fun refuses => by cases refuses⟩⟩

theorem ends_getExecution {r : Except Failure Execution}
    (h : (getExecution tenant id).Ends t r) :
    ∃ reply, t = [reading tenant id reply] ∧
      ((∃ e, reply = .ok (some e) ∧ r = .ok e) ∨
        (reply = .ok none ∧ r = .error (.engine (.executionNotFound id))) ∨
        ∃ f g, reply = .error f ∧ r = .error g ∧ (Refuses g → Refuses f)) := by
  obtain ⟨a, _, _, first, rest, rfl⟩ := ends_andThen.mp h
  obtain ⟨reply, rfl, ⟨found, rfl, rfl⟩ | ⟨f, g, rfl, rfl, same⟩⟩ := ends_guarded first
  · refine ⟨.ok found, ?_⟩
    match found with
    | none =>
        obtain ⟨rfl, rfl⟩ := ends_pure.mp rest
        exact ⟨rfl, .inr (.inl ⟨rfl, rfl⟩)⟩
    | some e =>
        obtain ⟨rfl, rfl⟩ := ends_pure.mp rest
        exact ⟨rfl, .inl ⟨e, rfl, rfl⟩⟩
  · obtain ⟨rfl, rfl⟩ := ends_pure.mp rest
    exact ⟨.error f, rfl, .inr (.inr ⟨f, g, rfl, rfl, same⟩)⟩

theorem cancelling_of_ends {r : Except Failure Execution}
    (h : (cancelExecution tenant id).Ends t r) : Cancelling tenant id t r := by
  obtain ⟨a, _, _, first, rest, rfl⟩ := ends_andThen.mp h
  obtain ⟨_, rfl, ⟨e, rfl, rfl⟩ | ⟨rfl, rfl⟩ | ⟨f, g, rfl, rfl, same⟩⟩ := ends_getExecution first
  · dsimp only at rest
    split at rest
    · next finished =>
      obtain ⟨rfl, rfl⟩ := ends_pure.mp rest
      exact .late finished
    obtain ⟨(asked : Bool), _, h₁, rfl⟩ := ends_ask_andThen.mp rest
    cases asked with
    | true =>
        rw [if_pos rfl] at h₁
        obtain ⟨_, _, h₂, rfl⟩ := ends_ask_andThen.mp h₁
        obtain ⟨b, _, _, again, h₃, rfl⟩ := ends_andThen.mp h₂
        obtain ⟨reply, rfl, -⟩ := ends_getExecution again
        suffices no : ∀ {u}, Ends _ u r → u = [] by
          rw [no h₃]
          exact .waited e reply r
        intro u ends
        split at ends
        · exact (ends_pure.mp ends).1
        · split at ends
          · exact (ends_pure.mp ends).1
          · exact (ends_pure.mp ends).1
    | false =>
        rw [if_neg Bool.false_ne_true] at h₁
        obtain ⟨(finish : Moment), _, h₂, rfl⟩ := ends_ask_andThen.mp h₁
        obtain ⟨b, _, _, marks, h₃, rfl⟩ := ends_andThen.mp h₂
        obtain ⟨_, rfl, ⟨found, rfl, rfl⟩ | ⟨f, g, rfl, rfl, same⟩⟩ := ends_guarded marks
        · match found with
          | none =>
              obtain ⟨rfl, rfl⟩ := ends_pure.mp h₃
              exact .unmarked e finish _
          | some d =>
              obtain ⟨rfl, rfl⟩ := ends_pure.mp h₃
              exact .marked e finish d
        · obtain ⟨rfl, rfl⟩ := ends_pure.mp h₃
          exact .unstored e finish f same
  · obtain ⟨rfl, rfl⟩ := ends_pure.mp rest
    exact .missing
  · obtain ⟨rfl, rfl⟩ := ends_pure.mp rest
    exact .unread f same

inductive Inquires (tenant id : String) : Call → Prop
  | read : Inquires tenant id (.store (.getExecution id tenant))
  | ask : Inquires tenant id (.requestCancel id)
  | await : Inquires tenant id (.awaitFinished id)
  | date : Inquires tenant id .now
  | mark (finish : Moment) : Inquires tenant id (.store (.markCancelled id tenant finish))

theorem Cancelling.inquires {r : Except Failure Execution} (h : Cancelling tenant id t r) :
    ∀ x ∈ t, Inquires tenant id x.1 := by
  have one {x : Exchange} (first : Inquires tenant id x.1) : ∀ y ∈ [x], Inquires tenant id y.1 :=
    List.forall_mem_singleton.mpr first
  cases h with
  | unread | missing | late => exact one .read
  | waited =>
      simp only [List.forall_mem_cons]
      exact ⟨.read, .ask, .await, .read, List.forall_mem_nil _⟩
  | marked | unmarked | unstored =>
      simp only [List.forall_mem_cons]
      exact ⟨.read, .ask, .date, .mark _, List.forall_mem_nil _⟩

end Cancelling

section Running

/-- What the run of a record asks of its surroundings. -/
inductive Undertakes (e : Execution) : Call → Prop
  | attach : Undertakes e (.attach e.id)
  | work {k : Ticket} {c : Call} {r : Reply c} (working : Working e k ⟨c, r⟩) : Undertakes e c
  | finish {d : Execution} (ending : Ending e d) : Undertakes e (.store (.saveExecution d))
  | count (id : Option String) (tenant : String) (finish : Moment) :
      Undertakes e (.store (.incrementRunCount id tenant finish))
  | release (k : Ticket) : Undertakes e (.release e.id k)
  | leave : Undertakes e (.leaveBackground e.id)

def Released (e : Execution) (t : List Exchange) : Prop :=
  ∃ k, (⟨.release e.id k, ()⟩ : Exchange) ∈ t

/-- A run that stores no end: a save failed, or a condition raised. -/
def Fails (v : Workflow) (e : Execution) (t : List Exchange) : Prop :=
  (∃ l f, saving l (.error f) ∈ t) ∨ ∃ u, u <:+: t ∧ Raised v e u

/-- Up to the first exchange of a kind, any two courses with a common beginning agree. -/
theorem prefix_of_mem {P : Exchange → Prop} {a b : List Exchange} (same : p ++ u = a ++ x :: b)
    (first : ∀ y ∈ a, ¬ P y) (met : ∃ y ∈ p, P y) : a ++ [x] <+: p := by
  have whole : a ++ [x] <+: p ++ u := ⟨b, by rw [same, List.append_assoc]; rfl⟩
  obtain h | h := List.prefix_or_prefix_of_prefix whole (List.prefix_append p u)
  · exact h
  obtain rfl | short := List.prefix_concat_iff.mp h
  · exact List.prefix_refl _
  · obtain ⟨y, hy, holds⟩ := met
    exact absurd holds (first y (short.subset hy))

theorem undertakes_of_concludes {s : Execution × Option Stop} {r : Except Failure Execution}
    (h : Concludes v k s t r) (steps : OnlySteps e s.1) : ∀ x ∈ t, Undertakes e x.1 := by
  have release (l : Execution) (steps : OnlySteps e l) : Undertakes e (.release l.id k) := by
    rw [steps.id]
    exact .release k
  have date : Undertakes e .now := .work (k := k) (r := Moment.utc 0) (.timed _)
  have tell (execution event : String) (data : Fields) :
      Undertakes e (.notify execution event data) :=
    .work (k := k) (r := .ok ()) (.told execution event data _)
  cases h with
  | aborted =>
      rw [List.forall_mem_singleton]
      exact release _ steps
  | unsaved taken finish =>
      simp only [List.forall_mem_cons]
      exact ⟨date, .finish (ending_of_concluded steps taken finish), release _ steps,
        List.forall_mem_nil _⟩
  | uncounted taken completed finish =>
      simp only [List.forall_mem_cons]
      exact ⟨date, .finish (ending_of_concluded steps taken finish), .count _ _ _,
        release _ steps, List.forall_mem_nil _⟩
  | counted taken completed finish =>
      simp only [List.forall_mem_cons]
      exact ⟨date, .finish (ending_of_concluded steps taken finish), .count _ _ _,
        release _ steps, tell _ _ _, List.forall_mem_nil _⟩
  | closed taken incomplete finish =>
      simp only [List.forall_mem_cons]
      exact ⟨date, .finish (ending_of_concluded steps taken finish), release _ steps,
        tell _ _ _, List.forall_mem_nil _⟩

/-- What a run does between its walk and its release: nothing when the walk was taken down, and
otherwise it tries to store its end. -/
theorem exists_release_of_concludes {s : Execution × Option Stop} {r : Except Failure Execution}
    (h : Concludes v k s t r) (steps : OnlySteps e s.1) :
    ∃ a b, t = a ++ ⟨.release e.id k, ()⟩ :: b ∧
      (∀ x ∈ a, ∀ j, x ≠ ⟨.release e.id j, ()⟩) ∧
      ((a = [] ∧ ∃ f, concluded s.1 s.2 = .error f) ∨ (∃ d f, saving d (.error f) ∈ a) ∨
        ∃ d, Ending e d ∧ saving d (.ok ()) ∈ a) := by
  rw [← (steps.id : s.1.id = e.id)]
  cases h with
  | aborted taken => exact ⟨[], _, rfl, List.forall_mem_nil _, .inl ⟨rfl, _, taken⟩⟩
  | unsaved taken finish f =>
      refine ⟨[_, _], _, rfl, ?_, .inr (.inl ⟨_, f, .tail _ (.head _)⟩)⟩
      simp only [List.forall_mem_cons]
      exact ⟨nofun, nofun, List.forall_mem_nil _⟩
  | uncounted taken completed finish =>
      refine ⟨[_, _, _], _, rfl, ?_,
        .inr (.inr ⟨_, ending_of_concluded steps taken finish, .tail _ (.head _)⟩)⟩
      simp only [List.forall_mem_cons]
      exact ⟨nofun, nofun, nofun, List.forall_mem_nil _⟩
  | counted taken completed finish =>
      refine ⟨[_, _, _], _, rfl, ?_,
        .inr (.inr ⟨_, ending_of_concluded steps taken finish, .tail _ (.head _)⟩)⟩
      simp only [List.forall_mem_cons]
      exact ⟨nofun, nofun, nofun, List.forall_mem_nil _⟩
  | closed taken incomplete finish =>
      refine ⟨[_, _], _, rfl, ?_,
        .inr (.inr ⟨_, ending_of_concluded steps taken finish, .tail _ (.head _)⟩)⟩
      simp only [List.forall_mem_cons]
      exact ⟨nofun, nofun, List.forall_mem_nil _⟩

theorem undertakes_of_run {r : Except Failure Execution} (h : (run v alone e).Ends t r) :
    ∀ x ∈ t, Undertakes e x.1 := by
  obtain ⟨u, s, ⟨traverses, concludes⟩⟩ := course_of_ends h
  rw [List.forall_mem_append, List.forall_mem_cons]
  exact ⟨⟨.attach, fun x hx => .work (traverses.working x hx)⟩,
    undertakes_of_concludes concludes traverses.onlySteps⟩

theorem ends_background {r : Except Failure Execution} (h : (Job.run v e).work.Ends t r) :
    ∃ t₁, (run v alone e).Ends t₁ r ∧ t = t₁ ++ [⟨.leaveBackground e.id, ()⟩] := by
  obtain ⟨r₁, t₁, _, ran, rest, rfl⟩ := ends_andThen.mp h
  obtain ⟨_, _, h₁, rfl⟩ := ends_ask_andThen.mp rest
  obtain ⟨rfl, rfl⟩ := ends_pure.mp h₁
  exact ⟨t₁, ran, rfl⟩

theorem undertakes_of_ends {r : Except Failure Execution} (h : (Job.run v e).work.Ends t r) :
    ∀ x ∈ t, Undertakes e x.1 := by
  obtain ⟨t₁, ran, rfl⟩ := ends_background h
  rw [List.forall_mem_append, List.forall_mem_singleton]
  exact ⟨undertakes_of_run ran, .leave⟩

theorem exists_course {r : Except Failure Execution} (h : (Job.run v e).work.Ends t r) :
    ∃ u s t₁ r₁, Course v e u s t₁ r₁ ∧ t = t₁ ++ [⟨.leaveBackground e.id, ()⟩] := by
  obtain ⟨t₁, ran, rfl⟩ := ends_background h
  obtain ⟨u, s, course⟩ := course_of_ends ran
  exact ⟨u, s, t₁, r, course, rfl⟩

theorem Released.mono (h : Released e p) (u : List Exchange) : Released e (p ++ u) := by
  obtain ⟨k, hk⟩ := h
  exact ⟨k, List.mem_append_left _ hk⟩

theorem ended_or_fails {r : Except Failure Execution} (prepared : Prepared v e)
    (h : (Job.run v e).work.Ends (p ++ u) r) (released : Released e p) :
    (∃ d, Ending e d ∧ saving d (.ok ()) ∈ p) ∨ Fails v e p := by
  obtain ⟨ev, s, _, _, @⟨k, ev, s, c, _, traverses, concludes⟩, same⟩ := exists_course h
  obtain ⟨a, b, rfl, unreleased, outcome⟩ :=
    exists_release_of_concludes concludes traverses.onlySteps
  have begun : ⟨.attach e.id, k⟩ :: exchanges ev ++ a ++ [⟨.release e.id k, ()⟩] <+: p := by
    refine prefix_of_mem (P := fun x => ∃ j, x = ⟨.release e.id j, ()⟩)
      (u := u) (b := b ++ [⟨.leaveBackground e.id, ()⟩]) ?_ ?_ ?_
    · rw [same]
      simp
    · simp only [List.forall_mem_append, List.forall_mem_cons]
      refine ⟨⟨nofun, fun x hx => ?_⟩, fun x hx ⟨j, released⟩ => unreleased x hx j released⟩
      rintro ⟨j, rfl⟩
      exact (traverses.working _ hx).stays
    · obtain ⟨j, hj⟩ := released
      exact ⟨_, hj, j, rfl⟩
  have within {x : Exchange} (hx : x ∈ a) : x ∈ p :=
    begun.subset (List.mem_append_left _ (List.mem_append_right _ hx))
  obtain ⟨rfl, f, taken⟩ | ⟨d, f, failed⟩ | ⟨d, ending, stored⟩ := outcome
  · right
    by_cases stored : Stored (exchanges ev)
    · rw [List.append_nil] at begun
      exact .inr ⟨_, begun.isInfix, traverses.raised prepared taken stored⟩
    · simp only [Stored, not_forall, not_not] at stored
      obtain ⟨c, f, failed⟩ := stored
      have inside : (⟨.store c, .error f⟩ : Exchange) ∈ p :=
        begun.subset (List.mem_append_left _ (List.mem_append_left _ (.tail _ failed)))
      cases traverses.working _ failed with
      | saved => exact .inl ⟨_, f, inside⟩
  · exact .inr (.inl ⟨d, f, within failed⟩)
  · exact .inl ⟨d, ending, within stored⟩

end Running

end TriggerFlow.Server
