import Mathlib.Data.List.Induction
import TriggerFlow.Proofs.Stream.Publication

/-!
Whom the message of a final status releases. It removes everyone who listens when it has been sent,
but it was sent to those who listened when the sending began: a socket that is subscribed in between
is released without having been told.
-/

namespace TriggerFlow.Stream

open Program

namespace State

variable {st st' : State} {moves : List Move} {i : Nat} {a : Activity} {execution : String}
  {heard : List Socket} {message : Value} {sent : Except Failure Unit}

theorem follow_concat {m : Move} :
    empty.follow (moves ++ [m]) = some st' ↔
      ∃ st, empty.follow moves = some st ∧ st.move m = some st' := by
  rw [follow, List.foldlM_append]
  refine Option.bind_eq_some_iff.trans ?_
  simp only [List.foldlM_cons, List.foldlM_nil, bind_pure]
  rfl

/-- What an activity was told about who listens was so at some time, from which on the activity knew
it. -/
theorem exists_look (followed : empty.follow moves = some st) (found : st.activities[i]? = some a)
    (told : ⟨.subscribers execution, heard⟩ ∈ a.past) :
    ∃ before after mid b, moves = before ++ after ∧ empty.follow before = some mid ∧
      mid.table.subscribers execution = heard ∧ mid.activities[i]? = some b ∧
      ⟨.subscribers execution, heard⟩ ∈ b.past := by
  induction moves using List.reverseRecOn generalizing st a with
  | nil =>
      cases followed
      cases found
  | append_singleton moves m ih =>
      obtain ⟨st₀, earlier, moved⟩ := follow_concat.mp followed
      -- Who knew it before this move learnt it earlier.
      have known {b : Activity} (found : st₀.activities[i]? = some b)
          (told : ⟨.subscribers execution, heard⟩ ∈ b.past) :
          ∃ before after mid b, moves ++ [m] = before ++ after ∧ empty.follow before = some mid ∧
            mid.table.subscribers execution = heard ∧ mid.activities[i]? = some b ∧
            ⟨.subscribers execution, heard⟩ ∈ b.past := by
        obtain ⟨before, after, mid, b, rfl, rest⟩ := ih earlier found told
        exact ⟨before, after ++ [m], mid, b, List.append_assoc .., rest⟩
      cases m with
      | submit j =>
          cases moved
          obtain inside | outside := Nat.lt_or_ge i st₀.activities.length
          · rw [List.getElem?_append_left inside] at found
            exact known found told
          · rw [List.getElem?_append_right outside] at found
            obtain rfl := List.mem_singleton.mp (List.mem_of_getElem? found)
            cases told
      | go k luck =>
          obtain ⟨job, past, c, next, turn⟩ := turn_of_move moved
          rw [turn.activities] at found
          by_cases same : k = i
          · subst same
            have inside := (List.getElem?_eq_some_iff.mp turn.found).1
            rw [List.getElem?_set_self inside] at found
            cases found
            obtain told | now := List.mem_append.mp told
            · exact known turn.found told
            · have now := List.mem_singleton.mp now
              obtain rfl : .subscribers execution = c := congrArg Sigma.fst now
              have table : st.table = st₀.table := turn.table
              refine ⟨_, [], st, _, (List.append_nil _).symm, followed, ?_,
                turn.activities ▸ List.getElem?_set_self inside,
                List.mem_append_right _ (now ▸ .head _)⟩
              rw [table]
              exact (eq_of_heq (Sigma.mk.inj now).2).symm
          · rw [List.getElem?_set_ne same] at found
            exact known found told

/-- A socket that a publication removes has been sent its message, or it was not subscribed at a
time at which the publication had begun. -/
theorem released_unless_late (followed : empty.follow moves = some st)
    (found : st.activities[i]? = some a) (publishes : a.job = .publish execution message)
    (moved : st.move (.go i sent) = some st') :
    ∀ s ∈ st.table.subscribers execution, s ∉ st'.table.subscribers execution →
      (∃ text r, Json.write .spaced message = .ok text ∧ ⟨.send s text, r⟩ ∈ a.past) ∨
      ∃ before after mid b, moves = before ++ after ∧ empty.follow before = some mid ∧
        s ∉ mid.table.subscribers execution ∧ mid.activities[i]? = some b ∧ b.past ≠ [] := by
  intro s listened gone
  obtain ⟨job, past, c, next, turn⟩ := turn_of_move moved
  cases found.symm.trans turn.found
  obtain rfl : job = .publish execution message := publishes
  have continues := continues_of_follow followed _ turn.mem
  obtain ⟨rest, result, goes⟩ := continues.publishes (st.table.perform sent c).1
  have table := turn.table
  obtain (rfl | ⟨x, text, rfl⟩) | ⟨attempts, text, last, written, -, -, looked⟩ := goes.next
  · exact absurd (table ▸ listened) gone
  · exact absurd (table ▸ listened) gone
  · by_cases told : s ∈ attempts.map (·.1)
    · obtain ⟨attempt, mem, rfl⟩ := List.mem_map.mp told
      exact .inl ⟨text, attempt.2, written,
        looked ▸ List.mem_cons_of_mem _ (List.mem_map_of_mem mem)⟩
    · obtain ⟨before, after, mid, b, parts, reached, heard, at_work, knows⟩ :=
        exists_look followed turn.found (looked ▸ List.mem_cons_self)
      exact .inr ⟨before, after, mid, b, parts, reached, heard ▸ told, at_work,
        List.ne_nil_of_mem knows⟩

def completedMessage : Value := .obj [("type", .str "status"), ("status", .str "completed")]

/-- A socket is subscribed while the message of a final status is being sent to another one. -/
def lateMoves : List Move :=
  [.submit (.subscribe "early" "e"), .go 0 (.ok ()), .go 0 (.ok ()),
    .submit (.publish "e" completedMessage), .go 1 (.ok ()),
    .submit (.subscribe "late" "e"), .go 2 (.ok ()), .go 2 (.ok ()), .go 1 (.ok ())]

def sendsTo (s : Socket) : Exchange → Bool
  | ⟨.send x _, _⟩ => x = s
  | _ => false

/-- What is seen of those moves and of the next one, in which the publication settles its entry:
what it works on, who listens before and after, and whether it has sent the latecomer anything. -/
theorem lateMoves_seen :
    ((empty.follow lateMoves).bind fun st => (st.activities[1]?).bind fun a =>
      (st.move (.go 1 (.ok ()))).map fun st' => (a.job, st.table.subscribers "e",
        st'.table.subscribers "e", a.past.any (sendsTo "late"))) =
      some (.publish "e" completedMessage, ["early", "late"], [], false) := by
  rfl

theorem exists_lateMoves : ∃ st a st', empty.follow lateMoves = some st ∧
    st.activities[1]? = some a ∧ st.move (.go 1 (.ok ())) = some st' ∧
    a.job = .publish "e" completedMessage ∧ st.table.subscribers "e" = ["early", "late"] ∧
    st'.table.subscribers "e" = [] ∧ a.past.any (sendsTo "late") = false := by
  obtain ⟨st, followed, rest⟩ := Option.bind_eq_some_iff.mp lateMoves_seen
  obtain ⟨a, found, rest⟩ := Option.bind_eq_some_iff.mp rest
  obtain ⟨st', moved, seen⟩ := Option.map_eq_some_iff.mp rest
  simp only [Prod.mk.injEq] at seen
  exact ⟨st, a, st', followed, found, moved, seen⟩

/-- Both are released: the first was told, the second was not there at first. -/
theorem both_released_at_completion : ∃ st a st', empty.follow lateMoves = some st ∧
    st.activities[1]? = some a ∧ a.job = .publish "e" completedMessage ∧
    st.move (.go 1 (.ok ())) = some st' ∧ st.table.subscribers "e" = ["early", "late"] ∧
    ∀ s ∈ ["early", "late"], s ∉ st'.table.subscribers "e" →
      (∃ text r, Json.write .spaced completedMessage = .ok text ∧ ⟨.send s text, r⟩ ∈ a.past) ∨
      ∃ before after mid b, lateMoves = before ++ after ∧ empty.follow before = some mid ∧
        s ∉ mid.table.subscribers "e" ∧ mid.activities[1]? = some b ∧ b.past ≠ [] := by
  obtain ⟨st, a, st', followed, found, moved, publishes, listening, -⟩ := exists_lateMoves
  refine ⟨st, a, st', followed, found, publishes, moved, listening, ?_⟩
  exact listening ▸ released_unless_late followed found publishes moved

/-- The second socket is released by the message of a final status that it was not sent. -/
theorem late_released_untold : ∃ st a st', empty.follow lateMoves = some st ∧
    st.activities[1]? = some a ∧ a.job = .publish "e" completedMessage ∧
    isLast completedMessage = .ok true ∧ st.move (.go 1 (.ok ())) = some st' ∧
    "late" ∈ st.table.subscribers "e" ∧ "late" ∉ st'.table.subscribers "e" ∧
    ∀ text r, ⟨.send "late" text, r⟩ ∉ a.past := by
  obtain ⟨st, a, st', followed, found, moved, publishes, listening, gone, untold⟩ :=
    exists_lateMoves
  refine ⟨st, a, st', followed, found, publishes, rfl, moved, by simp [listening], by simp [gone],
    fun text r told => ?_⟩
  have told : a.past.any (sendsTo "late") = true :=
    List.any_eq_true.mpr ⟨_, told, by simp [sendsTo]⟩
  cases untold.symm.trans told

end State
end TriggerFlow.Stream
