import TriggerFlow.Proofs.Stream.System

/-!
What a publication does to the stream: it looks who listens, sends its text to each of these, and
settles the entry of its execution with those who did not get it.
-/

namespace TriggerFlow.Stream

open Program

variable {execution text : String} {message : Value} {t past rest : List Exchange} {c : Call}
  {r : Reply c}

/-- A socket that a text is sent to, and what becomes of it. -/
abbrev Attempt := Socket × Except Failure Unit

def Attempt.exchange (text : String) (a : Attempt) : Exchange := ⟨.send a.1 text, a.2⟩

def failing (attempts : List Attempt) : List Socket :=
  (attempts.filter fun a => !a.2.isOk).map (·.1)

theorem ends_sendEach {sockets dead : List Socket} (h : (sendEach text sockets).Ends t dead) :
    ∃ attempts : List Attempt, attempts.map (·.1) = sockets ∧
      t = attempts.map (Attempt.exchange text) ∧ dead = failing attempts := by
  induction sockets generalizing t dead with
  | nil =>
      obtain ⟨rfl, rfl⟩ := ends_pure.mp h
      exact ⟨[], rfl, rfl, rfl⟩
  | cons s sockets ih =>
      rw [sendEach] at h
      obtain ⟨r, u, others, rfl⟩ := ends_ask_andThen.mp h
      match r with
      | .ok _ =>
          obtain ⟨attempts, rfl, rfl, rfl⟩ := ih others
          exact ⟨(s, .ok ()) :: attempts, rfl, rfl, rfl⟩
      | .error f =>
          obtain ⟨_, _, _, sent, ended, rfl⟩ := ends_andThen.mp others
          obtain ⟨rfl, rfl⟩ := ends_pure.mp ended
          obtain ⟨attempts, rfl, rfl, rfl⟩ := ih sent
          exact ⟨(s, .error f) :: attempts, rfl, by rw [List.append_nil]; rfl, rfl⟩

/-- The ways in which a publication can go. -/
inductive Publishes (execution : String) (message : Value) :
    List Exchange → Except Failure Nat → Prop
  | unheard : Publishes execution message [⟨.subscribers execution, []⟩] (.ok 0)
  | unwritten {heard : List Socket} {f : Failure} (filled : heard ≠ [])
      (failed : Json.write .spaced message = .error f) :
      Publishes execution message [⟨.subscribers execution, heard⟩] (.error f)
  | undecided {attempts : List Attempt} {text : String} {f : Failure} (filled : attempts ≠ [])
      (written : Json.write .spaced message = .ok text) (failed : isLast message = .error f) :
      Publishes execution message
        (⟨.subscribers execution, attempts.map (·.1)⟩ :: attempts.map (Attempt.exchange text))
        (.error f)
  | settled {attempts : List Attempt} {text : String} {last : Bool} (filled : attempts ≠ [])
      (written : Json.write .spaced message = .ok text) (decided : isLast message = .ok last) :
      Publishes execution message
        (⟨.subscribers execution, attempts.map (·.1)⟩ :: attempts.map (Attempt.exchange text) ++
          [⟨.settle execution last (failing attempts), ()⟩])
        (.ok (attempts.length - (failing attempts).length))

theorem publishes_of_ends {a : Except Failure Nat} (h : (publish execution message).Ends t a) :
    Publishes execution message t a := by
  obtain ⟨heard, u, asked, rfl⟩ := ends_ask_andThen.mp h
  split at asked
  · next none =>
    obtain ⟨rfl, rfl⟩ := ends_pure.mp asked
    obtain rfl : heard = [] := List.isEmpty_iff.mp none
    exact .unheard
  · next some =>
    split at asked
    · next f failed =>
      obtain ⟨rfl, rfl⟩ := ends_pure.mp asked
      exact .unwritten (fun none => some (List.isEmpty_iff.mpr none)) failed
    · next text written =>
      obtain ⟨dead, _, _, sent, closing, rfl⟩ := ends_andThen.mp asked
      obtain ⟨attempts, rfl, rfl, rfl⟩ := ends_sendEach sent
      have filled : attempts ≠ [] := by
        rintro rfl
        exact some rfl
      split at closing
      · next f failed =>
        obtain ⟨rfl, rfl⟩ := ends_pure.mp closing
        rw [List.append_nil]
        exact .undecided filled written failed
      · next last decided =>
        obtain ⟨⟨⟩, _, ended, rfl⟩ := ends_ask_andThen.mp closing
        obtain ⟨rfl, rfl⟩ := ends_pure.mp ended
        rw [List.length_map]
        exact .settled filled written decided

/-- The calls of a publication up to its sends leave the table as it is. -/
theorem asks_or_sends {heard : List Socket} {attempts : List Attempt}
    (mem : ⟨c, r⟩ ∈ ⟨.subscribers execution, heard⟩ :: attempts.map (Attempt.exchange text)) :
    c = .subscribers execution ∨ ∃ s text, c = .send s text := by
  obtain same | mem := List.mem_cons.mp mem
  · exact .inl (congrArg Sigma.fst same)
  · obtain ⟨a, -, same⟩ := List.mem_map.mp mem
    exact .inr ⟨a.1, text, (congrArg Sigma.fst same).symm⟩

/-- The next call of a publication: settling comes last, when everyone who was found to listen has
been sent the text. -/
theorem Publishes.next {a : Except Failure Nat}
    (h : Publishes execution message (past ++ ⟨c, r⟩ :: rest) a) :
    (c = .subscribers execution ∨ ∃ s text, c = .send s text) ∨
      ∃ attempts text last, Json.write .spaced message = .ok text ∧ isLast message = .ok last ∧
        c = .settle execution last (failing attempts) ∧
        past = ⟨.subscribers execution, attempts.map (·.1)⟩ ::
          attempts.map (Attempt.exchange text) := by
  generalize whole : past ++ ⟨c, r⟩ :: rest = t at h
  have mem : ⟨c, r⟩ ∈ t := whole ▸ List.mem_append_right _ (.head _)
  cases h with
  | unheard | unwritten => exact .inl (.inl (congrArg Sigma.fst (List.mem_singleton.mp mem)))
  | undecided => exact .inl (asks_or_sends mem)
  | @settled attempts text last filled written decided =>
      obtain ⟨same, -, before⟩ | ⟨earlier, -, before⟩ := split_concat whole.symm
      · exact .inr ⟨attempts, text, last, written, decided, (congrArg Sigma.fst same).symm,
          before.symm⟩
      · have mem : ⟨c, r⟩ ∈ ⟨.subscribers execution, attempts.map (·.1)⟩ ::
            attempts.map (Attempt.exchange text) := before ▸ List.mem_append_right _ (.head _)
        exact .inl (asks_or_sends mem)

theorem Activity.Continues.publishes {next : Reply c → Task (Job.publish execution message).Given}
    (h : Continues ⟨.publish execution message, past, .call c next⟩) (r : Reply c) :
    ∃ rest a, Publishes execution message (past ++ ⟨c, r⟩ :: rest) a := by
  obtain ⟨u, a, ends⟩ := exists_ends (next r)
  exact ⟨u, a, publishes_of_ends (h _ a (.call c r ends))⟩

end TriggerFlow.Stream
