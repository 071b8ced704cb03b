import TriggerFlow.Proofs.Action.Webhook
import TriggerFlow.Proofs.Run.Dispatch

/-!
Webhooks in runs. The step of a webhook goes as its specification wants it for every answer but
those that are let through, and with these it is a success.
-/

namespace TriggerFlow.Engine

open Program TriggerFlow.Action TriggerFlow.Action.Webhook

variable {w : Workflow} {e : Execution} {t t₀ before after : List Exchange} {s : Step} {n : Node}
  {registry : Registry} {config : Fields} {context : Value} {reply : Except Failure Value}
  {u : List (Program.Exchange Action.Reply)} {res : Except Failure Fields}

theorem settledStep_success_iff {id : String} {start finish : Moment} {p : Except Failure Fields} :
    (settledStep n id start finish p).status = .success ↔ ∃ fields, p = .ok fields := by
  cases p with
  | ok fields => exact iff_of_true rfl ⟨fields, rfl⟩
  | error f => exact iff_of_false nofun nofun

theorem fields_of_handled (res : Except Failure Fields) :
    (res.map Value.obj).bind Output.fields = res := by
  cases res with
  | error f => rfl
  | ok fields =>
      cases fields with
      | nil | cons => rfl

/-- The step went as the other side answered: it is a success exactly if the answer was one, but for
answers that are let through. -/
structure Follows (config : Fields) (context : Value) (u : List (Program.Exchange Action.Reply))
    (s : Step) : Prop where
  specified : (∀ status, Answers config context u status → ¬LetThrough status) →
    (s.status = .success ↔
      ∃ status, Answers config context u status ∧ 200 ≤ status ∧ status < 300)
  through : ∀ status, Answers config context u status → LetThrough status → s.status = .success
  refused : ∀ status, Answers config context u status → 400 ≤ status →
    s.status = .failed ∧ s.error = some ("Webhook returned " ++ toString status)

/-- The step goes as the other side answered, whatever the handler had to exchange for its reply. -/
def Complies (registry : Registry) (config : Fields) (context : Value)
    (reply : Except Failure Value) (s : Step) : Prop :=
  ∀ u res, (registry.invoke .callWebhook config context).Ends u res → reply = res.map .obj →
    Follows config context u s

theorem shown_refused (status : Int) :
    (failed ("Webhook returned " ++ toString status) (some status)).shown =
      "Webhook returned " ++ toString status := by
  have filled : "Webhook returned " ++ toString status ≠ "" := by
    intro empty
    have lengths := congrArg String.length empty
    rw [String.length_append, String.length_empty] at lengths
    have ahead : "Webhook returned ".length = 17 := rfl
    omega
  rw [Failure.shown]
  exact if_neg filled

theorem Dispatched.complies
    (h : Dispatched w before ⟨.invoke .callWebhook config context, reply⟩ after s)
    (enabled : registry.settings.webhooksEnabled = true)
    (registered : registry.registered.contains .callWebhook = true) :
    Complies registry config context reply s := by
  intro u res handled replied
  rw [Registry.invoke, if_pos registered] at handled
  cases h with
  | @intro _ l n _ _ _ id start finish kept known kind running lasting =>
      subst replied
      rw [fields_of_handled]
      have success : (settledStep n id start finish res).status = .success ↔
          ∃ status, Answers n.config context u status ∧ status < 400 :=
        settledStep_success_iff.trans (handled_ok_iff enabled handled)
      constructor
      case specified =>
        intro stopped
        rw [success]
        refine exists_congr fun status => and_congr_right fun answers => ?_
        have refused := stopped status answers
        unfold LetThrough at refused
        omega
      case through =>
        intro status answers through
        refine success.mpr ⟨status, answers, ?_⟩
        unfold LetThrough at through
        omega
      case refused =>
        intro status answers refused
        obtain ⟨url, rfl⟩ := handled_answered enabled handled answers
        have kept : ¬LetThrough status := by
          unfold LetThrough
          omega
        rw [if_neg kept, specified, if_neg (by omega)]
        exact ⟨rfl, congrArg some (shown_refused status)⟩

/-- With webhooks switched on, an answer is treated as specified unless it is let through, and
nothing but an answer below 400 makes a call succeed. In a run, whatever is dispatched to the
webhook has a step that complies, saved right after the reply and kept from then on, and every step
of a webhook that is over comes from there. -/
theorem webhook_steps_follow_answers {data : Value} {outcome : Except Failure Execution}
    (accepted : (prepare w data).Ends t₀ (.ok e)) (ran : (run w alone e).Ends t outcome)
    (enabled : registry.settings.webhooksEnabled = true)
    (registered : registry.registered.contains .callWebhook = true) :
    (∀ config context url target r, Requests config context url target r → ∀ status res,
      (Webhook.handle registry.settings config context).Ends [⟨.send r, .answered status⟩] res ↔
        res = if LetThrough status then .ok (output url status) else specified url status) ∧
    (∀ config context u res, (Webhook.handle registry.settings config context).Ends u res →
      ((∃ fields, res = .ok fields) ↔
        ∃ status, Answers config context u status ∧ status < 400)) ∧
    (∀ before config context reply after,
      t = before ++ ⟨.invoke .callWebhook config context, reply⟩ :: after →
        ∃ s, Dispatched w before ⟨.invoke .callWebhook config context, reply⟩ after s ∧
          Complies registry config context reply s) ∧
    ∀ k ∈ savings t, ∀ s ∈ k.steps,
      (∀ n ∈ w.nodes, n.id = s.node → n.kind = .action .callWebhook) →
      s.status = .success ∨ s.status = .failed →
        ∃ before config context reply after,
          t = before ++ ⟨.invoke .callWebhook config context, reply⟩ :: after ∧
          Dispatched w before ⟨.invoke .callWebhook config context, reply⟩ after s ∧
          Complies registry config context reply s := by
  have prepared := prepared_of_ends accepted
  obtain ⟨d, records⟩ := run_records ran
  refine ⟨?_, ?_, ?_, ?_⟩
  · exact fun config context url target r requests status res =>
      requests.ends_answered enabled status
  · exact fun config context u res => handled_ok_iff enabled
  · intro before config context reply after cut
    obtain ⟨s, dispatched⟩ := records.forth before _ after cut rfl
    exact ⟨s, dispatched, dispatched.complies enabled registered⟩
  · intro k hk s hs webhook settled
    obtain earlier | idle | ⟨n, known, trigger, node⟩ | ⟨before, x, after, cut, dispatched⟩ :=
      records.back k hk s hs
    · rw [prepared.unstarted] at earlier
      cases earlier
    · exact absurd settled (not_or.mpr idle)
    · rw [Node.isTrigger, webhook n known node] at trigger
      cases trigger
    · obtain ⟨n, known, node, a, context, reply, kind, rfl⟩ := dispatched.exists_node
      cases kind.symm.trans (webhook n known node)
      exact ⟨before, n.config, context, reply, after, cut, dispatched,
        dispatched.complies enabled registered⟩

def hook : Node :=
  ⟨"call", .action .callWebhook, [("url", .str "https://hooks.example.com/")], .origin⟩

/-- A trigger that leads to a call. -/
def hooked : Workflow :=
  { sample with
    nodes := [⟨"start", .trigger .webhook, [], .origin⟩, hook]
    connections := [⟨"a", "start", "call", [], .and⟩] }

def calls : Registry := ⟨⟨.ofRatio false 0 1, true, .ofRatio false 10 1⟩, Action.all⟩

def answer (status : Int) : (c : Action.Call) → Unit → Action.Reply c × Unit
  | .freshId, _ => ("", ())
  | .send _, _ => (.answered status, ())

/-- Calm surroundings in which the handlers work. -/
def answering (status : Int) : (c : Call) → Unit → Reply c × Unit
  | .invoke a config context, _ =>
    (((calls.invoke a config context).run (answer status) ()).1.map .obj, ())
  | c, _ => calm c ()

def hookedRun (status : Int) : List Exchange :=
  (run hooked alone sampleRecord).exchange (answering status) ()

def Succeeds (t : List Exchange) : Prop :=
  ∃ k ∈ savings t, ∃ s ∈ k.steps, s.node = "call" ∧ s.status = .success

instance : Decidable (Succeeds t) := inferInstanceAs (Decidable (∃ k ∈ savings t, _))

theorem hooked_follows : ∃ before config context reply after s u,
    hookedRun 204 = before ++ ⟨.invoke .callWebhook config context, reply⟩ :: after ∧
      Dispatched hooked before ⟨.invoke .callWebhook config context, reply⟩ after s ∧
      s.status = .success ∧ Follows config context u s := by
  have prepared := ends_run (answering 204) (prepare hooked .null) ()
  have ran := ends_run (answering 204) (run hooked alone sampleRecord) ()
  have succeeds : Succeeds (hookedRun 204) := by decide +kernel
  obtain ⟨k, hk, s, hs, node, success⟩ := succeeds
  have enabled : calls.settings.webhooksEnabled = true := rfl
  obtain ⟨-, -, -, back⟩ :=
    webhook_steps_follow_answers (e := sampleRecord) prepared ran enabled rfl
  have webhook : ∀ n ∈ hooked.nodes, n.id = s.node → n.kind = .action .callWebhook := by
    rw [node]
    decide
  obtain ⟨before, config, context, reply, after, cut, dispatched, complies⟩ :=
    back k hk s hs webhook (.inl success)
  have among : ⟨.invoke .callWebhook config context, reply⟩ ∈
      (run hooked alone sampleRecord).exchange (answering 204) () := by
    rw [cut]
    exact List.mem_append_right _ List.mem_cons_self
  obtain ⟨_, replied⟩ := mem_exchange among
  have handled := ends_run (answer 204) (calls.invoke .callWebhook config context) ()
  exact ⟨before, config, context, reply, after, s, _, cut, dispatched, success,
    complies _ _ handled replied⟩

/-- A redirect is taken for a success, by the handler and by a run. -/
theorem redirect_is_success :
    (∃ t fields, (Webhook.handle calls.settings hook.config (.obj [])).Ends t (.ok fields) ∧
      Answers hook.config (.obj []) t 302) ∧ Succeeds (hookedRun 302) := by
  refine ⟨?_, by decide +kernel⟩
  have handled := ends_run (answer 302) (Webhook.handle calls.settings hook.config (.obj [])) ()
  have succeeded : ((Webhook.handle calls.settings hook.config (.obj [])).run
      (answer 302) ()).1.toOption.isSome = true := by decide +kernel
  cases given : ((Webhook.handle calls.settings hook.config (.obj [])).run (answer 302) ()).1 with
  | error f =>
      rw [given] at succeeded
      cases succeeded
  | ok fields =>
      rw [given] at handled
      refine ⟨_, fields, handled, ?_⟩
      have enabled : calls.settings.webhooksEnabled = true := rfl
      obtain ⟨status, answers, -⟩ := (handled_ok_iff enabled handled).mp ⟨fields, rfl⟩
      obtain ⟨url, target, r, requests, sent⟩ := id answers
      have among : ⟨.send r, .answered status⟩ ∈
          (Webhook.handle calls.settings hook.config (.obj [])).exchange (answer 302) () := by
        rw [sent]
        exact List.mem_cons_self
      obtain ⟨_, replied⟩ := mem_exchange among
      cases replied
      exact answers

end TriggerFlow.Engine
