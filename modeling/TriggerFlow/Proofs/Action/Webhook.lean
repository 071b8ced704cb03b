import TriggerFlow.Action.Registry
import TriggerFlow.Proofs.Exchange

/-!
What a webhook makes of the answer to its request. Its specification wants a status of success, from
200 to 299. What it looks for is a status of failure, from 400 on, so that redirects and
informational answers are let through.
-/

namespace TriggerFlow.Action

open Program

namespace Webhook

variable {settings : HandlerSettings} {config : Fields} {context : Value} {url : String}
  {target : Url} {r : WebRequest} {status : Int} {t : List (Exchange Reply)}
  {res : Except Failure Fields}

def output (url : String) (status : Int) : Fields :=
  [("webhook_called", .bool true), ("url", .str url), ("status_code", .int status)]

/-- What the specification wants of an answer. -/
def specified (url : String) (status : Int) : Except Failure Fields :=
  if 200 ≤ status ∧ status < 300 then .ok (output url status)
  else .error (failed ("Webhook returned " ++ toString status) (some status))

/-- Neither a success nor an error of the other side. -/
def LetThrough (status : Int) : Prop := status < 200 ∨ (300 ≤ status ∧ status < 400)

instance : Decidable (LetThrough status) := inferInstanceAs (Decidable (_ ∨ _))

/-- The request that a call makes, to a whole address. -/
structure Requests (config : Fields) (context : Value) (url : String) (target : Url)
    (r : WebRequest) : Prop where
  addressed : address config context = .ok url
  given : url ≠ ""
  composed : request url config context = .ok (target, r)
  whole : target.isAbsolute = true

/-- The other side answered the request of a call with this status. -/
def Answers (config : Fields) (context : Value) (t : List (Exchange Reply)) (status : Int) : Prop :=
  ∃ url target r, Requests config context url target r ∧ t = [⟨.send r, .answered status⟩]

theorem result_answered (whole : target.isAbsolute = true) (status : Int) :
    result url target (.answered status) =
      if LetThrough status then .ok (output url status) else specified url status := by
  rw [result, whole, if_neg (by decide), specified]
  by_cases through : LetThrough status
  · rw [if_pos through]
    unfold LetThrough at through
    rw [if_neg (by omega)]
    rfl
  · rw [if_neg through]
    unfold LetThrough at through
    by_cases refused : 400 ≤ status
    · rw [if_pos refused, if_neg (by omega)]
    · rw [if_neg refused, if_pos (by omega)]
      rfl

/-- A status below 400 is all that it takes. -/
theorem result_answered_ok_iff (whole : target.isAbsolute = true) :
    (∃ fields, result url target (.answered status) = .ok fields) ↔ status < 400 := by
  rw [result, whole, if_neg (by decide)]
  by_cases refused : 400 ≤ status
  · rw [if_pos refused]
    exact ⟨nofun, fun below => by omega⟩
  · rw [if_neg refused]
    exact ⟨fun _ => by omega, fun _ => ⟨_, rfl⟩⟩

theorem ends_sending :
    (do return result url target (← send r) : Task (Except Failure Fields)).Ends t res ↔
      ∃ delivery, t = [⟨.send r, delivery⟩] ∧ res = result url target delivery := by
  constructor
  · intro h
    obtain ⟨delivery, _, done, rfl⟩ := ends_ask_andThen.mp h
    obtain ⟨rfl, rfl⟩ := ends_pure.mp done
    exact ⟨delivery, rfl, rfl⟩
  · rintro ⟨delivery, rfl, rfl⟩
    exact ends_ask_andThen.mpr ⟨delivery, [], ends_pure.mpr ⟨rfl, rfl⟩, rfl⟩

theorem Requests.ends_handle (h : Requests config context url target r)
    (enabled : settings.webhooksEnabled = true) :
    (handle settings config context).Ends t res ↔
      ∃ delivery, t = [⟨.send r, delivery⟩] ∧ res = result url target delivery := by
  rw [← ends_sending, handle, h.addressed]
  simp only [if_neg h.given, enabled, h.composed, Bool.not_true, Bool.false_eq_true, if_false]

/-- The answer is treated as specified unless it is let through. -/
theorem Requests.ends_answered
    (h : Requests config context url target r) (enabled : settings.webhooksEnabled = true)
    (status : Int) :
    (handle settings config context).Ends [⟨.send r, .answered status⟩] res ↔
      res = if LetThrough status then .ok (output url status) else specified url status := by
  rw [h.ends_handle enabled, ← result_answered h.whole]
  constructor
  · rintro ⟨delivery, same, rfl⟩
    cases same
    rfl
  · rintro rfl
    exact ⟨_, rfl, rfl⟩

theorem handled_answered (enabled : settings.webhooksEnabled = true)
    (h : (handle settings config context).Ends t res) (answers : Answers config context t status) :
    ∃ url, res = if LetThrough status then .ok (output url status) else specified url status := by
  obtain ⟨url, target, r, requests, rfl⟩ := answers
  exact ⟨url, (requests.ends_answered enabled status).mp h⟩

/-- A call succeeds exactly if it is answered with a status below 400. -/
theorem handled_ok_iff (enabled : settings.webhooksEnabled = true)
    (h : (handle settings config context).Ends t res) :
    (∃ fields, res = .ok fields) ↔ ∃ status, Answers config context t status ∧ status < 400 := by
  constructor
  · rintro ⟨fields, rfl⟩
    unfold handle at h
    split at h
    · cases (ends_pure.mp h).2
    next url addressed =>
    split at h
    · cases (ends_pure.mp h).2
    next given =>
    rw [enabled, if_neg (by decide)] at h
    split at h
    · cases (ends_pure.mp h).2
    next target r composed =>
    obtain ⟨delivery, rfl, success⟩ := ends_sending.mp h
    cases delivery with
    | lost | broken => cases success
    | answered status =>
        by_cases whole : target.isAbsolute = true
        · refine ⟨status, ⟨url, target, r, ⟨addressed, given, composed, whole⟩, rfl⟩, ?_⟩
          exact (result_answered_ok_iff whole).mp ⟨fields, success.symm⟩
        · rw [result, Bool.eq_false_iff.mpr whole] at success
          cases success
  · rintro ⟨status, ⟨url, target, r, requests, rfl⟩, below⟩
    obtain ⟨delivery, same, rfl⟩ := (requests.ends_handle enabled).mp h
    cases same
    exact (result_answered_ok_iff requests.whole).mpr below

end Webhook
end TriggerFlow.Action
