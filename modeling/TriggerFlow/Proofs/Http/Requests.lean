import TriggerFlow.Http.Api
import TriggerFlow.Proofs.Json.Reread

/-!
Requests as the service takes them. The text of a document is taken for UTF-8, since it begins with
two ASCII characters, and is read from a body as the document that it is of; a request whose parts
are in order is carried out as the operation that it asks for.
-/

namespace TriggerFlow.Http

open Engine

variable {allowed : Binary64 → Prop} {style : Json.Style} {fs : Fields} {text : String} {v : Value}
  {r : Request} {api : Api} {o : Operation} {method tenant : String} {α : Type}

namespace Body

theorem encodingOf_of_ne_zero {a b : Nat} (first : a ≠ 0) (second : b ≠ 0) (rest : List Nat) :
    encodingOf (a :: b :: rest) = .utf8 := by
  match rest with
  | [] | _ :: _ :: _ => simp [encodingOf, first, second]
  | [_] => rfl

/-- What begins as a document does is taken as it is. -/
theorem characters?_of_opens {c : Char} (opens : c = '"' ∨ c = '\x7d') (more : List Char) :
    characters? (String.ofList ('\x7b' :: c :: more)) = some ('\x7b' :: c :: more) := by
  have brace : Percent.utf8 '\x7b' = [0x7b] := by decide
  have next : ∃ n, n ≠ 0 ∧ Percent.utf8 c = [n] := by
    obtain rfl | rfl := opens
    · exact ⟨0x22, by decide, by decide⟩
    · exact ⟨0x7d, by decide, by decide⟩
  obtain ⟨n, filled, byte⟩ := next
  have utf8 : encodingOf (('\x7b' :: c :: more).flatMap Percent.utf8) = .utf8 := by
    rw [List.flatMap_cons, List.flatMap_cons, brace, byte]
    exact encodingOf_of_ne_zero (by decide) filled _
  unfold characters?
  rw [String.toList_ofList]
  dsimp only
  split
  · next same => cases same
  · rw [utf8]

/-- A document is read from a body that holds its text. -/
theorem read_of_written (separates : style.Separates) (spellable : (Value.obj fs).Spellable allowed)
    (written : Json.write style (.obj fs) = .ok text) : read text = .ok (.obj fs) := by
  cases chars : Json.writeChars style (.obj fs) with
  | error f =>
      rw [Json.write, chars] at written
      cases written
  | ok cs =>
      rw [Json.write, chars] at written
      cases written
      have again := Json.readChars_of_written separates spellable chars
      obtain ⟨inner, inner_written, rfl⟩ := Json.writeChars_obj.mp chars
      have opens : ∃ c more, inner ++ ['\x7d'] = c :: more ∧ (c = '"' ∨ c = '\x7d') := by
        cases fs with
        | nil =>
            cases inner_written
            exact ⟨_, _, rfl, .inr rfl⟩
        | cons f fs =>
            obtain ⟨head, tail, -, -, rfl⟩ := Json.writeFields_first.mp inner_written
            exact ⟨_, _, rfl, .inl rfl⟩
      obtain ⟨c, more, same, opens⟩ := opens
      rw [same] at again ⊢
      rw [read, characters?_of_opens opens]
      dsimp only
      rw [again]

end Body

/-- A request that says of its body that it is JSON. -/
def Request.BringsJson (r : Request) : Prop :=
  (r.header? "content-type").any Body.namesJson = true

theorem content_of_read (json : r.BringsJson) (read : Body.read r.body = .ok v) :
    content r = .ok (some v) := by
  have filled : r.body ≠ "" := by
    intro empty
    rw [empty] at read
    cases read
  rw [content, if_neg filled, if_neg (by rw [show _ = true from json]; decide), read]

/-- A request of a tenant for an operation. -/
structure Request.Asks (r : Request) (method : String) (o : Operation) (tenant : String) :
    Prop where
  method : r.method = method
  routed : route r.method r.segments = .found o
  tenant : r.header? "x-tenant-id" = some tenant

theorem answer_of_asks (asks : r.Asks method o tenant) :
    answer api r = Response.sent method <$> perform api r o := by
  rw [answer, asks.routed, asks.method]

theorem sent_document {f : α → Value} {a : α} {status : Nat} (plain : (f a).IsPlain)
    (unicode : (f a).isUnicode = true) :
    Response.sent "GET" (document status f a) = .json status (f a) := by
  rw [document, plain.plain_eq, Response.sent, unicode]
  rfl

theorem withoutBody_of_asks (ready : api.ready = true) (asks : r.Asks method o tenant)
    (work : String → Work Response) : withoutBody api r work = work tenant := by
  rw [withoutBody, Http.tenant, asks.tenant]
  exact if_pos ready

theorem withBody_of_asks (ready : api.ready = true) (asks : r.Asks method o tenant)
    {schema : Option Value → Reading α} {body : Option Value} {a : α}
    (brought : content r = .ok body) (read : schema body = .value a)
    (work : String → α → Work Response) :
    withBody api r schema work = work tenant a := by
  rw [withBody, brought]
  dsimp only
  rw [read, Http.tenant, asks.tenant]
  exact if_pos ready

end TriggerFlow.Http
