import Mathlib.Data.List.Forall2
import TriggerFlow.Proofs.Template.Tokens

/-!
What rendering does to a text. A layout of a text cuts it into its tokens and the characters outside
them; rendering shows each token as the text of the value at its path, or as it stands where the
path leads nowhere, and each other character as it is.
-/

namespace TriggerFlow.Template

/-- A part of a text: a character outside the tokens, or a token with the name in it. -/
inductive Part
  | char (c : Char)
  | token (name source : List Char)

def Part.source : Part → List Char
  | char c => [c]
  | token _ source => source

/-- `Layout cs parts`: the parts make up the text, and its tokens are among them, each in its
place. -/
structure Layout (cs : List Char) (parts : List Part) : Prop where
  whole : parts.flatMap Part.source = cs
  tokens : ∀ name source, Part.token name source ∈ parts → Token name source
  covers : ∀ before name source after, Token name source → cs = before ++ (source ++ after) →
    ∃ left right, parts = left ++ Part.token name source :: right ∧
      left.flatMap Part.source = before

/-- What a part is shown as. -/
inductive Shows (context : Value) : Part → List Char → Prop
  | char (c : Char) : Shows context (.char c) [c]
  | value {name source : List Char} {v : Value} {text : String}
      (found : Path.lookup context (String.ofList name) = .ok (some v))
      (written : v.text = .ok text) :
      Shows context (.token name source) text.toList
  | kept {name source : List Char} (lost : Path.lookup context (String.ofList name) = .ok none) :
      Shows context (.token name source) source

/-- Neither the look-up of a name nor the text of what is found fails. -/
def Clear (context : Value) (name : List Char) : Prop :=
  ∃ found, Path.lookup context (String.ofList name) = .ok found ∧
    ∀ v, found = some v → ∃ text, v.text = .ok text

variable {context : Value} {c : Char} {cs rest name name' source source' shown before before' after
  after' : List Char} {piece : Piece} {parts : List Part} {path : List (List Char)} {n : Nat}

section Layouts

/-- The places of two tokens of one text are the same or apart. -/
theorem Token.apart (h : Token name source) (h' : Token name' source')
    (same : before ++ (source ++ after) = before' ++ (source' ++ after')) :
    before = before' ∧ source = source' ∨ (before ++ source).length ≤ before'.length ∨
      (before' ++ source').length ≤ before.length := by
  obtain ⟨d, rfl, behind⟩ | ⟨d, rfl, behind⟩ := List.append_eq_append_iff.mp same
  · by_cases empty : d = []
    · subst empty
      exact .inl ⟨(List.append_nil _).symm, (h.unique h' behind).2⟩
    · have inside := h.not_inside h' behind empty
      rw [List.length_append, List.length_append]
      omega
  · by_cases empty : d = []
    · subst empty
      exact .inl ⟨List.append_nil _, (h.unique h' behind.symm).2⟩
    · have inside := h'.not_inside h behind empty
      rw [List.length_append, List.length_append, List.length_append]
      omega

namespace Layout

theorem nil : Layout [] [] := by
  refine ⟨rfl, by simp, fun before name source after token same => ?_⟩
  have empty := (List.append_eq_nil_iff.mp same.symm).2
  exact absurd (List.append_eq_nil_iff.mp empty).1 token.ne_nil

theorem cons_token (token : Token name source) (layout : Layout rest parts) :
    Layout (source ++ rest) (.token name source :: parts) := by
  refine ⟨by rw [List.flatMap_cons, layout.whole]; rfl, ?_, ?_⟩
  · intro name' source' mem
    obtain same | mem := List.mem_cons.mp mem
    · cases same
      exact token
    · exact layout.tokens name' source' mem
  · intro before name' source' after token' same
    by_cases first : before = []
    · subst first
      obtain ⟨rfl, rfl⟩ := token.unique token' same
      exact ⟨[], parts, rfl, rfl⟩
    · have behind := token.not_inside token' same first
      obtain ⟨before', rfl, same'⟩ : ∃ before', before = source ++ before' ∧
          rest = before' ++ (source' ++ after) := by
        obtain ⟨before', whole, same'⟩ | ⟨d, whole, same'⟩ := List.append_eq_append_iff.mp same
        · exact ⟨before', whole, same'⟩
        · have empty : d = [] := by
            rw [whole, List.length_append] at behind
            exact List.eq_nil_of_length_eq_zero (by omega)
          subst empty
          exact ⟨[], by rw [whole]; simp, same'.symm⟩
      obtain ⟨left, right, rfl, counted⟩ := layout.covers before' name' source' after token' same'
      exact ⟨.token name source :: left, right, rfl, by rw [List.flatMap_cons, counted]; rfl⟩

theorem cons_char (plain : ∀ name source after, Token name source → c :: rest ≠ source ++ after)
    (layout : Layout rest parts) : Layout (c :: rest) (.char c :: parts) := by
  refine ⟨by rw [List.flatMap_cons, layout.whole]; rfl, ?_, ?_⟩
  · intro name source mem
    obtain same | mem := List.mem_cons.mp mem
    · cases same
    · exact layout.tokens name source mem
  · intro before name source after token same
    cases before with
    | nil => exact absurd same (plain name source after token)
    | cons x before =>
      rw [List.cons_append, List.cons.injEq] at same
      obtain ⟨rfl, same⟩ := same
      obtain ⟨left, right, rfl, counted⟩ := layout.covers before name source after token same
      exact ⟨.char c :: left, right, rfl, by rw [List.flatMap_cons, counted]; rfl⟩

end Layout
end Layouts

section Rendering

theorem piecesAfter_eq_drop (n : Nat) (cs : List Char) : piecesAfter n cs = pieces (cs.drop n) := by
  induction cs generalizing n with
  | nil =>
      rw [List.drop_nil]
      cases n <;> rfl
  | cons c cs ih =>
      cases n with
      | zero => rfl
      | succ n => exact ih n

theorem pieces_token (token : Token name source) (rest : List Char) :
    pieces (source ++ rest) = .token (Text.splitAt '.' name) source :: pieces rest := by
  have found := tokenAt?_of_token token rest
  obtain ⟨c, cs, rfl⟩ := List.exists_cons_of_ne_nil token.ne_nil
  rw [List.cons_append] at found ⊢
  have passed : (cs ++ rest).drop ((c :: cs).length - 1) = rest := List.drop_left
  rw [pieces, piecesAfter, found]
  show Piece.token _ (((c :: cs) ++ rest).take _) :: piecesAfter _ _ = _
  rw [List.take_left, piecesAfter_eq_drop, passed]

theorem pieces_char (plain : tokenAt? (c :: rest) = none) :
    pieces (c :: rest) = .char c :: pieces rest := by
  rw [pieces, piecesAfter, plain]
  rfl

theorem renderChars_cons (cut : pieces cs = piece :: pieces rest)
    (first : piece.render context = .ok shown) (more : renderChars context rest = .ok after) :
    renderChars context cs = .ok (shown ++ after) := by
  rw [renderChars] at more
  rw [renderChars, cut, List.mapM_cons, first]
  cases tail : (pieces rest).mapM (Piece.render context) with
  | error f =>
      rw [tail] at more
      cases more
  | ok texts =>
      rw [tail] at more
      cases more
      rfl

/-- A token whose look-up is clear is rendered as it is shown. -/
theorem Clear.exists_shown (clear : Clear context name) (source : List Char) :
    ∃ shown, Shows context (.token name source) shown ∧
      (Piece.token (Text.splitAt '.' name) source).render context = .ok shown := by
  obtain ⟨found, looked, written⟩ := clear
  have walked := looked
  rw [Path.lookup, Path.segments, String.toList_ofList] at walked
  rw [Piece.render, walked]
  cases found with
  | none => exact ⟨source, .kept looked, rfl⟩
  | some v =>
      obtain ⟨text, written⟩ := written v rfl
      refine ⟨text.toList, .value looked written, ?_⟩
      show (v.text >>= fun text => pure text.toList) = _
      rw [written]
      rfl

theorem plain_of_tokenAt? (h : tokenAt? cs = none) (name source after : List Char)
    (token : Token name source) : cs ≠ source ++ after := by
  rintro rfl
  cases h.symm.trans (tokenAt?_of_token token after)

/-- By the length of the text: what is behind its first token or character is laid out and shown. -/
theorem exists_layout (cs : List Char)
    (clear : ∀ name source, Token name source → source <:+: cs → Clear context name) :
    ∃ parts texts, Layout cs parts ∧ List.Forall₂ (Shows context) parts texts ∧
      renderChars context cs = .ok texts.flatten := by
  induction length : cs.length using Nat.strongRecOn generalizing cs with
  | ind n ih =>
      subst length
      cases found : tokenAt? cs with
      | some token =>
        obtain ⟨name, source, rest, token, rfl, -⟩ := exists_token_of_tokenAt? found
        have shorter : rest.length < (source ++ rest).length := by
          have filled := List.length_pos_iff.mpr token.ne_nil
          rw [List.length_append]
          omega
        obtain ⟨parts, texts, layout, shows, rendered⟩ := ih _ shorter rest
          (fun name' source' token' inside =>
            clear name' source' token' (inside.trans (List.suffix_append _ _).isInfix)) rfl
        obtain ⟨shown, shows', rendered'⟩ :=
          (clear name source token (List.prefix_append _ _).isInfix).exists_shown source
        exact ⟨_, _, layout.cons_token token, .cons shows' shows,
          renderChars_cons (pieces_token token rest) rendered' rendered⟩
      | none =>
        cases cs with
        | nil => exact ⟨[], [], .nil, .nil, rfl⟩
        | cons c rest =>
          obtain ⟨parts, texts, layout, shows, rendered⟩ := ih _ (Nat.lt_succ_self _) rest
            (fun name' source' token' inside =>
              clear name' source' token' (inside.trans (List.suffix_cons _ _).isInfix)) rfl
          exact ⟨_, _, layout.cons_char (plain_of_tokenAt? found), .cons (.char c) shows,
            renderChars_cons (pieces_char found) rfl rendered⟩

end Rendering

/-- The tokens of a text are apart. Where none of them fails, the text has a layout, and rendering
shows its parts one after the other: tokens as the text of their value, or as they stand, and
everything else unchanged. -/
theorem render_replaces_tokens (context : Value) (template : String)
    (clear : ∀ name source, Token name source → source <:+: template.toList → Clear context name) :
    (∀ before name source after before' name' source' after', Token name source →
      Token name' source' → template.toList = before ++ (source ++ after) →
      template.toList = before' ++ (source' ++ after') →
      before = before' ∧ source = source' ∨ (before ++ source).length ≤ before'.length ∨
        (before' ++ source').length ≤ before.length) ∧
    ∃ parts texts, Layout template.toList parts ∧ List.Forall₂ (Shows context) parts texts ∧
      render context template = .ok (String.ofList texts.flatten) := by
  refine ⟨fun _ _ _ _ _ _ _ _ token token' place place' =>
    token.apart token' (place.symm.trans place'), ?_⟩
  obtain ⟨parts, texts, layout, shows, rendered⟩ := exists_layout template.toList clear
  refine ⟨parts, texts, layout, shows, ?_⟩
  rw [render, rendered]
  rfl

/-- Where all values are texts, nothing fails. -/
theorem clear_of_texts {fs : Fields} (texts : ∀ f ∈ fs, ∃ s, f.2 = .str s) (name : List Char) :
    Clear (.obj fs) name := by
  obtain ⟨first, rest, split⟩ := List.exists_cons_of_ne_nil (Text.splitAt_ne_nil '.' name)
  have looked : Path.lookup (.obj fs) (String.ofList name) =
      Path.walk (.obj fs) (first :: rest) := by
    rw [Path.lookup, Path.segments, String.toList_ofList, split]
  rw [Path.walk, Path.step] at looked
  cases found : Fields.get? fs (String.ofList first) with
  | none =>
      rw [found] at looked
      exact ⟨none, looked, fun _ same => by cases same⟩
  | some w =>
      obtain ⟨left, right, rfl, -⟩ := List.lookup_eq_some_iff.mp found
      obtain ⟨s, rfl⟩ : ∃ s, w = .str s := texts (_, w) (List.mem_append_right _ List.mem_cons_self)
      rw [found] at looked
      cases rest with
      | nil => exact ⟨some (.str s), looked, fun v same => ⟨s, by cases same; rfl⟩⟩
      | cons segment rest => exact ⟨none, looked, fun _ same => by cases same⟩

/-- Three braces, a value that looks like a token itself, and braces that are not closed. -/
theorem render_replaces_tokens_nested :
    let context : Value := .obj [("a", .str "\x7b\x7bb\x7d\x7d"), ("b", .str "x")]
    let template := "\x7b\x7b\x7ba\x7d\x7d\x7d \x7b\x7b b \x7d\x7d \x7b\x7bb.c\x7d\x7d \x7b\x7ba"
    (∀ name source, Token name source → source <:+: template.toList → Clear context name) ∧
    (∃ parts texts, Layout template.toList parts ∧ List.Forall₂ (Shows context) parts texts ∧
      render context template = .ok (String.ofList texts.flatten)) ∧
    render context template =
      .ok "\x7b\x7b\x7bb\x7d\x7d\x7d x \x7b\x7bb.c\x7d\x7d \x7b\x7ba" := by
  intro context template
  have clear (name source : List Char) (_ : Token name source)
      (_ : source <:+: template.toList) : Clear context name :=
    clear_of_texts (by simp) name
  exact ⟨clear, (render_replaces_tokens context template clear).2, by decide +kernel⟩

end TriggerFlow.Template
