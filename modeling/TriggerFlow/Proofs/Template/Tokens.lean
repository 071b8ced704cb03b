import TriggerFlow.Template

/-!
The grammar of tokens, and where tokens stand in a text. A token is a dotted name in double braces
with blanks around it; as it has no brace inside, two tokens of one text never overlap, and the
scanner finds a token at a place exactly where the grammar has one.
-/

namespace TriggerFlow.Template

/-- Word characters, at least one. -/
def IsName (cs : List Char) : Prop := cs ≠ [] ∧ ∀ c ∈ cs, Text.isWord c = true

/-- Names with single points between them. -/
inductive Dotted : List Char → Prop
  | name {cs : List Char} (h : IsName cs) : Dotted cs
  | point {cs rest : List Char} (h : IsName cs) (more : Dotted rest) : Dotted (cs ++ '.' :: rest)

/-- `Token name source`: the text `source` is a token, and `name` is the dotted name in it. -/
inductive Token : List Char → List Char → Prop
  | braces {before name after : List Char} (blank : ∀ c ∈ before, Text.isBlank c = true)
      (dotted : Dotted name) (blank' : ∀ c ∈ after, Text.isBlank c = true) :
      Token name ('\x7b' :: '\x7b' :: (before ++ (name ++ (after ++ ['\x7d', '\x7d']))))

variable {c : Char} {cs d m rest inner name name' source source' a b a' b' : List Char}
  {path : List (List Char)} {n : Nat}

section Characters

theorem isBlank_of_isWord (h : Text.isWord c = true) : Text.isBlank c = false :=
  Text.not_inRanges_of_apart (by decide +kernel) h

def isNameChar (c : Char) : Bool := Text.isWord c || c = '.'

/-- Points and braces belong to no word and are not blank. -/
theorem of_mem_marks (mark : c ∈ ['.', '\x7b', '\x7d']) :
    Text.isWord c = false ∧ Text.isBlank c = false := by
  have foreign : (['.', '\x7b', '\x7d'].all fun c => !Text.isWord c && !Text.isBlank c) = true := by
    decide +kernel
  simpa using List.all_eq_true.mp foreign c mark

theorem isNameChar_of_isBlank (h : Text.isBlank c = true) : isNameChar c = false := by
  have point : c ≠ '.' := by
    rintro rfl
    cases h.symm.trans (of_mem_marks (by decide)).2
  have word : Text.isWord c = false := by
    rw [Bool.eq_false_iff]
    intro word
    cases (isBlank_of_isWord word).symm.trans h
  simp [isNameChar, word, point]

theorem ne_brace_of_isWord (h : Text.isWord c = true) : c ≠ '\x7b' ∧ c ≠ '\x7d' := by
  constructor
  · rintro rfl
    cases h.symm.trans (of_mem_marks (by decide)).1
  · rintro rfl
    cases h.symm.trans (of_mem_marks (by decide)).1

theorem ne_brace_of_isBlank (h : Text.isBlank c = true) : c ≠ '\x7b' ∧ c ≠ '\x7d' := by
  constructor
  · rintro rfl
    cases h.symm.trans (of_mem_marks (by decide)).2
  · rintro rfl
    cases h.symm.trans (of_mem_marks (by decide)).2

theorem brace_not_nameChar : isNameChar '\x7d' = false := by
  simp [isNameChar, of_mem_marks]

end Characters

section Names

theorem splitAt_of_not_mem {sep : Char} (h : sep ∉ cs) : Text.splitAt sep cs = [cs] := by
  induction cs with
  | nil => rfl
  | cons c cs ih =>
      rw [List.mem_cons, not_or] at h
      rw [Text.splitAt, ih h.2]
      exact if_neg (Ne.symm h.1)

theorem splitAt_append {sep : Char} (h : sep ∉ cs) :
    Text.splitAt sep (cs ++ sep :: rest) = cs :: Text.splitAt sep rest := by
  induction cs with
  | nil =>
      rw [List.nil_append, Text.splitAt]
      cases split : Text.splitAt sep rest with
      | nil => exact absurd split (Text.splitAt_ne_nil sep rest)
      | cons piece pieces => exact if_pos rfl
  | cons c cs ih =>
      rw [List.mem_cons, not_or] at h
      rw [List.cons_append, Text.splitAt, ih h.2]
      exact if_neg (Ne.symm h.1)

theorem IsName.point_not_mem (h : IsName cs) : '.' ∉ cs := by
  intro point
  cases (h.2 _ point).symm.trans (of_mem_marks List.mem_cons_self).1

theorem IsName.isNameChar (h : IsName cs) : ∀ c ∈ cs, Template.isNameChar c = true := by
  intro c hc
  rw [Template.isNameChar, h.2 c hc, Bool.true_or]

namespace Dotted

theorem isNameChar (h : Dotted name) : ∀ c ∈ name, Template.isNameChar c = true := by
  induction h with
  | name h => exact h.isNameChar
  | point h _ ih =>
      rw [List.forall_mem_append, List.forall_mem_cons]
      exact ⟨h.isNameChar, by simp [Template.isNameChar], ih⟩

theorem exists_cons (h : Dotted name) : ∃ c cs, name = c :: cs ∧ Text.isWord c = true := by
  have first {cs : List Char} (h : IsName cs) :
      ∃ c rest, cs = c :: rest ∧ Text.isWord c = true := by
    obtain ⟨c, rest, rfl⟩ := List.exists_cons_of_ne_nil h.1
    exact ⟨c, rest, rfl, h.2 c List.mem_cons_self⟩
  cases h with
  | name h => exact first h
  | point h more =>
      obtain ⟨c, cs, rfl, word⟩ := first h
      exact ⟨c, _, rfl, word⟩

theorem segments (h : Dotted name) : (Text.splitAt '.' name).any List.isEmpty = false := by
  induction h with
  | name h =>
      rw [splitAt_of_not_mem h.point_not_mem]
      simpa using h.1
  | point h _ ih =>
      rw [splitAt_append h.point_not_mem, List.any_cons, ih, Bool.or_false]
      simpa using h.1

end Dotted

theorem isName_of_isNameChar (chars : ∀ c ∈ cs, isNameChar c = true) (point : '.' ∉ cs)
    (filled : cs ≠ []) : IsName cs := by
  refine ⟨filled, fun c hc => ?_⟩
  have either := chars c hc
  rw [isNameChar, Bool.or_eq_true, decide_eq_true_eq] at either
  refine either.resolve_right ?_
  rintro rfl
  exact point hc

theorem dotted_of_segments (chars : ∀ c ∈ cs, isNameChar c = true)
    (filled : (Text.splitAt '.' cs).any List.isEmpty = false) : Dotted cs := by
  -- by the length of the text, from one point to the next
  induction length : cs.length using Nat.strongRecOn generalizing cs with
  | ind n ih =>
      subst length
      by_cases point : '.' ∈ cs
      · obtain ⟨first, rest, rfl, away⟩ := List.eq_append_cons_of_mem point
        rw [splitAt_append away, List.any_cons, Bool.or_eq_false_iff] at filled
        rw [List.forall_mem_append, List.forall_mem_cons] at chars
        have name := isName_of_isNameChar chars.1 away (by simpa using filled.1)
        refine .point name (ih _ ?_ chars.2.2 filled.2 rfl)
        rw [List.length_append, List.length_cons]
        omega
      · rw [splitAt_of_not_mem point] at filled
        exact .name (isName_of_isNameChar chars point (by simpa using filled))

end Names

section Scanning

/-- A token as its braces and what is inside them, where no brace is. -/
theorem Token.exists_inner (h : Token name source) :
    ∃ inner, source = '\x7b' :: '\x7b' :: (inner ++ ['\x7d', '\x7d']) ∧ inner ≠ [] ∧
      ∀ c ∈ inner, c ≠ '\x7b' ∧ c ≠ '\x7d' := by
  cases h with
  | @braces before name after blank dotted blank' =>
      refine ⟨before ++ (name ++ after), by simp, ?_, ?_⟩
      · obtain ⟨c, cs, rfl, -⟩ := dotted.exists_cons
        simp
      · simp only [List.forall_mem_append]
        refine ⟨fun c hc => ne_brace_of_isBlank (blank c hc), fun c hc => ?_,
          fun c hc => ne_brace_of_isBlank (blank' c hc)⟩
        have either := dotted.isNameChar c hc
        rw [isNameChar, Bool.or_eq_true, decide_eq_true_eq] at either
        obtain word | rfl := either
        · exact ne_brace_of_isWord word
        · decide

/-- A run of characters of a kind is taken as a whole, up to one that is not of the kind. -/
theorem takeWhile_run {p : Char → Bool} (run : ∀ c ∈ cs, p c = true) (stop : p c = false) :
    (cs ++ c :: rest).takeWhile p = cs := by
  rw [List.takeWhile_append_of_pos run, List.takeWhile_cons_of_neg (by simp [stop]),
    List.append_nil]

theorem dropWhile_run {p : Char → Bool} (run : ∀ c ∈ cs, p c = true) (stop : p c = false) :
    (cs ++ c :: rest).dropWhile p = c :: rest := by
  rw [List.dropWhile_append_of_pos run, List.dropWhile_cons_of_neg (by simp [stop])]

theorem exists_run (p : Char → Bool) (cs : List Char) :
    ∃ run, cs = run ++ cs.dropWhile p ∧ cs.takeWhile p = run ∧ ∀ c ∈ run, p c = true :=
  ⟨_, List.takeWhile_append_dropWhile.symm, rfl, List.all_eq_true.mp List.all_takeWhile⟩

theorem dottedName?_of_dotted (dotted : Dotted name) (stop : isNameChar c = false) :
    dottedName? (name ++ c :: rest) = some (Text.splitAt '.' name, c :: rest) := by
  have taken : (name ++ c :: rest).takeWhile isNameChar = name :=
    takeWhile_run dotted.isNameChar stop
  have left : (name ++ c :: rest).dropWhile isNameChar = c :: rest :=
    dropWhile_run dotted.isNameChar stop
  show (if (Text.splitAt '.' ((name ++ c :: rest).takeWhile isNameChar)).any List.isEmpty then none
    else some (Text.splitAt '.' ((name ++ c :: rest).takeWhile isNameChar),
      (name ++ c :: rest).dropWhile isNameChar)) = _
  rw [taken, left, dotted.segments]
  rfl

/-- After blanks and a brace, there is neither a blank nor a character of a name. -/
theorem exists_closing (blank : ∀ c ∈ cs, Text.isBlank c = true) (rest : List Char) :
    ∃ c more, cs ++ '\x7d' :: rest = c :: more ∧ isNameChar c = false := by
  cases cs with
  | nil => exact ⟨_, _, rfl, brace_not_nameChar⟩
  | cons c cs => exact ⟨c, _, rfl, isNameChar_of_isBlank (blank c List.mem_cons_self)⟩

/-- Where the grammar has a token, the scanner finds it. -/
theorem tokenAt?_of_token (h : Token name source) (rest : List Char) :
    tokenAt? (source ++ rest) = some (Text.splitAt '.' name, source.length) := by
  cases h with
  | @braces before name after blank dotted blank' =>
      obtain ⟨first, name', same, word⟩ := dotted.exists_cons
      obtain ⟨c, more, closing, stop⟩ := exists_closing blank' ('\x7d' :: rest)
      have named :
          (before ++ (name ++ (after ++ ['\x7d', '\x7d'])) ++ rest).dropWhile Text.isBlank =
            name ++ c :: more := by
        rw [← closing, same, List.append_assoc, List.cons_append, List.cons_append,
          dropWhile_run blank (isBlank_of_isWord word)]
        simp
      have closed : (c :: more).dropWhile Text.isBlank = '\x7d' :: '\x7d' :: rest := by
        rw [← closing, dropWhile_run blank' (of_mem_marks (by decide)).2]
      simp only [List.cons_append, tokenAt?, named, dottedName?_of_dotted dotted stop, closed,
        Option.bind_eq_bind, Option.bind_some, Option.some.injEq, Prod.mk.injEq, true_and]
      simp only [List.length_append, List.length_cons, List.length_nil]
      omega

theorem exists_dotted_of_dottedName? (h : dottedName? cs = some (path, rest)) :
    ∃ name, Dotted name ∧ cs = name ++ rest ∧ path = Text.splitAt '.' name := by
  obtain ⟨name, whole, taken, chars⟩ := exists_run isNameChar cs
  change (if (Text.splitAt '.' (cs.takeWhile isNameChar)).any List.isEmpty then none
    else some (Text.splitAt '.' (cs.takeWhile isNameChar), cs.dropWhile isNameChar)) = _ at h
  rw [taken] at h
  split at h
  · cases h
  · next filled =>
    cases h
    exact ⟨name, dotted_of_segments chars (Bool.eq_false_iff.mpr filled), whole, rfl⟩

/-- Where the scanner finds a token, the grammar has it. -/
theorem exists_token_of_tokenAt? (h : tokenAt? cs = some (path, n)) :
    ∃ name source rest, Token name source ∧ cs = source ++ rest ∧ path = Text.splitAt '.' name ∧
      n = source.length := by
  unfold tokenAt? at h
  split at h
  · next inner =>
    obtain ⟨before, whole, -, blank⟩ := exists_run Text.isBlank inner
    simp only [Option.bind_eq_bind, Option.bind_eq_some_iff, Prod.exists] at h
    obtain ⟨path', rest, found, h⟩ := h
    obtain ⟨name, dotted, named, rfl⟩ := exists_dotted_of_dottedName? found
    obtain ⟨after, closing, -, blank'⟩ := exists_run Text.isBlank rest
    split at h
    · next more closed =>
      cases h
      rw [closed] at closing
      have same : '\x7b' :: '\x7b' :: inner =
          '\x7b' :: '\x7b' :: (before ++ (name ++ (after ++ ['\x7d', '\x7d']))) ++ more := by
        rw [whole, named, closing]
        simp
      refine ⟨name, _, more, .braces blank dotted blank', same, rfl, ?_⟩
      rw [same, List.length_append, Nat.add_sub_cancel]
    · cases h
  · cases h

end Scanning

section Places

theorem Token.ne_nil (h : Token name source) : source ≠ [] := by
  cases h with
  | braces => exact List.cons_ne_nil _ _

/-- The first closing brace is the end of a token. -/
theorem eq_of_closing (apart : ∀ c ∈ cs, c ≠ '\x7d') (apart' : ∀ c ∈ d, c ≠ '\x7d')
    (same : cs ++ '\x7d' :: a = d ++ '\x7d' :: b) : cs = d := by
  have taken {cs a : List Char} (apart : ∀ c ∈ cs, c ≠ '\x7d') :
      (cs ++ '\x7d' :: a).takeWhile (· != '\x7d') = cs :=
    takeWhile_run (fun c hc => by simpa using apart c hc) rfl
  rw [← taken (a := a) apart, same, taken apart']

theorem Token.same_name (h : Token name source) (h' : Token name' source) : name = name' := by
  have read {name source : List Char} (h : Token name source) :
      (((source.drop 2).dropWhile Text.isBlank).takeWhile isNameChar) = name := by
    cases h with
    | @braces before name after blank dotted blank' =>
        obtain ⟨c, cs, rfl, word⟩ := dotted.exists_cons
        obtain ⟨x, more, closing, stop⟩ := exists_closing blank' ['\x7d']
        rw [List.drop_succ_cons, List.drop_succ_cons, List.drop_zero, List.cons_append,
          dropWhile_run blank (isBlank_of_isWord word), closing, ← List.cons_append,
          takeWhile_run dotted.isNameChar stop]
  rw [← read h, read h']

/-- Two tokens that start at the same place are the same. -/
theorem Token.unique (h : Token name source) (h' : Token name' source')
    (same : source ++ b = source' ++ b') : name = name' ∧ source = source' := by
  obtain ⟨inner, whole, -, apart⟩ := h.exists_inner
  obtain ⟨inner', whole', -, apart'⟩ := h'.exists_inner
  have equal : source = source' := by
    rw [whole, whole'] at same
    simp only [List.cons_append, List.append_assoc, List.nil_append, List.cons.injEq,
      true_and] at same
    rw [whole, whole',
      eq_of_closing (fun c hc => (apart c hc).2) (fun c hc => (apart' c hc).2) same]
  subst equal
  exact ⟨h.same_name h', rfl⟩

/-- No token starts inside another one. -/
theorem Token.not_inside (h : Token name source) (h' : Token name' source')
    (same : source ++ b = d ++ (source' ++ b')) (behind : d ≠ []) : source.length ≤ d.length := by
  obtain ⟨inner, rfl, filled, apart⟩ := h.exists_inner
  obtain ⟨inner', rfl, -, -⟩ := h'.exists_inner
  obtain ⟨m, rfl, -⟩ | ⟨m, whole, after⟩ := List.append_eq_append_iff.mp same
  · rw [List.length_append]
    exact Nat.le_add_right _ _
  · cases m with
    | nil => exact Nat.le_of_eq (by rw [whole, List.append_nil])
    | cons x m =>
      -- the second token would start after a brace of the first, but the name or the end is there
      exfalso
      simp only [List.cons_append, List.cons.injEq] at after
      obtain ⟨rfl, after⟩ := after
      match d, behind with
      | [_], _ =>
        simp only [List.cons_append, List.nil_append, List.cons.injEq] at whole
        obtain ⟨-, -, rfl⟩ := whole
        obtain ⟨c, inner, rfl⟩ := List.exists_cons_of_ne_nil filled
        rw [List.cons_append, List.cons_append, List.cons.injEq] at after
        exact (apart c List.mem_cons_self).1 after.1.symm
      | _ :: _ :: d, _ =>
        simp only [List.cons_append, List.cons.injEq] at whole
        have inside : '\x7b' ∈ inner ++ ['\x7d', '\x7d'] := by
          rw [whole.2.2]
          exact List.mem_append_right _ List.mem_cons_self
        obtain inside | inside := List.mem_append.mp inside
        · exact (apart _ inside).1 rfl
        · revert inside
          decide

end Places
end TriggerFlow.Template
