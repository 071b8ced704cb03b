import Mathlib.Data.List.Forall2
import Mathlib.Data.List.Infix
import TriggerFlow.Proofs.Text.LowerCase

/-!
Texts compared letter by letter, each letter in the lower case that it has alone. Lower case of a
whole text is not made that way: a capital sigma looks at its neighbours, and the dotted capital I
becomes two characters. A text is found alike by both comparisons exactly if its letters keep clear
of both.
-/

namespace TriggerFlow.Text

variable {before after cs ds text p q : List Char} {c d : Char}

/-- Two characters with the same lower case. -/
def SameLetter (c d : Char) : Prop := lowerChar c = lowerChar d

/-- The lower case of every character for itself. -/
def letters (cs : List Char) : List Char := cs.flatMap lowerChar

def IsSigma (c : Char) : Prop := lowerChar c = ['σ'] ∨ lowerChar c = ['ς']

/-- A text that lower case neither joins to its neighbours nor writes as it does not write its
letters: it does not begin or end within a dotted I and has none, and no sigma of a text with the
same letters ends a word, wherever that text stands. -/
structure Steady (cs : List Char) : Prop where
  first : ¬ ['\u0307'] <+: letters cs
  last : ¬ ['i'] <:+ letters cs
  undotted : ¬ ['i', '\u0307'] <:+: letters cs
  calm : ∀ ds, List.Forall₂ SameLetter cs ds → ∀ left c right, ds = left ++ c :: right →
    IsSigma c → ∀ before after, isFinal (left.reverse ++ before) (right ++ after) = false

section Letters

@[simp] theorem letters_nil : letters [] = [] := rfl

@[simp] theorem letters_cons : letters (c :: cs) = lowerChar c ++ letters cs := rfl

@[simp] theorem letters_append : letters (cs ++ ds) = letters cs ++ letters ds :=
  List.flatMap_append

theorem exists_lowerChar (undotted : c ≠ 'İ') : ∃ d, lowerChar c = [d] :=
  ⟨_, lowerChar_eq undotted⟩

theorem eq_of_sameLetter_dotted (same : SameLetter c 'İ') : c = 'İ' := by
  by_contra undotted
  obtain ⟨d, image⟩ := exists_lowerChar undotted
  rw [SameLetter, image] at same
  cases same

theorem isLower_of_mem_letters (mem : d ∈ letters cs) : IsLower d := by
  obtain ⟨c, -, mem⟩ := List.mem_flatMap.mp mem
  exact isLower_of_mem_lowerChar mem

theorem letters_of_isLower (lower : ∀ c ∈ cs, IsLower c) : letters cs = cs := by
  induction cs with
  | nil => rfl
  | cons c cs ih =>
      rw [letters_cons, lower c List.mem_cons_self,
        ih fun d mem => lower d (List.mem_cons_of_mem c mem)]
      rfl

theorem letters_eq_of_forall₂ (same : List.Forall₂ SameLetter cs ds) : letters cs = letters ds := by
  induction same with
  | nil => rfl
  | cons first _ ih => rw [letters_cons, letters_cons, first, ih]

theorem forall₂_refl (cs : List Char) : List.Forall₂ SameLetter cs cs :=
  List.forall₂_same.mpr fun _ _ => rfl

/-- Without the dotted I the letters of two texts can be told apart in what they are written as. -/
theorem forall₂_of_letters_eq (undotted : 'İ' ∉ cs) (undotted' : 'İ' ∉ ds)
    (same : letters cs = letters ds) : List.Forall₂ SameLetter cs ds := by
  induction cs generalizing ds with
  | nil =>
      cases ds with
      | nil => exact .nil
      | cons d ds => exact absurd (List.append_eq_nil_iff.mp same.symm).1 (lowerChar_ne_nil d)
  | cons c cs ih =>
      cases ds with
      | nil => exact absurd (List.append_eq_nil_iff.mp same).1 (lowerChar_ne_nil c)
      | cons d ds =>
          rw [List.mem_cons, not_or] at undotted undotted'
          obtain ⟨e, image⟩ := exists_lowerChar (Ne.symm undotted.1)
          obtain ⟨f, image'⟩ := exists_lowerChar (Ne.symm undotted'.1)
          rw [letters_cons, letters_cons, image, image'] at same
          obtain ⟨rfl, rest⟩ := List.cons.inj same
          exact .cons (image.trans image'.symm) (ih undotted.2 undotted'.2 rest)

theorem length_letters (undotted : 'İ' ∉ cs) : (letters cs).length = cs.length := by
  induction cs with
  | nil => rfl
  | cons c cs ih =>
      rw [List.mem_cons, not_or] at undotted
      obtain ⟨d, image⟩ := exists_lowerChar (Ne.symm undotted.1)
      rw [letters_cons, image, List.length_append, ih undotted.2, List.length_singleton,
        List.length_cons, Nat.add_comm]

/-- The letters of a text without the dotted I are a text of the same letters. -/
theorem forall₂_letters (undotted : 'İ' ∉ cs) : List.Forall₂ SameLetter cs (letters cs) := by
  have lower : ∀ d ∈ letters cs, IsLower d := fun _ mem => isLower_of_mem_letters mem
  refine forall₂_of_letters_eq undotted (fun mem => ?_) (letters_of_isLower lower).symm
  exact absurd (lower _ mem) (by decide)

theorem letters_eq_nil_iff : letters cs = [] ↔ cs = [] := by
  cases cs with
  | nil => exact Iff.rfl
  | cons c cs => simp [lowerChar_ne_nil]

theorem dotted_of_mem (mem : 'İ' ∈ cs) : ['i', '\u0307'] <:+: letters cs := by
  obtain ⟨left, right, rfl⟩ := List.append_of_mem mem
  rw [letters_append, letters_cons]
  exact ⟨letters left, letters right, by rw [List.append_assoc]; rfl⟩

theorem Steady.not_mem (h : Steady cs) : 'İ' ∉ cs := fun mem => h.undotted (dotted_of_mem mem)

end Letters

section Casing

/-- Two characters that the search for the end of a word takes for the same. -/
def Alike (c d : Char) : Prop := isCased c = isCased d ∧ isCaseIgnorable c = isCaseIgnorable d

instance : DecidableRel Alike := fun _ _ => inferInstanceAs (Decidable (_ ∧ _))

theorem alike_sigma : Alike 'Σ' 'σ' ∧ Alike 'Σ' 'ς' := by decide +kernel

theorem casedNext_cons (c : Char) (cs : List Char) :
    casedNext (c :: cs) = if isCaseIgnorable c then casedNext cs else isCased c := by
  by_cases ignored : isCaseIgnorable c = true
  · rw [casedNext, List.dropWhile_cons_of_pos ignored, if_pos ignored]
    rfl
  · rw [casedNext, List.dropWhile_cons_of_neg ignored, if_neg ignored]
    rfl

theorem casedNext_congr (alike : List.Forall₂ Alike cs ds) (rest : List Char) :
    casedNext (cs ++ rest) = casedNext (ds ++ rest) := by
  induction alike with
  | nil => rfl
  | cons first _ ih =>
      rw [List.cons_append, List.cons_append, casedNext_cons, casedNext_cons, first.1, first.2, ih]

theorem isFinal_congr {left left' right right' : List Char} (front : List.Forall₂ Alike left left')
    (back : List.Forall₂ Alike right right') (before after : List Char) :
    isFinal (left.reverse ++ before) (right ++ after) =
      isFinal (left'.reverse ++ before) (right' ++ after) := by
  rw [isFinal, isFinal, casedNext_congr (List.rel_reverse front), casedNext_congr back]

/-- What is cased in front of a text may as well be the letter a. -/
theorem casedNext_a (cased : casedNext (cs ++ before) = true) : casedNext (cs ++ ['a']) = true := by
  induction cs with
  | nil => decide +kernel
  | cons c cs ih =>
      rw [List.cons_append, casedNext_cons] at cased ⊢
      split
      · next ignored => exact ih (by rwa [if_pos ignored] at cased)
      · next seen => rwa [if_neg seen] at cased

theorem casedNext_append_of_casedNext (cased : casedNext cs = true) :
    casedNext (cs ++ after) = true := by
  induction cs with
  | nil => cases cased
  | cons c cs ih =>
      rw [List.cons_append]
      rw [casedNext_cons] at cased ⊢
      split
      · next ignored => exact ih (by rwa [if_pos ignored] at cased)
      · next seen => rwa [if_neg seen] at cased

/-- A sigma that ends a word somewhere ends one behind the letter a and in front of nothing. -/
theorem isFinal_alone {left right : List Char}
    (final : isFinal (left.reverse ++ before) (right ++ after) = true) :
    isFinal (left.reverse ++ ['a']) right = true := by
  rw [isFinal, Bool.and_eq_true, Bool.not_eq_true'] at final ⊢
  refine ⟨casedNext_a final.1, Bool.eq_false_iff.mpr fun cased => ?_⟩
  rw [casedNext_append_of_casedNext cased] at final
  exact absurd final.2 (by decide)

theorem length_lowerBetween_eq (before cs after : List Char) :
    (lowerBetween before cs after).length = (letters cs).length := by
  induction cs generalizing before with
  | nil => rfl
  | cons c cs ih =>
      rw [lowerBetween, letters_cons, List.length_append, List.length_append, ih]
      by_cases sigma : c = 'Σ' <;> simp [sigma]

theorem length_lowerAfter (before cs : List Char) :
    (lowerAfter before cs).length = (letters cs).length := by
  rw [lowerAfter_eq, length_lowerBetween_eq]

/-- A text none of whose capital sigmas ends a word is written as its letters. -/
theorem lowerBetween_eq_letters
    (calm : ∀ left right, cs = left ++ 'Σ' :: right →
      isFinal (left.reverse ++ before) (right ++ after) = false) :
    lowerBetween before cs after = letters cs := by
  induction cs generalizing before with
  | nil => rfl
  | cons c cs ih =>
      have rest : lowerBetween (c :: before) cs after = letters cs := by
        refine ih fun left right parts => ?_
        have later := calm (c :: left) right (by rw [parts]; rfl)
        rwa [List.reverse_cons, List.append_assoc] at later
      rw [lowerBetween, rest, letters_cons]
      split
      · next sigma =>
        subst sigma
        have here := calm [] cs rfl
        rw [List.reverse_nil, List.nil_append] at here
        rw [here, lowerChar_sigma]
        rfl
      · rfl

theorem lowerBetween_of_not_mem (small : 'Σ' ∉ cs) :
    lowerBetween before cs after = letters cs :=
  lowerBetween_eq_letters fun _ _ parts =>
    absurd (parts ▸ List.mem_append_right _ List.mem_cons_self) small

theorem lowerAfter_of_not_mem (small : 'Σ' ∉ cs) : lowerAfter before cs = letters cs := by
  rw [lowerAfter_eq, lowerBetween_of_not_mem small]

end Casing

section Found

theorem Steady.lowerBetween_eq (h : Steady cs) (same : List.Forall₂ SameLetter cs ds) :
    lowerBetween before ds after = letters cs := by
  rw [letters_eq_of_forall₂ same]
  exact lowerBetween_eq_letters fun left right parts =>
    h.calm ds same left 'Σ' right parts (.inl lowerChar_sigma) before after

theorem Steady.lowerAfter_eq (h : Steady cs) : lowerAfter [] cs = letters cs := by
  rw [TriggerFlow.Text.lowerAfter_eq, h.lowerBetween_eq (forall₂_refl cs)]

/-- Lower case of a whole text comes apart where no dotted I is cut in two. -/
theorem split_lowerAfter {a b : List Char} (whole : lowerAfter before cs = a ++ b)
    (uncut : ∀ a' b', a = a' ++ ['i'] → b ≠ '\u0307' :: b') :
    ∃ x y, cs = x ++ y ∧ lowerBetween before x y = a ∧ lowerAfter (x.reverse ++ before) y = b := by
  suffices ∃ x y, cs = x ++ y ∧ lowerBetween before x y = a by
    obtain ⟨x, y, rfl, front⟩ := this
    rw [lowerAfter_append, front] at whole
    exact ⟨x, y, rfl, front, List.append_cancel_left whole⟩
  induction cs generalizing before a with
  | nil => exact ⟨[], [], rfl, (List.append_eq_nil_iff.mp whole.symm).1.symm⟩
  | cons c cs ih =>
      cases a with
      | nil => exact ⟨[], c :: cs, rfl, rfl⟩
      | cons d a =>
          have further {a' : List Char} (rest : lowerAfter (c :: before) cs = a' ++ b)
              (part : a' <:+ d :: a) :
              ∃ x y, cs = x ++ y ∧ lowerBetween (c :: before) x y = a' := by
            refine ih rest fun a₀ b₀ ends => ?_
            obtain ⟨e, parts⟩ := part
            exact uncut (e ++ a₀) b₀ (by rw [← parts, ends, List.append_assoc])
          rw [lowerAfter] at whole
          by_cases dotted : c = 'İ'
          · subst dotted
            have parts : 'i' :: '\u0307' :: lowerAfter ('İ' :: before) cs = d :: (a ++ b) := whole
            obtain ⟨rfl, tail⟩ := List.cons.inj parts
            cases a with
            | nil => exact absurd tail.symm (uncut [] _ rfl)
            | cons e a =>
                obtain ⟨rfl, rest⟩ := List.cons.inj tail
                obtain ⟨x, y, rfl, front⟩ := further rest ⟨['i', '\u0307'], rfl⟩
                exact ⟨'İ' :: x, y, rfl, congrArg ('i' :: '\u0307' :: ·) front⟩
          · obtain ⟨e, image⟩ : ∃ e, (if c = 'Σ' then
                [if casedNext before && !casedNext cs then 'ς' else 'σ']
                else lowerChar c) = [e] := by
              split
              · exact ⟨_, rfl⟩
              · exact exists_lowerChar dotted
            rw [image] at whole
            obtain ⟨rfl, rest⟩ := List.cons.inj whole
            obtain ⟨x, y, rfl, front⟩ := further rest ⟨[e], rfl⟩
            refine ⟨c :: x, y, rfl, ?_⟩
            rw [lowerBetween, front]
            exact congrArg (· ++ a) image

/-- A capital sigma is as good as the final one, as far as words are concerned. -/
def Recased (c d : Char) : Prop := c = d ∨ (c = 'Σ' ∧ d = 'ς')

theorem Recased.alike (h : Recased c d) : Alike c d := by
  obtain rfl | ⟨rfl, rfl⟩ := h
  · exact ⟨rfl, rfl⟩
  · exact alike_sigma.2

/-- What is written as the letters of a text has these letters, but for capital sigmas that end a
word. -/
theorem exists_recased (undotted : 'İ' ∉ cs) (undotted' : 'İ' ∉ ds)
    (written : lowerBetween before ds after = letters cs) :
    ∃ es, List.Forall₂ SameLetter cs es ∧ List.Forall₂ Recased ds es := by
  induction ds generalizing before cs with
  | nil =>
      cases cs with
      | nil => exact ⟨[], .nil, .nil⟩
      | cons c cs => exact absurd (List.append_eq_nil_iff.mp written.symm).1 (lowerChar_ne_nil c)
  | cons d ds ih =>
      rw [List.mem_cons, not_or] at undotted'
      cases cs with
      | nil =>
          have none := congrArg List.length written
          rw [length_lowerBetween_eq, letters_nil, List.length_nil, List.length_eq_zero_iff,
            letters_eq_nil_iff] at none
          cases none
      | cons c cs =>
          rw [List.mem_cons, not_or] at undotted
          obtain ⟨e, image⟩ := exists_lowerChar (Ne.symm undotted.1)
          rw [lowerBetween, letters_cons, image] at written
          by_cases sigma : d = 'Σ'
          · rw [if_pos sigma] at written
            obtain ⟨first, rest⟩ := List.cons.inj written
            obtain ⟨es, same, recased⟩ := ih undotted.2 undotted'.2 rest
            split at first
            · refine ⟨'ς' :: es, .cons ?_ same, .cons (.inr ⟨sigma, rfl⟩) recased⟩
              rw [SameLetter, image, ← first]
              rfl
            · refine ⟨'Σ' :: es, .cons ?_ same, .cons (.inl sigma) recased⟩
              rw [SameLetter, image, ← first, lowerChar_sigma]
          · obtain ⟨f, image'⟩ := exists_lowerChar (Ne.symm undotted'.1)
            rw [if_neg sigma, image'] at written
            obtain ⟨rfl, rest⟩ := List.cons.inj written
            obtain ⟨es, same, recased⟩ := ih undotted.2 undotted'.2 rest
            exact ⟨d :: es, .cons (image.trans image'.symm) same, .cons (.inl rfl) recased⟩

theorem dotted_of_mem_lowerBetween (mem : 'İ' ∈ cs) :
    ['i', '\u0307'] <:+: lowerBetween before cs after := by
  induction cs generalizing before with
  | nil => cases mem
  | cons c cs ih =>
      rw [lowerBetween]
      obtain rfl | mem := List.mem_cons.mp mem
      · exact ⟨[], lowerBetween ('İ' :: before) cs after, rfl⟩
      · exact (ih mem).trans (List.suffix_append _ _).isInfix

theorem exists_split_of_forall₂ {R : Char → Char → Prop} {left right : List Char}
    (h : List.Forall₂ R (left ++ c :: right) ds) : ∃ left' d right', ds = left' ++ d :: right' ∧
      List.Forall₂ R left left' ∧ R c d ∧ List.Forall₂ R right right' := by
  induction left generalizing ds with
  | nil =>
      obtain ⟨d, right', first, rest, rfl⟩ := List.forall₂_cons_left_iff.mp h
      exact ⟨[], d, right', rfl, .nil, first, rest⟩
  | cons e left ih =>
      obtain ⟨d, ds, first, rest, rfl⟩ := List.forall₂_cons_left_iff.mp h
      obtain ⟨left', d', right', rfl, front, here, back⟩ := ih rest
      exact ⟨d :: left', d', right', rfl, .cons first front, here, back⟩

/-- A part of a text that is written as the letters of a steady one has these letters. -/
theorem Steady.forall₂ (h : Steady cs) (written : lowerBetween before ds after = letters cs) :
    List.Forall₂ SameLetter cs ds := by
  have undotted : 'İ' ∉ ds := fun mem => h.undotted (written ▸ dotted_of_mem_lowerBetween mem)
  obtain ⟨es, same, recased⟩ := exists_recased h.not_mem undotted written
  refine forall₂_of_letters_eq h.not_mem undotted (written.symm.trans ?_)
  refine lowerBetween_eq_letters fun left right parts => ?_
  rw [parts] at recased
  obtain ⟨left', d, right', rfl, front, here, back⟩ := exists_split_of_forall₂ recased
  have sigma : IsSigma d := by
    obtain rfl | ⟨-, rfl⟩ := here
    · exact .inl lowerChar_sigma
    · exact .inr rfl
  rw [isFinal_congr (front.imp fun _ _ => Recased.alike) (back.imp fun _ _ => Recased.alike)]
  exact h.calm _ same left' d right' rfl sigma before after

/-- In lower case a steady text is found wherever its letters are, and nowhere else. -/
theorem Steady.found_iff (h : Steady cs) : lowerAfter [] cs <:+: lowerAfter [] text ↔
    ∃ ds, ds <:+: text ∧ List.Forall₂ SameLetter cs ds := by
  rw [h.lowerAfter_eq]
  constructor
  · rintro ⟨a, b, parts⟩
    by_cases empty : cs = []
    · subst empty
      exact ⟨[], List.nil_infix, .nil⟩
    rw [List.append_assoc] at parts
    have uncut (b' : List Char) : letters cs ++ b ≠ '\u0307' :: b' := by
      obtain ⟨d, l, begins⟩ := List.exists_cons_of_ne_nil (letters_eq_nil_iff.not.mpr empty)
      intro same
      rw [begins] at same
      obtain ⟨rfl, -⟩ := List.cons.inj same
      exact h.first ⟨l, begins.symm⟩
    obtain ⟨x, y, rfl, -, later⟩ := split_lowerAfter parts.symm fun _ b' _ => uncut b'
    obtain ⟨ds, z, rfl, written, -⟩ := split_lowerAfter later fun a' _ ends _ =>
      h.last ⟨a', ends.symm⟩
    exact ⟨ds, ⟨x, z, List.append_assoc _ _ _⟩, h.forall₂ written⟩
  · rintro ⟨ds, ⟨x, z, rfl⟩, same⟩
    rw [List.append_assoc, lowerAfter_append, lowerAfter_append, h.lowerBetween_eq same]
    exact ⟨_, _, List.append_assoc _ _ _⟩

end Found

section Converse

/-- The text with its capital sigmas made small. -/
def flattened (cs : List Char) : List Char := cs.map fun c => if c = 'Σ' then 'σ' else c

theorem not_mem_flattened : 'Σ' ∉ flattened cs := by
  intro mem
  obtain ⟨c, -, same⟩ := List.mem_map.mp mem
  split at same
  · exact absurd same (by decide)
  · next other => exact other same

theorem letters_flattened (cs : List Char) : letters (flattened cs) = letters cs := by
  induction cs with
  | nil => rfl
  | cons c cs ih =>
      rw [flattened, List.map_cons, letters_cons, letters_cons]
      refine congrArg₂ (· ++ ·) ?_ ih
      split
      · next sigma =>
        rw [sigma]
        rfl
      · rfl

theorem alike_flattened (cs : List Char) : List.Forall₂ Alike cs (flattened cs) := by
  refine List.forall₂_map_right_iff.mpr (List.forall₂_same.mpr fun c _ => ?_)
  split
  · next sigma =>
    rw [sigma]
    exact alike_sigma.1
  · exact ⟨rfl, rfl⟩

/-- A name in which a capital sigma ends a word, and no other capital sigma stands. -/
def ending (left right : List Char) : List Char := 'a' :: (flattened left ++ 'Σ' :: flattened right)

theorem lowerAfter_ending {left right : List Char}
    (final : isFinal (left.reverse ++ ['a']) right = true) :
    lowerAfter [] (ending left right) = 'a' :: (letters left ++ 'ς' :: letters right) := by
  have front : lowerBetween ['a'] (flattened left) ('Σ' :: flattened right) = letters left := by
    rw [lowerBetween_of_not_mem not_mem_flattened, letters_flattened]
  have last : isFinal ((flattened left).reverse ++ ['a']) (flattened right) = true := by
    rw [← List.append_nil right] at final
    rw [← final, isFinal_congr (alike_flattened left) (alike_flattened right), List.append_nil]
  have a : lowerChar 'a' = ['a'] := rfl
  rw [isFinal] at last
  rw [ending, lowerAfter, if_neg (by decide), a, lowerAfter_append, front, lowerAfter, if_pos rfl,
    last, lowerAfter_of_not_mem not_mem_flattened, letters_flattened]
  rfl

/-- One more of a character than there are. -/
theorem not_infix_exchanged {e : Char} (other : c ≠ d) (other' : c ≠ e) :
    ¬ p ++ c :: q <:+: e :: (p ++ d :: q) := by
  intro inside
  have count := inside.sublist.count_le c
  simp only [List.count_append, List.count_cons_self, List.count_cons_of_ne other.symm,
    List.count_cons_of_ne other'.symm] at count
  omega

theorem letters_infix (inside : cs <:+: ds) : letters cs <:+: letters ds := by
  obtain ⟨left, right, rfl⟩ := inside
  exact ⟨letters left, letters right, by rw [letters_append, letters_append]⟩

variable (found : ∀ text, lowerAfter [] cs <:+: lowerAfter [] text ↔
  ∃ ds, ds <:+: text ∧ List.Forall₂ SameLetter cs ds)

include found

theorem not_mem_of_found : 'İ' ∉ cs := by
  intro mem
  have lower : ∀ d ∈ lowerAfter [] cs, IsLower d := fun _ h => isLower_of_mem_lowerAfter h
  obtain ⟨ds, inside, same⟩ := (found (lowerAfter [] cs)).mp (by rw [lowerAfter_of_isLower lower])
  obtain ⟨left, right, rfl⟩ := List.append_of_mem mem
  obtain ⟨_, d, _, rfl, -, here, -⟩ := exists_split_of_forall₂ same
  have small := lower d (inside.subset (List.mem_append_right _ List.mem_cons_self))
  rw [eq_of_sameLetter_dotted here.symm] at small
  exact absurd small (by decide)

/-- No sigma of the text itself ends a word: the text in lower case is one of its letters. -/
theorem lowerAfter_of_found : lowerAfter [] cs = letters cs := by
  have lower : ∀ d ∈ letters cs, IsLower d := fun _ mem => isLower_of_mem_letters mem
  have inside := (found (letters cs)).mpr
    ⟨letters cs, List.infix_rfl, forall₂_letters (not_mem_of_found found)⟩
  rw [lowerAfter_of_isLower lower] at inside
  exact inside.eq_of_length (length_lowerAfter [] cs)

/-- The letters are in no text in lower case that has a dotted I in their place. -/
theorem not_infix_dotted (part : (p ++ q).Sublist (letters cs))
    (short : (p ++ q).length < (letters cs).length) :
    ¬ letters cs <:+: p ++ 'i' :: '\u0307' :: q := by
  intro inside
  have lower : ∀ d ∈ p ++ q, IsLower d := fun _ mem => isLower_of_mem_letters (part.subset mem)
  have written : lowerAfter [] (p ++ 'İ' :: q) = p ++ 'i' :: '\u0307' :: q := by
    have small : 'Σ' ∉ p ++ 'İ' :: q := by
      intro mem
      have mem : 'Σ' ∈ p ++ q := by simpa using mem
      exact (lower _ mem).ne_sigma rfl
    rw [List.forall_mem_append] at lower
    rw [lowerAfter_of_not_mem small, letters_append, letters_cons, letters_of_isLower lower.1,
      letters_of_isLower lower.2]
    exact congrArg (p ++ ·) rfl
  obtain ⟨ds, part, same⟩ := (found (p ++ 'İ' :: q)).mp (by
    rwa [written, lowerAfter_of_found found])
  have whole : ds = p ++ 'İ' :: q := by
    refine part.eq_of_length_le ?_
    rw [← same.length_eq]
    rw [length_letters (not_mem_of_found found)] at short
    simp only [List.length_append, List.length_cons] at short ⊢
    omega
  subst whole
  obtain ⟨_, c, _, rfl, -, here, -⟩ := exists_split_of_forall₂ same.flip
  refine not_mem_of_found found ?_
  rw [eq_of_sameLetter_dotted here]
  exact List.mem_append_right _ List.mem_cons_self

theorem calm_of_found (undotted : ¬ ['i', '\u0307'] <:+: letters cs)
    (same : List.Forall₂ SameLetter cs ds) (left : List Char) (c : Char) (right : List Char)
    (parts : ds = left ++ c :: right) (sigma : IsSigma c) (before after : List Char) :
    isFinal (left.reverse ++ before) (right ++ after) = false := by
  by_contra final
  have final := isFinal_alone (Bool.not_eq_false _ ▸ final)
  have written : letters cs = letters left ++ lowerChar c ++ letters right := by
    rw [letters_eq_of_forall₂ same, parts, letters_append, letters_cons, List.append_assoc]
  have needle := lowerAfter_of_found found
  obtain small | last := sigma
  · -- the name has the letters, but not their lower case
    have alike : letters (flattened left ++ 'Σ' :: flattened right) = letters cs := by
      rw [written, small, letters_append, letters_cons, letters_flattened, letters_flattened,
        lowerChar_sigma, List.append_assoc]
    have same : List.Forall₂ SameLetter cs (flattened left ++ 'Σ' :: flattened right) :=
      forall₂_of_letters_eq (not_mem_of_found found)
        (fun mem => undotted (alike ▸ dotted_of_mem mem)) alike.symm
    have inside := (found (ending left right)).mpr ⟨_, (List.suffix_cons 'a' _).isInfix, same⟩
    rw [lowerAfter_ending final, needle, written, small, List.append_assoc] at inside
    exact not_infix_exchanged (by decide) (by decide) inside
  · -- the name has their lower case, but not the letters
    have inside : lowerAfter [] cs <:+: lowerAfter [] (ending left right) := by
      rw [lowerAfter_ending final, needle, written, last, List.append_assoc]
      exact (List.suffix_cons 'a' _).isInfix
    obtain ⟨es, part, same⟩ := (found _).mp inside
    have a : lowerChar 'a' = ['a'] := rfl
    have inside := letters_infix part
    rw [← letters_eq_of_forall₂ same, written, last, ending, letters_cons, letters_append,
      letters_cons, letters_flattened, letters_flattened, a, lowerChar_sigma,
      List.append_assoc] at inside
    exact not_infix_exchanged (by decide) (by decide) inside

omit found in
/-- Lower case finds a text wherever its letters are, and nowhere else, exactly if it is steady. -/
theorem steady_iff : Steady cs ↔ ∀ text, lowerAfter [] cs <:+: lowerAfter [] text ↔
    ∃ ds, ds <:+: text ∧ List.Forall₂ SameLetter cs ds := by
  refine ⟨fun h text => h.found_iff, fun found => ?_⟩
  have undotted : ¬ ['i', '\u0307'] <:+: letters cs := by
    rintro ⟨p, q, parts⟩
    refine not_infix_dotted found (p := p) (q := q) ?_ ?_ ?_
    · rw [← parts]
      exact (List.sublist_append_left p _).append (List.Sublist.refl q)
    · rw [← parts]
      simp only [List.length_append, List.length_cons, List.length_nil]
      omega
    · rw [← parts, List.append_assoc]
      exact List.infix_rfl
  refine ⟨?_, ?_, undotted, fun ds same => calm_of_found found undotted same⟩
  · rintro ⟨q, parts⟩
    refine not_infix_dotted found (p := []) (q := q) ?_ ?_ ?_
    · rw [← parts]
      exact List.sublist_cons_self _ q
    · rw [← parts]
      exact Nat.lt_succ_self _
    · rw [← parts]
      exact (List.suffix_cons 'i' _).isInfix
  · rintro ⟨p, parts⟩
    refine not_infix_dotted found (p := p) (q := []) ?_ ?_ ?_
    · rw [← parts, List.append_nil]
      exact List.sublist_append_left p _
    · rw [← parts, List.append_nil, List.length_append]
      exact Nat.lt_succ_self _
    · rw [← parts]
      exact ⟨[], ['\u0307'], by simp⟩

end Converse

section Ascii

theorem lowerRuns_ascii :
    (Tables.lowerRuns.all fun r => Nat.ble 0x80 r.1 || r == (0x41, 0x5a, 1, 32)) = true := by
  decide +kernel

/-- ASCII stays ASCII, and only the two letters I become i. -/
theorem exists_lowerChar_ascii (ascii : c.toNat < 0x80) :
    ∃ d, lowerChar c = [d] ∧ d.toNat < 0x80 ∧ (d = 'i' → c = 'i' ∨ c = 'I') := by
  have undotted : c ≠ 'İ' := by
    rintro rfl
    exact absurd ascii (by decide)
  refine ⟨_, lowerChar_eq undotted, ?_⟩
  obtain stays | ⟨⟨first, last', step, shift⟩, mem, ⟨low, high, -⟩, moved⟩ := mapRun_eq_or
  · rw [stays]
    exact ⟨ascii, .inl⟩
  · have checked := List.all_eq_true.mp lowerRuns_ascii _ mem
    rw [Bool.or_eq_true, Nat.ble_eq, beq_iff_eq] at checked
    obtain past | same := checked
    · exact absurd (Nat.le_trans past low) (Nat.not_le.mpr ascii)
    · cases same
      have place : (Char.ofNat (c.toNat + 32)).toNat = c.toNat + 32 := by
        rw [Char.ofNat, dif_pos (by unfold Nat.isValidChar; omega)]
        rfl
      rw [moved, show ((c.toNat : Int) + 32).toNat = c.toNat + 32 from rfl, place]
      refine ⟨by omega, fun small => .inr (Char.toNat_inj.mp ?_)⟩
      rw [small] at place
      change 0x69 = c.toNat + 32 at place
      change c.toNat = 0x49
      omega

/-- ASCII text that does not end in an I is steady. -/
theorem steady_of_ascii (ascii : ∀ c ∈ cs, c.toNat < 0x80)
    (last : ∀ c ∈ cs.getLast?, c ≠ 'i' ∧ c ≠ 'I') : Steady cs := by
  have dotless : '\u0307' ∉ letters cs := by
    intro mem
    obtain ⟨c, within, mem⟩ := List.mem_flatMap.mp mem
    obtain ⟨d, image, small, -⟩ := exists_lowerChar_ascii (ascii c within)
    rw [image, List.mem_singleton] at mem
    subst mem
    exact absurd small (by decide)
  refine ⟨fun front => ?_, fun back => ?_, fun inside => ?_, ?_⟩
  · exact dotless (front.subset List.mem_cons_self)
  · obtain rfl | ⟨front, c, rfl⟩ := List.eq_nil_or_concat cs
    · exact absurd (List.suffix_nil.mp back) (List.cons_ne_nil _ _)
    · rw [List.concat_eq_append] at back ascii last
      obtain ⟨d, image, -, only⟩ := exists_lowerChar_ascii (ascii c (by simp))
      rw [letters_append, letters_cons, image] at back
      obtain ⟨others, parts⟩ := back
      have same : 'i' = d := (List.cons.inj (List.append_inj' parts rfl).2).1
      obtain ⟨small, large⟩ := last c (by simp)
      exact (only same.symm).elim small large
  · exact dotless (inside.subset (List.mem_cons_of_mem _ List.mem_cons_self))
  · rintro ds same left c right rfl sigma
    obtain ⟨_, d, _, rfl, -, here, -⟩ := exists_split_of_forall₂ same.flip
    obtain ⟨e, image, small, -⟩ :=
      exists_lowerChar_ascii (ascii d (List.mem_append_right _ List.mem_cons_self))
    rw [IsSigma, ← here, image] at sigma
    obtain same | same := sigma <;> cases same <;> exact absurd small (by decide)

end Ascii

end TriggerFlow.Text
