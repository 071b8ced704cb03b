import Mathlib.Data.List.Chain
import TriggerFlow.Json.Reader

/-!
Strings read back from their text. Every character does but for the halves of surrogate pairs: a
first half directly before a second one reads as the character that the two spell.
-/

namespace TriggerFlow

namespace Numeral

theorem hexValue?_digitChar {d : Nat} (h : d < 16) : hexValue? (Nat.digitChar d) = some d := by
  have all : ∀ d < 16, hexValue? (Nat.digitChar d) = some d := by decide
  exact all d h

theorem ofHexDigits_toDigits (n : Nat) : ofHexDigits (Nat.toDigits 16 n) = some n := by
  induction n using Nat.strongRecOn with
  | ind n ih =>
      rw [Nat.toDigits_eq_if (by decide)]
      split
      · next small => simp [ofHexDigits, hexValue?_digitChar small]
      · next large =>
        have before := ih (n / 16) (by omega)
        have last : n % 16 < 16 := Nat.mod_lt n (by decide)
        rw [ofHexDigits] at before ⊢
        simp [List.foldlM_append, before, hexValue?_digitChar last, Nat.div_add_mod]

theorem ofHexDigits_zeros (k : Nat) (ds : List Char) :
    ofHexDigits (List.replicate k '0' ++ ds) = ofHexDigits ds := by
  induction k with
  | zero => rfl
  | succ k ih => exact ih

end Numeral

namespace Text.Surrogate

def isFirstHalf (c : Char) : Bool := isStandIn c && point c < 0xdc00

def isSecondHalf (c : Char) : Bool := isStandIn c && 0xdc00 ≤ point c

theorem toNat_cases (c : Char) : c.toNat < 0xd800 ∨ 0xdfff < c.toNat ∧ c.toNat < 0x110000 := c.valid

theorem charOf_point (c : Char) : charOf (point c) = c := by
  have size : base = 0xdd800 := rfl
  have valid := toNat_cases c
  suffices same : (if isHalf (point c) then base + (point c - 0xd800) else point c) = c.toNat by
    rw [charOf, same, Char.ofNat_toNat]
  simp only [point, isStandIn, isHalf, Bool.and_eq_true, decide_eq_true_eq]
  split <;> split <;> omega

end Text.Surrogate

namespace Json

open Text.Surrogate

variable {a b c d e f g h : Char} {n m start : Nat} {cs out tail rest : List Char}

theorem exists_hex4 (small : n < 0x10000) :
    ∃ a b c d, Text.hexDigits 4 n = [a, b, c, d] ∧ hex4? a b c d = some n := by
  have short : (Nat.toDigits 16 n).length ≤ 4 :=
    (Nat.length_toDigits_le_iff (by decide) (by decide)).mpr small
  have four : (Text.hexDigits 4 n).length = 4 := by
    simp only [Text.hexDigits, List.length_append, List.length_replicate]
    omega
  have value : Numeral.ofHexDigits (Text.hexDigits 4 n) = some n :=
    (Numeral.ofHexDigits_zeros _ _).trans (Numeral.ofHexDigits_toDigits n)
  match digits : Text.hexDigits 4 n, four with
  | [a, b, c, d], _ =>
      rw [digits] at value
      exact ⟨a, b, c, d, rfl, value⟩

section Reading

variable (tail_read : readString start tail = .ok (cs, out))
include tail_read

theorem readString_plain (quote : c ≠ '"') (backslash : c ≠ '\\') (visible : 0x20 ≤ c.toNat) :
    readString start (c :: tail) = .ok (c :: cs, out) := by
  rw [readString]
  · rw [if_neg (Nat.not_lt_of_le visible), tail_read]
    rfl
  all_goals simp_all

theorem readString_simple (escape : simpleEscape? e = some c) :
    readString start ('\\' :: e :: tail) = .ok (c :: cs, out) := by
  have other : e ≠ 'u' := by
    rintro rfl
    cases escape
  rw [readString]
  · simp only [escape, tail_read]
    rfl
  all_goals simp_all

theorem readString_pair (hex : hex4? a b c d = some n) (first : 0xd800 ≤ n ∧ n ≤ 0xdbff)
    (hex' : hex4? e f g h = some m) (second : 0xdc00 ≤ m ∧ m ≤ 0xdfff) (filled : tail ≠ []) :
    readString start ('\\' :: 'u' :: a :: b :: c :: d :: '\\' :: 'u' :: e :: f :: g :: h :: tail) =
      .ok (Char.ofNat (0x10000 + (n - 0xd800) * 0x400 + (m - 0xdc00)) :: cs, out) := by
  obtain ⟨i, rest, rfl⟩ := List.exists_cons_of_ne_nil filled
  rw [readString]
  simp only [hex, if_pos first, hex', if_pos second, tail_read]
  rfl

/-- An escape reads as its code point, unless it is the first half of a pair of escapes. -/
theorem readString_unicode (hex : hex4? a b c d = some n) (filled : tail ≠ [])
    (alone : (0xd800 ≤ n ∧ n ≤ 0xdbff) → ∀ e f g h more,
      tail = '\\' :: 'u' :: e :: f :: g :: h :: more →
        ∃ m, hex4? e f g h = some m ∧ ¬ (0xdc00 ≤ m ∧ m ≤ 0xdfff)) :
    readString start ('\\' :: 'u' :: a :: b :: c :: d :: tail) = .ok (charOf n :: cs, out) := by
  obtain ⟨i, rest, rfl⟩ := List.exists_cons_of_ne_nil filled
  by_cases followed : ∃ e f g h j more, i :: rest = '\\' :: 'u' :: e :: f :: g :: h :: j :: more
  · obtain ⟨e, f, g, h, j, more, same⟩ := followed
    cases same
    rw [readString]
    simp only [hex]
    split
    · next first =>
      obtain ⟨m, hex', other⟩ := alone first e f g h _ rfl
      simp only [hex', if_neg other, tail_read]
      rfl
    · rw [tail_read]
      rfl
  · rw [readString]
    · simp only [hex, tail_read]
      rfl
    · rintro e f g h j more rfl rfl
      exact followed ⟨e, f, g, h, j, more, rfl⟩

end Reading

/-- The ways in which a character is written. -/
inductive Escapes : Char → List Char → Prop
  | plain {c : Char} (quote : c ≠ '"') (backslash : c ≠ '\\') (visible : 0x20 ≤ c.toNat) :
      Escapes c [c]
  | simple {c e : Char} (escape : simpleEscape? e = some c) : Escapes c ['\\', e]
  | point {c : Char} (small : point c < 0x10000) : Escapes c (unicodeEscape (point c))
  | pair {c : Char} (large : 0x10000 ≤ c.toNat) (meant : point c = c.toNat) :
      Escapes c (unicodeEscape (0xd800 + (c.toNat - 0x10000) / 0x400) ++
        unicodeEscape (0xdc00 + (c.toNat - 0x10000) % 0x400))

theorem eq_ofNat {c : Char} (same : c.toNat = n) : Char.ofNat n = c := by
  rw [← same, Char.ofNat_toNat]

theorem escapes_point (c : Char) : Escapes c (escapePoint (point c)) := by
  rw [escapePoint]
  split
  · next small => exact .point small
  · next large =>
    have meant : point c = c.toNat := by
      have valid := toNat_cases c
      have size : base = 0xdd800 := rfl
      simp only [point, isStandIn, Bool.and_eq_true, decide_eq_true_eq] at large ⊢
      split <;> simp_all
      omega
    rw [meant] at large ⊢
    exact .pair (Nat.le_of_not_lt large) meant

theorem escapes (asciiOnly : Bool) (c : Char) : Escapes c (escapeChar asciiOnly c) := by
  unfold escapeChar
  split
  · next same =>
    subst same
    exact .simple rfl
  next quote =>
  split
  · next same =>
    subst same
    exact .simple rfl
  next backslash =>
  split
  · next same => exact same ▸ .simple rfl
  split
  · next same => exact same ▸ .simple rfl
  split
  · next same => exact same ▸ .simple rfl
  split
  · next same => exact .simple (congrArg some (eq_ofNat same))
  split
  · next same => exact .simple (congrArg some (eq_ofNat same))
  split
  · exact escapes_point c
  · next visible =>
    rw [Bool.or_eq_true, not_or, decide_eq_true_iff, Nat.not_lt] at visible
    exact .plain quote backslash visible.1

/-- Text in which no first half of a surrogate pair stands directly before a second half. -/
def Spellable (cs : List Char) : Prop :=
  cs.IsChain fun c d => ¬ (isFirstHalf c = true ∧ isSecondHalf d = true)

/-- Text without halves of surrogate pairs is. -/
theorem spellable_of_proper (proper : cs.any isStandIn = false) : Spellable cs := by
  induction cs with
  | nil => exact .nil
  | cons c cs ih =>
      rw [List.any_cons, Bool.or_eq_false_iff] at proper
      refine List.isChain_cons.mpr ⟨fun d _ halves => ?_, ih proper.2⟩
      simp [isFirstHalf, proper.1] at halves

theorem isStandIn_of_point {c : Char} (half : 0xd800 ≤ point c ∧ point c ≤ 0xdfff) :
    isStandIn c = true := by
  have valid := toNat_cases c
  by_contra other
  rw [point, if_neg other] at half
  omega

/-- What follows a first half in the text does not read as a second one. -/
theorem alone_of_spellable (asciiOnly : Bool) {c : Char} (rest : List Char)
    (spellable : Spellable (c :: cs)) (first : 0xd800 ≤ point c ∧ point c ≤ 0xdbff)
    (e f g h : Char) (more : List Char)
    (follows : cs.flatMap (escapeChar asciiOnly) ++ '"' :: rest =
      '\\' :: 'u' :: e :: f :: g :: h :: more) :
    ∃ m, hex4? e f g h = some m ∧ ¬ (0xdc00 ≤ m ∧ m ≤ 0xdfff) := by
  cases cs with
  | nil => cases follows
  | cons d cs =>
      rw [List.flatMap_cons, List.append_assoc] at follows
      have next := escapes asciiOnly d
      generalize escapeChar asciiOnly d = esc at follows next
      cases next with
      | plain _ backslash _ => exact absurd (List.cons.inj follows).1 backslash
      | simple escape =>
          obtain ⟨-, follows⟩ := List.cons.inj follows
          obtain ⟨rfl, -⟩ := List.cons.inj follows
          cases escape
      | point small =>
          obtain ⟨_, _, _, _, digits, hex⟩ := exists_hex4 small
          rw [unicodeEscape, digits] at follows
          cases follows
          refine ⟨_, hex, fun second => ?_⟩
          have firstHalf : isFirstHalf c = true := by
            simp [isFirstHalf, isStandIn_of_point (c := c) (by omega), Nat.lt_succ_of_le first.2]
          have secondHalf : isSecondHalf d = true := by
            simp [isSecondHalf, isStandIn_of_point (c := d) (by omega), second.1]
          exact (List.isChain_cons_cons.mp spellable).1 ⟨firstHalf, secondHalf⟩
      | pair large meant =>
          have valid := toNat_cases d
          obtain ⟨_, _, _, _, digits, hex⟩ :=
            exists_hex4 (n := 0xd800 + (d.toNat - 0x10000) / 0x400) (by omega)
          rw [unicodeEscape, digits] at follows
          cases follows
          exact ⟨_, hex, by omega⟩

/-- The characters of a string read back up to its closing quote. -/
theorem readString_escaped (asciiOnly : Bool) (start : Nat) (rest : List Char)
    (spellable : Spellable cs) :
    readString start (cs.flatMap (escapeChar asciiOnly) ++ '"' :: rest) = .ok (cs, rest) := by
  induction cs with
  | nil => rw [List.flatMap_nil, List.nil_append, readString]
  | cons c cs ih =>
      have tail_read := ih spellable.tail
      have alone := alone_of_spellable asciiOnly rest spellable
      have filled : cs.flatMap (escapeChar asciiOnly) ++ '"' :: rest ≠ [] :=
        List.append_ne_nil_of_right_ne_nil _ (List.cons_ne_nil _ _)
      rw [List.flatMap_cons, List.append_assoc]
      generalize cs.flatMap (escapeChar asciiOnly) ++ '"' :: rest = tail at tail_read alone filled
      have head := escapes asciiOnly c
      generalize escapeChar asciiOnly c = esc at head
      cases head with
      | plain quote backslash visible => exact readString_plain tail_read quote backslash visible
      | simple escape => exact readString_simple tail_read escape
      | point small =>
          obtain ⟨_, _, _, _, digits, hex⟩ := exists_hex4 small
          rw [unicodeEscape, digits]
          exact (readString_unicode tail_read hex filled alone).trans (by rw [charOf_point])
      | pair large meant =>
          have valid := toNat_cases c
          obtain ⟨_, _, _, _, digits, hex⟩ :=
            exists_hex4 (n := 0xd800 + (c.toNat - 0x10000) / 0x400) (by omega)
          obtain ⟨_, _, _, _, digits', hex'⟩ :=
            exists_hex4 (n := 0xdc00 + (c.toNat - 0x10000) % 0x400) (by omega)
          rw [unicodeEscape, unicodeEscape, digits, digits']
          exact (readString_pair tail_read hex (by omega) hex' (by omega) filled).trans
            (by rw [eq_ofNat (c := c) (by omega)])

/-- Halves side by side read as the character that the pair spells. -/
example : readString 0 ([charOf 0xd83d, charOf 0xde00].flatMap (escapeChar true) ++ ['"']) =
    .ok ([Char.ofNat 0x1f600], []) := by
  rfl

end Json
end TriggerFlow
