import TriggerFlow.Text.Tables

/-!
Character classes over the whole of Unicode: blanks, word characters, digits with and without a
decimal value, and characters that can be shown as themselves.
-/

namespace TriggerFlow.Text

def inRanges (ranges : List (Nat × Nat)) (c : Char) : Bool :=
  ranges.any fun r => r.1 ≤ c.toNat && c.toNat ≤ r.2

def isBlank (c : Char) : Bool := inRanges Tables.blank c

def isWord (c : Char) : Bool := inRanges Tables.word c

def decimalValue? (c : Char) : Option Nat :=
  (Tables.decimal.find? fun r => r.1 ≤ c.toNat && c.toNat ≤ r.2).map fun r => (c.toNat - r.1) % 10

def isDecimal (c : Char) : Bool := (decimalValue? c).isSome

/-- Digits in the wide sense, superscripts and circled digits included. -/
def isDigit (c : Char) : Bool := isDecimal c || inRanges Tables.otherDigit c

def isPrintable (c : Char) : Bool :=
  if c.toNat < 0x80 then 0x20 ≤ c.toNat && c.toNat < 0x7f
  else !inRanges Tables.unprintable c

def isCased (c : Char) : Bool := inRanges Tables.cased c

def isCaseIgnorable (c : Char) : Bool := inRanges Tables.caseIgnorable c

/-- The blanks of plain ASCII: space, tab, line feed, vertical tab, form feed, return. -/
def isAsciiBlank (c : Char) : Bool :=
  c = ' ' || (9 ≤ c.toNat && c.toNat ≤ 13)

/-- The white space of the Unicode property list, without the four information separators. -/
def isPatternBlank (c : Char) : Bool :=
  isBlank c && !(0x1c ≤ c.toNat && c.toNat ≤ 0x1f)

/-- Classes whose ranges are apart have no character in common. -/
theorem not_inRanges_of_apart {ranges others : List (Nat × Nat)} {c : Char}
    (apart : (ranges.all fun r => others.all fun s => r.2 < s.1 || s.2 < r.1) = true)
    (h : inRanges ranges c = true) : inRanges others c = false := by
  rw [Bool.eq_false_iff]
  intro h'
  simp only [inRanges, List.any_eq_true, Bool.and_eq_true, decide_eq_true_eq] at h h'
  obtain ⟨r, hr, within⟩ := h
  obtain ⟨s, hs, within'⟩ := h'
  have between := List.all_eq_true.mp (List.all_eq_true.mp apart r hr) s hs
  simp only [Bool.or_eq_true, decide_eq_true_eq] at between
  omega

end TriggerFlow.Text
