import TriggerFlow.Condition
import TriggerFlow.Proofs.Number.Range

/-!
Where the operands of conditions fail to be read: integers past the largest double, integers too
long to write, and digits that name no index.
-/

namespace TriggerFlow

section Texts

/-- An integer that is too long to write is in the value, or is the value. -/
inductive Value.HoldsLong : Value → Prop
  | int {n : Int} (long : 10 ^ Numeral.maxDigits ≤ n.natAbs) : HoldsLong (.int n)
  | elem {xs : List Value} {x : Value} (mem : x ∈ xs) (long : HoldsLong x) : HoldsLong (.arr xs)
  | field {fs : Fields} {k : String} {x : Value} (mem : (k, x) ∈ fs) (long : HoldsLong x) :
      HoldsLong (.obj fs)

theorem integerText_of_lt {n : Int} (short : n.natAbs < 10 ^ Numeral.maxDigits) :
    ∃ cs, integerText n = .ok cs := by
  have digits : (Nat.toDigits 10 n.natAbs).length ≤ Numeral.maxDigits :=
    (Nat.length_toDigits_le_iff (by decide) (by decide)).mpr short
  exact ⟨_, if_neg (Nat.not_lt_of_le digits)⟩

theorem integerText_of_le {n : Int} (long : 10 ^ Numeral.maxDigits ≤ n.natAbs) :
    integerText n = .error .integerTooLongToWrite := by
  refine if_pos (Nat.lt_of_not_le fun digits => ?_)
  exact Nat.not_lt_of_le long
    ((Nat.length_toDigits_le_iff (by decide) (by decide)).mp digits)

namespace Json

variable {v x : Value} {xs : List Value} {fs : Fields} {k : String} {style : Style}

theorem writeElems_of_mem (first : Bool) (mem : x ∈ xs) (h : ∃ f, writeChars style x = .error f) :
    ∃ f, writeElems style first xs = .error f := by
  induction xs generalizing first with
  | nil => cases mem
  | cons y ys ih =>
      rw [writeElems]
      cases head : writeChars style y with
      | error f => exact ⟨f, rfl⟩
      | ok cs =>
          obtain rfl | mem := List.mem_cons.mp mem
          · obtain ⟨f, failed⟩ := h
            cases head.symm.trans failed
          · obtain ⟨f, failed⟩ := ih false mem
            exact ⟨f, by rw [failed]; rfl⟩

theorem writeFields_of_mem (first : Bool) (mem : (k, x) ∈ fs)
    (h : ∃ f, writeChars style x = .error f) : ∃ f, writeFields style first fs = .error f := by
  induction fs generalizing first with
  | nil => cases mem
  | cons field fs ih =>
      obtain ⟨k', y⟩ := field
      rw [writeFields]
      cases head : writeChars style y with
      | error f => exact ⟨f, rfl⟩
      | ok cs =>
          obtain same | mem := List.mem_cons.mp mem
          · cases same
            obtain ⟨f, failed⟩ := h
            cases head.symm.trans failed
          · obtain ⟨f, failed⟩ := ih false mem
            exact ⟨f, by rw [failed]; rfl⟩

/-- What holds an integer that is too long is not written. -/
theorem writeChars_of_holdsLong (style : Style) (long : v.HoldsLong) :
    ∃ f, writeChars style v = .error f := by
  induction long with
  | int long => exact ⟨_, integerText_of_le long⟩
  | elem mem _ ih =>
      obtain ⟨f, failed⟩ := writeElems_of_mem true mem ih
      exact ⟨f, by rw [writeChars, failed]; rfl⟩
  | field mem _ ih =>
      obtain ⟨f, failed⟩ := writeFields_of_mem true mem ih
      exact ⟨f, by rw [writeChars, failed]; rfl⟩

mutual

/-- Everything else is, where numbers that are not finite have names. -/
theorem writeChars_ok (finite : style.allowsNonFinite = true) :
    ∀ v : Value, ¬ v.HoldsLong → ∃ cs, writeChars style v = .ok cs
  | .null, _ | .bool _, _ | .str _, _ | .time _, _ => ⟨_, rfl⟩
  | .int _, short => integerText_of_lt (Nat.lt_of_not_le fun long => short (.int long))
  | .float (.finite _ _), _ => ⟨_, rfl⟩
  | .float .nan, _ | .float (.infinite _), _ => ⟨_, if_pos finite⟩
  | .arr xs, short => by
      obtain ⟨cs, written⟩ := writeElems_ok finite true xs fun x mem long => short (.elem mem long)
      exact ⟨_, by rw [writeChars, written]; rfl⟩
  | .obj fs, short => by
      obtain ⟨cs, written⟩ :=
        writeFields_ok finite true fs fun f mem long => short (.field mem long)
      exact ⟨_, by rw [writeChars, written]; rfl⟩

theorem writeElems_ok (finite : style.allowsNonFinite = true) (first : Bool) :
    ∀ xs : List Value, (∀ x ∈ xs, ¬ x.HoldsLong) → ∃ cs, writeElems style first xs = .ok cs
  | [], _ => ⟨_, rfl⟩
  | x :: xs, short => by
      obtain ⟨head, written⟩ := writeChars_ok finite x (short x List.mem_cons_self)
      obtain ⟨tail, written'⟩ := writeElems_ok finite false xs
        fun y mem => short y (List.mem_cons_of_mem x mem)
      exact ⟨_, by rw [writeElems, written, written']; rfl⟩

theorem writeFields_ok (finite : style.allowsNonFinite = true) (first : Bool) :
    ∀ fs : List (String × Value), (∀ f ∈ fs, ¬ f.2.HoldsLong) →
      ∃ cs, writeFields style first fs = .ok cs
  | [], _ => ⟨_, rfl⟩
  | (k, x) :: fs, short => by
      obtain ⟨head, written⟩ := writeChars_ok finite x (short (k, x) List.mem_cons_self)
      obtain ⟨tail, written'⟩ := writeFields_ok finite false fs
        fun f mem => short f (List.mem_cons_of_mem (k, x) mem)
      exact ⟨_, by rw [writeFields, written, written']; rfl⟩

end

end Json

namespace Value

variable {v : Value}

theorem text_of_holdsLong (long : v.HoldsLong) : ∃ f, v.text = .error f := by
  cases long with
  | int long => exact ⟨_, by rw [text, integerText_of_le long]; rfl⟩
  | elem mem long =>
      obtain ⟨f, failed⟩ := Json.writeChars_of_holdsLong .spaced (.elem mem long)
      exact ⟨f, by rw [text, Json.write, failed]; rfl⟩
  | field mem long =>
      obtain ⟨f, failed⟩ := Json.writeChars_of_holdsLong .spaced (.field mem long)
      exact ⟨f, by rw [text, Json.write, failed]; rfl⟩

theorem exists_text (short : ¬ v.HoldsLong) : ∃ s, v.text = .ok s := by
  cases v with
  | null | bool _ | str _ | time _ => exact ⟨_, rfl⟩
  | int n =>
      obtain ⟨cs, written⟩ := integerText_of_lt (Nat.lt_of_not_le fun long => short (.int long))
      exact ⟨_, by rw [text, written]; rfl⟩
  | float x =>
      rw [text]
      split
      · next n whole =>
        obtain ⟨cs, written⟩ := integerText_of_lt (Binary64.natAbs_of_toInt? whole)
        exact ⟨_, by rw [written]; rfl⟩
      · exact ⟨_, rfl⟩
  | arr xs | obj fs =>
      have finite : Json.Style.spaced.allowsNonFinite = true := rfl
      obtain ⟨cs, written⟩ := Json.writeChars_ok finite _ short
      exact ⟨_, by rw [text, Json.write, written]; rfl⟩

/-- An integer that no double is near to is the only thing that fails to be a number. -/
theorem exists_number (near : ∀ n, v = .int n → n.natAbs < (2 ^ 54 - 1) * 2 ^ 970) :
    ∃ r, v.number = .ok r := by
  cases v with
  | int n =>
      cases rounded : Binary64.ofInt? n with
      | none =>
          exact absurd ((Binary64.ofInt?_eq_none_iff n).mp rounded) (Nat.not_le_of_lt (near n rfl))
      | some x => exact ⟨_, by rw [number, rounded]; rfl⟩
  | str s =>
      rw [number]
      split <;> exact ⟨_, rfl⟩
  | null | bool _ | float _ | time _ | arr _ | obj _ => exact ⟨_, rfl⟩

theorem number_of_past {n : Int} (past : (2 ^ 54 - 1) * 2 ^ 970 ≤ n.natAbs) :
    (Value.int n).number = .error .integerPastDoubles := by
  rw [number, (Binary64.ofInt?_eq_none_iff n).mpr past]
  rfl

end Value
end Texts

section Indices

variable {c : Char} {segment : List Char}

namespace Text

theorem isDecimal_eq_inRanges (c : Char) : isDecimal c = inRanges Tables.decimal c := by
  rw [isDecimal, decimalValue?, Option.isSome_map, List.isSome_find?]
  rfl

theorem isBlank_of_isDigit (h : isDigit c = true) : isBlank c = false := by
  rw [isDigit, Bool.or_eq_true, isDecimal_eq_inRanges] at h
  obtain h | h := h
  · exact not_inRanges_of_apart (by decide +kernel) h
  · exact not_inRanges_of_apart (by decide +kernel) h

-- of the digits of all scripts, only those from zero to nine are in ASCII
theorem decimal_ascii : ∀ r ∈ Tables.decimal, r.1 < 127 → r = (48, 57) := by decide +kernel

theorem otherDigit_past_ascii : ∀ r ∈ Tables.otherDigit, 127 ≤ r.1 := by decide +kernel

theorem ascii_of_isDigit (h : isDigit c = true) (ascii : c.toNat < 127) :
    isDecimal c = true ∧ c.isDigit = true := by
  have decimal : isDecimal c = true := by
    rw [isDigit, Bool.or_eq_true] at h
    refine h.resolve_right fun other => ?_
    simp only [inRanges, List.any_eq_true, Bool.and_eq_true, decide_eq_true_eq] at other
    obtain ⟨r, hr, within⟩ := other
    have above := otherDigit_past_ascii r hr
    omega
  refine ⟨decimal, ?_⟩
  simp only [isDecimal_eq_inRanges, inRanges, List.any_eq_true, Bool.and_eq_true,
    decide_eq_true_eq] at decimal
  obtain ⟨r, hr, within⟩ := decimal
  obtain rfl := decimal_ascii r hr (by omega)
  simp only [Char.isDigit, Bool.and_eq_true, decide_eq_true_eq, ge_iff_le, UInt32.le_iff_toNat_le]
  exact within

end Text

namespace Numeral

theorem toAscii_of_isDecimal (h : Text.isDecimal c = true) : (toAscii c).isDigit = true := by
  have digit : Text.isDigit c = true := by rw [Text.isDigit, h, Bool.true_or]
  rw [toAscii, Text.isBlank_of_isDigit digit]
  split
  · next ascii => exact (Text.ascii_of_isDigit digit ascii).2
  · obtain ⟨d, value⟩ := Option.isSome_iff_exists.mp h
    have small : d < 10 := by
      obtain ⟨r, -, rfl⟩ := Option.map_eq_some_iff.mp value
      exact Nat.mod_lt _ (by decide)
    have digits : ∀ d < 10, (Char.ofNat (48 + d)).isDigit = true := by decide
    rw [value]
    exact digits d small

theorem toAscii_of_not_isDecimal (h : Text.isDigit c = true) (h' : Text.isDecimal c = false) :
    toAscii c = '?' := by
  rw [toAscii, Text.isBlank_of_isDigit h]
  split
  · next ascii => cases h'.symm.trans (Text.ascii_of_isDigit h ascii).1
  · rw [Option.isSome_eq_false_iff.mp h' |> Option.isNone_iff_eq_none.mp]
    rfl

theorem isInfix_of_not_mem {needle cs : List Char} (away : c ∉ cs) :
    Text.isInfix (c :: needle) cs = false := by
  induction cs with
  | nil => rfl
  | cons x cs ih =>
      rw [List.mem_cons, not_or] at away
      rw [Text.isInfix, ih away.2, Bool.or_false, List.isPrefixOf, beq_false_of_ne away.1,
        Bool.false_and]

theorem separated?_of_digits {ds : List Char} (digits : ∀ c ∈ ds, c.isDigit = true) :
    separated? ds = some ds := by
  have away : '_' ∉ ds := fun mem => by cases digits _ mem
  have first : ds.head? ≠ some '_' := fun h => away (List.mem_of_mem_head? h)
  have last : ds.getLast? ≠ some '_' := fun h => away (List.mem_of_getLast? h)
  rw [separated?, decide_eq_false first, decide_eq_false last, isInfix_of_not_mem away]
  refine congrArg some (List.filter_eq_self.mpr fun c mem => ?_)
  rw [bne_iff_ne]
  rintro rfl
  exact away mem

theorem takeSign_of_digits {cs : List Char} (h : c.isDigit = true ∨ c = '?') :
    takeSign ((c :: cs).dropWhile Text.isAsciiBlank) = (false, c :: cs) := by
  have plain : Text.isAsciiBlank c = false ∧ c ≠ '-' ∧ c ≠ '+' := by
    obtain digit | rfl := h
    · refine ⟨?_, ?_, ?_⟩
      · rw [Bool.eq_false_iff]
        intro blank
        simp only [Text.isAsciiBlank, Bool.or_eq_true, Bool.and_eq_true, decide_eq_true_eq] at blank
        simp only [Char.isDigit, Bool.and_eq_true, decide_eq_true_eq, ge_iff_le,
          UInt32.le_iff_toNat_le] at digit
        change 48 ≤ c.toNat ∧ c.toNat ≤ 57 at digit
        obtain rfl | blank := blank
        · exact absurd digit.1 (by decide)
        · omega
      · rintro rfl
        cases digit
      · rintro rfl
        cases digit
    · decide
  rw [List.dropWhile_cons_of_neg (by simp [plain.1]), takeSign]
  · exact fun _ same => plain.2.1 (List.cons.inj same).1
  · exact fun _ same => plain.2.2 (List.cons.inj same).1

/-- The decimal digits in front make the number; another digit after them spoils it. -/
theorem integer_of_decimals {front back : List Char} (filled : front ++ back ≠ [])
    (decimals : ∀ c ∈ front, Text.isDecimal c = true)
    (stop : ∀ c rest, back = c :: rest → Text.isDigit c = true ∧ Text.isDecimal c = false) :
    integer (String.ofList (front ++ back)) =
      if maxDigits < front.length then .error (.tooLong front.length)
      else if back.isEmpty then .ok (ofDigits (front.map toAscii))
      else .error .malformed := by
  have digits : ∀ c ∈ front.map toAscii, c.isDigit = true := by
    rw [List.forall_mem_map]
    exact fun c mem => toAscii_of_isDecimal (decimals c mem)
  have signless : takeSign ((front.map toAscii ++ back.map toAscii).dropWhile Text.isAsciiBlank) =
      (false, front.map toAscii ++ back.map toAscii) := by
    cases front with
    | cons c front => exact takeSign_of_digits (.inl (digits _ List.mem_cons_self))
    | nil =>
        obtain ⟨c, rest, rfl⟩ := List.exists_cons_of_ne_nil filled
        obtain ⟨digit, other⟩ := stop c rest rfl
        exact takeSign_of_digits (.inr (toAscii_of_not_isDecimal digit other))
  have cut : ((front.map toAscii ++ back.map toAscii).takeWhile fun c => c.isDigit || c = '_') =
        front.map toAscii ∧
      ((front.map toAscii ++ back.map toAscii).dropWhile fun c => c.isDigit || c = '_') =
        back.map toAscii ∧ (back.map toAscii).all Text.isAsciiBlank = back.isEmpty := by
    have kind : ∀ c ∈ front.map toAscii, (c.isDigit || c = '_') = true :=
      fun c mem => by rw [digits c mem, Bool.true_or]
    rw [List.takeWhile_append_of_pos kind, List.dropWhile_append_of_pos kind]
    cases back with
    | nil => simp
    | cons c rest =>
        obtain ⟨digit, other⟩ := stop c rest rfl
        rw [List.map_cons, toAscii_of_not_isDecimal digit other]
        simp [Text.isAsciiBlank]
  simp only [integer, String.toList_ofList, List.map_append, signless, cut.1, cut.2.1, cut.2.2,
    separated?_of_digits digits, List.length_map]
  by_cases long : maxDigits < front.length
  · rw [if_pos long, if_pos long]
  · rw [if_neg long, if_neg long]
    cases back with
    | nil => simpa using filled
    | cons c rest => simp

end Numeral

namespace Path

/-- Digits that name no index: one of them has no decimal value, or there are too many. -/
def Unreadable (segment : List Char) : Prop :=
  isIndex segment = true ∧
    ((∃ c ∈ segment, Text.isDecimal c = false) ∨ Numeral.maxDigits < segment.length)

theorem exists_front (h : isIndex segment = true) : ∃ front back, segment = front ++ back ∧
    segment ≠ [] ∧ (∀ c ∈ front, Text.isDecimal c = true) ∧
      ∀ c rest, back = c :: rest → Text.isDigit c = true ∧ Text.isDecimal c = false := by
  rw [isIndex, Bool.and_eq_true, Bool.not_eq_true', List.isEmpty_eq_false_iff,
    List.all_eq_true] at h
  refine ⟨segment.takeWhile Text.isDecimal, segment.dropWhile Text.isDecimal,
    List.takeWhile_append_dropWhile.symm, h.1, List.all_eq_true.mp List.all_takeWhile, ?_⟩
  intro c rest same
  refine ⟨h.2 c (List.dropWhile_subset _ (same ▸ List.mem_cons_self)), ?_⟩
  have stopped := List.head?_dropWhile_not Text.isDecimal segment
  rw [same] at stopped
  exact stopped

theorem index_of_unreadable (h : Unreadable segment) : ∃ f, index segment = .error f := by
  obtain ⟨digits, unreadable⟩ := h
  obtain ⟨front, back, rfl, filled, decimals, stop⟩ := exists_front digits
  rw [index, Numeral.integer_of_decimals filled decimals stop]
  by_cases long : Numeral.maxDigits < front.length
  · rw [if_pos long]
    exact ⟨_, rfl⟩
  · rw [if_neg long]
    cases back with
    | cons c rest => exact ⟨_, rfl⟩
    | nil =>
        rw [List.append_nil] at unreadable
        obtain ⟨c, mem, other⟩ | long' := unreadable
        · cases other.symm.trans (decimals c mem)
        · exact absurd long' long

theorem exists_index (digits : isIndex segment = true) (h : ¬ Unreadable segment) :
    ∃ n, index segment = .ok n := by
  obtain ⟨front, back, rfl, filled, decimals, stop⟩ := exists_front digits
  cases back with
  | cons c rest =>
      refine absurd ⟨digits, .inl ⟨c, ?_, (stop c rest rfl).2⟩⟩ h
      exact List.mem_append_right _ List.mem_cons_self
  | nil =>
      have short : ¬ Numeral.maxDigits < front.length := by
        rw [List.append_nil] at digits h
        exact fun long => h ⟨digits, .inr long⟩
      rw [index, Numeral.integer_of_decimals filled decimals stop, if_neg short]
      exact ⟨_, rfl⟩

end Path
end Indices
end TriggerFlow
