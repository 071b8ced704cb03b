import Mathlib.Data.List.Nodup
import TriggerFlow.Json.Plain
import TriggerFlow.Proofs.Condition.Operands
import TriggerFlow.Proofs.Json.Numbers
import TriggerFlow.Proofs.Json.Strings

/-!
Values read back from their JSON text. What a text can spell reads back unchanged: numbers of every
kind, integers within the digit limit, and objects in the order of their keys.
-/

namespace TriggerFlow

variable {v : Value} {xs : List Value} {fs : Fields} {text rest cs : List Char} {fuel : Nat}
  {allowed : Binary64 → Prop} {style : Json.Style}

theorem bind_eq_ok {ε α β : Type} {x : Except ε α} {f : α → Except ε β} {b : β} :
    x >>= f = .ok b ↔ ∃ a, x = .ok a ∧ f a = .ok b := by
  cases x <;> simp [bind, Except.bind]

theorem return_eq_ok {ε α : Type} {a b : α} : (return a : Except ε α) = .ok b ↔ b = a :=
  ⟨fun h => (Except.ok.inj h).symm, fun h => congrArg Except.ok h.symm⟩

namespace Fields

theorem set_of_not_mem {k : String} {v : Value} (new : k ∉ fs.map Prod.fst) :
    fs.set k v = fs ++ [(k, v)] := by
  induction fs with
  | nil => rfl
  | cons f fs ih =>
      obtain ⟨key, w⟩ := f
      rw [List.map_cons, List.mem_cons, not_or] at new
      rw [set, if_neg (Ne.symm new.1), ih new.2]
      rfl

theorem overlay_of_disjoint {added : Fields} (once : ((fs ++ added).map Prod.fst).Nodup) :
    fs.overlay added = fs ++ added := by
  induction added generalizing fs with
  | nil => exact (List.append_nil fs).symm
  | cons f added ih =>
      rw [List.append_cons] at once
      have new : f.1 ∉ fs.map Prod.fst := by
        rw [List.map_append, List.map_append] at once
        have apart := (List.nodup_append.mp (List.Nodup.of_append_left once)).2.2
        exact fun mem => apart _ mem _ (List.mem_singleton_self _) rfl
      rw [overlay, List.foldl_cons, set_of_not_mem new]
      exact (ih once).trans (List.append_cons ..).symm

/-- Fields in which no key comes twice stay as they are. -/
theorem ofPairs_of_nodup (once : (fs.map Prod.fst).Nodup) : ofPairs fs = fs :=
  overlay_of_disjoint once

end Fields

/-- What JSON text can spell, with doubles among those that are allowed: integers within the digit
limit, objects whose keys differ, and text that holds no halves of a surrogate pair side by side. -/
inductive Value.Spellable (allowed : Binary64 → Prop) : Value → Prop
  | null : Spellable allowed .null
  | bool (b : Bool) : Spellable allowed (.bool b)
  | int {n : Int} (short : n.natAbs < 10 ^ Numeral.maxDigits) : Spellable allowed (.int n)
  | float {x : Binary64} (among : allowed x) : Spellable allowed (.float x)
  | str {s : String} (spellable : Json.Spellable s.toList) : Spellable allowed (.str s)
  | arr {xs : List Value} (elems : ∀ x ∈ xs, Spellable allowed x) : Spellable allowed (.arr xs)
  | obj {fs : Fields} (once : (fs.map Prod.fst).Nodup)
      (keys : ∀ f ∈ fs, Json.Spellable f.1.toList) (fields : ∀ f ∈ fs, Spellable allowed f.2) :
      Spellable allowed (.obj fs)

namespace Value.Spellable

/-- Doubles among fewer are doubles among more. -/
theorem mono {more : Binary64 → Prop} (h : v.Spellable allowed) (wider : ∀ x, allowed x → more x) :
    v.Spellable more := by
  induction h with
  | null => exact .null
  | bool b => exact .bool b
  | int short => exact .int short
  | float among => exact .float (wider _ among)
  | str spellable => exact .str spellable
  | arr _ ih => exact .arr ih
  | obj once keys _ ih => exact .obj once keys ih

theorem short (h : v.Spellable allowed) : ¬ v.HoldsLong := by
  intro long
  induction long with
  | int long =>
      cases h with
      | int short => exact Nat.not_lt_of_le long short
  | elem mem _ ih =>
      cases h with
      | arr elems => exact ih (elems _ mem)
  | field mem _ ih =>
      cases h with
      | obj _ _ fields => exact ih (fields _ mem)

end Value.Spellable

/-- What documents can hold: what JSON can spell, with finite numbers. -/
def Value.IsPlain (v : Value) : Prop := v.Spellable fun x => x.isFinite = true

theorem Value.plainElems_eq (each : ∀ x ∈ xs, x.plain = x) : Value.plainElems xs = xs := by
  induction xs with
  | nil => rfl
  | cons x xs ih =>
      have others := ih fun y mem => each y (List.mem_cons_of_mem x mem)
      rw [plainElems, each x List.mem_cons_self, others]

theorem Fields.plain_eq (each : ∀ f ∈ fs, f.2.plain = f.2) : Fields.plain fs = fs := by
  induction fs with
  | nil => rfl
  | cons f fs ih =>
      obtain ⟨key, x⟩ := f
      have same : x.plain = x := each (key, x) List.mem_cons_self
      rw [plain, same, ih fun g mem => each g (List.mem_cons_of_mem _ mem)]

/-- Documents hold it as it is. -/
theorem Value.IsPlain.plain_eq (h : v.IsPlain) : v.plain = v := by
  induction h with
  | null | bool _ | int _ | str _ => rfl
  | float finite => exact if_pos finite
  | arr _ ih => exact congrArg Value.arr (plainElems_eq ih)
  | obj _ _ _ ih => exact congrArg Value.obj (Fields.plain_eq ih)

theorem Fields.plain_of_plain (h : (Value.obj fs).IsPlain) : Fields.plain fs = fs :=
  Value.obj.inj h.plain_eq

namespace Json

theorem isDigit_ne {c : Char} (digit : c.isDigit = true) :
    c ≠ '"' ∧ c ≠ '[' ∧ c ≠ '\x7b' ∧ c ≠ 'n' ∧ c ≠ 't' ∧ c ≠ 'f' ∧ c ≠ 'N' ∧ c ≠ 'I' ∧ c ≠ '-' := by
  refine ⟨?_, ?_, ?_, ?_, ?_, ?_, ?_, ?_, ?_⟩ <;> (rintro rfl; cases digit)

/-- How a number begins. -/
inductive Numeric : List Char → Prop
  | unsigned {c : Char} (digit : c.isDigit = true) (more : List Char) : Numeric (c :: more)
  | signed {c : Char} (digit : c.isDigit = true) (more : List Char) : Numeric ('-' :: c :: more)

theorem wholeDigits_of_no_digit (none : ∀ c ∈ cs.head?, c.isDigit = false) :
    (wholeDigits cs).1 = [] := by
  cases cs with
  | nil => rfl
  | cons c cs =>
      have other := none c rfl
      unfold wholeDigits
      split
      · next zero =>
        cases zero
        cases other
      · simp [other]

theorem numeric_of_readNumber {x : Value × List Char} (read : readNumber cs = .ok x) :
    Numeric cs := by
  by_contra other
  cases cs with
  | nil => cases read
  | cons c more =>
      by_cases minus : c = '-'
      · subst minus
        have empty : (wholeDigits more).1 = [] := wholeDigits_of_no_digit fun d first => by
          obtain ⟨_, rfl⟩ := List.head?_eq_some_iff.mp first
          exact Bool.eq_false_iff.mpr fun digit => other (.signed digit _)
        simp [readNumber, empty] at read
      · have empty : (wholeDigits (c :: more)).1 = [] := wholeDigits_of_no_digit fun d first => by
          cases first
          exact Bool.eq_false_iff.mpr fun digit => other (.unsigned digit _)
        simp [readNumber, minus, empty] at read

theorem readValue_of_numeric (numeric : Numeric cs) : readValue (fuel + 1) cs = readNumber cs := by
  cases numeric with
  | unsigned digit more =>
      obtain ⟨h₁, h₂, h₃, h₄, h₅, h₆, h₇, h₈, h₉⟩ := isDigit_ne digit
      simp [readValue, words, h₁, h₂, h₃, h₄.symm, h₅.symm, h₆.symm, h₇.symm, h₈.symm, h₉.symm]
  | signed digit more =>
      obtain ⟨-, -, -, -, -, -, -, h₈, -⟩ := isDigit_ne digit
      simp [readValue, words, h₈.symm]

theorem readValue_null (rest : List Char) :
    readValue (fuel + 1) ("null".toList ++ rest) = .ok (.null, rest) := by
  simp [readValue, words]

theorem readValue_bool (b : Bool) (rest : List Char) :
    readValue (fuel + 1) ((if b then "true".toList else "false".toList) ++ rest) =
      .ok (.bool b, rest) := by
  cases b <;> simp [readValue, words]

theorem readValue_int {n : Int} (written : integerText n = .ok text) (closes : Closes rest) :
    readValue (fuel + 1) (text ++ rest) = .ok (.int n, rest) := by
  have read := readNumber_integer written closes
  rw [readValue_of_numeric (numeric_of_readNumber read), read]

theorem readValue_float {x : Binary64} (written : writeFloat style x = .ok text)
    (closes : Closes rest) : readValue (fuel + 1) (text ++ rest) = .ok (.float x, rest) := by
  cases x with
  | nan =>
      unfold writeFloat at written
      dsimp only at written
      split at written
      · cases written
        simp [readValue, words]
      · cases written
  | infinite negative =>
      unfold writeFloat at written
      dsimp only at written
      split at written
      · cases written
        cases negative <;> simp [readValue, words]
      · cases written
  | finite negative rank =>
      cases written
      have read := Binary64.readNumber_text negative rank closes
      rw [readValue_of_numeric (numeric_of_readNumber read), read]

theorem readValue_string (asciiOnly : Bool) {s : String} (spellable : Spellable s.toList)
    (rest : List Char) :
    readValue (fuel + 1) (writeString asciiOnly s ++ rest) = .ok (.str s, rest) := by
  rw [writeString, List.cons_append, List.append_assoc, List.singleton_append, readValue,
    if_pos rfl, readString_escaped asciiOnly _ rest spellable]
  simp [Except.map]

theorem writeChars_arr : writeChars style (.arr xs) = .ok text ↔
    ∃ inner, writeElems style true xs = .ok inner ∧ text = '[' :: (inner ++ [']']) := by
  simp only [writeChars, bind_eq_ok, return_eq_ok]

theorem writeChars_obj : writeChars style (.obj fs) = .ok text ↔
    ∃ inner, writeFields style true fs = .ok inner ∧ text = '\x7b' :: (inner ++ ['\x7d']) := by
  simp only [writeChars, bind_eq_ok, return_eq_ok]

theorem writeElems_first {x : Value} : writeElems style true (x :: xs) = .ok text ↔
    ∃ head tail, writeChars style x = .ok head ∧ writeElems style false xs = .ok tail ∧
      text = head ++ tail := by
  simp only [writeElems, bind_eq_ok, return_eq_ok, exists_and_left]
  rfl

theorem writeElems_more {x : Value} : writeElems style false (x :: xs) = .ok text ↔
    ∃ head tail, writeChars style x = .ok head ∧ writeElems style false xs = .ok tail ∧
      text = style.itemSeparator ++ (head ++ tail) := by
  simp only [writeElems, bind_eq_ok, return_eq_ok, exists_and_left, List.append_assoc]
  rfl

theorem writeFields_first {key : String} {x : Value} :
    writeFields style true ((key, x) :: fs) = .ok text ↔ ∃ head tail,
      writeChars style x = .ok head ∧ writeFields style false fs = .ok tail ∧
      text = writeString style.asciiOnly key ++ (style.keySeparator ++ (head ++ tail)) := by
  simp only [writeFields, bind_eq_ok, return_eq_ok, exists_and_left, List.append_assoc]
  rfl

theorem writeFields_more {key : String} {x : Value} :
    writeFields style false ((key, x) :: fs) = .ok text ↔ ∃ head tail,
      writeChars style x = .ok head ∧ writeFields style false fs = .ok tail ∧
      text = style.itemSeparator ++
        (writeString style.asciiOnly key ++ (style.keySeparator ++ (head ++ tail))) := by
  simp only [writeFields, bind_eq_ok, return_eq_ok, exists_and_left, List.append_assoc]
  rfl

/-- A mark, with blanks after it or without. -/
def Marks (mark : Char) (separator : List Char) : Prop :=
  ∃ blanks, separator = mark :: blanks ∧ ∀ c ∈ blanks, isJsonBlank c = true

/-- A style whose separators a reader takes for what they are. -/
structure Style.Separates (style : Style) : Prop where
  items : Marks ',' style.itemSeparator
  keys : Marks ':' style.keySeparator

theorem Style.separates_spaced : Style.spaced.Separates where
  items := ⟨[' '], rfl, List.forall_mem_singleton.mpr rfl⟩
  keys := ⟨[' '], rfl, List.forall_mem_singleton.mpr rfl⟩

theorem Style.separates_strict : Style.strict.Separates where
  items := ⟨[], rfl, List.forall_mem_nil _⟩
  keys := ⟨[], rfl, List.forall_mem_nil _⟩

/-- A character that a value may begin with. -/
def Opens (c : Char) : Prop := isJsonBlank c = false ∧ c ≠ ']' ∧ c ≠ '\ufeff'

theorem opens_of_isDigit {c : Char} (digit : c.isDigit = true) : Opens c := by
  refine ⟨?_, ?_, ?_⟩
  · rw [← Bool.not_eq_true]
    intro blank
    simp only [isJsonBlank, Bool.or_eq_true, decide_eq_true_eq] at blank
    obtain ((rfl | rfl) | rfl) | rfl := blank <;> cases digit
  all_goals rintro rfl; cases digit

theorem Numeric.opens (h : Numeric cs) : ∃ c more, cs = c :: more ∧ Opens c := by
  cases h with
  | unsigned digit more => exact ⟨_, more, rfl, opens_of_isDigit digit⟩
  | signed digit more => exact ⟨_, _, rfl, by decide, by decide, by decide⟩

/-- The text of a value begins neither with a blank nor with what closes a list. -/
theorem opens_of_written (written : writeChars style v = .ok text) :
    ∃ c more, text = c :: more ∧ Opens c := by
  cases v with
  | null => cases written; exact ⟨_, _, rfl, by decide, by decide, by decide⟩
  | bool b =>
      cases written
      cases b <;> exact ⟨_, _, rfl, by decide, by decide, by decide⟩
  | int n =>
      have read := readNumber_integer written closes_nil
      rw [List.append_nil] at read
      exact (numeric_of_readNumber read).opens
  | float x =>
      cases x with
      | nan =>
          unfold writeChars writeFloat at written
          dsimp only at written
          split at written
          · cases written
            exact ⟨_, _, rfl, by decide, by decide, by decide⟩
          · cases written
      | infinite negative =>
          unfold writeChars writeFloat at written
          dsimp only at written
          split at written
          · cases written
            cases negative <;> exact ⟨_, _, rfl, by decide, by decide, by decide⟩
          · cases written
      | finite negative rank =>
          cases written
          have read := Binary64.readNumber_text negative rank closes_nil
          rw [List.append_nil] at read
          exact (numeric_of_readNumber read).opens
  | str s | time t => cases written; exact ⟨_, _, rfl, by decide, by decide, by decide⟩
  | arr xs =>
      obtain ⟨_, -, rfl⟩ := writeChars_arr.mp written
      exact ⟨_, _, rfl, by decide, by decide, by decide⟩
  | obj fs =>
      obtain ⟨_, -, rfl⟩ := writeChars_obj.mp written
      exact ⟨_, _, rfl, by decide, by decide, by decide⟩

theorem skipBlanks_of_opens {c : Char} {more : List Char} (opens : Opens c) :
    skipBlanks (c :: more) = c :: more := by
  simp [skipBlanks, opens.1]

theorem skipBlanks_append {blanks : List Char} (blank : ∀ c ∈ blanks, isJsonBlank c = true)
    (cs : List Char) : skipBlanks (blanks ++ cs) = skipBlanks cs :=
  List.dropWhile_append_of_pos blank

theorem skipBlanks_written (written : writeChars style v = .ok text) (rest : List Char) :
    skipBlanks (text ++ rest) = text ++ rest := by
  obtain ⟨c, more, rfl, opens⟩ := opens_of_written written
  exact skipBlanks_of_opens opens

/-- How the text of a value is read back, whatever may stand after it. -/
def Rereads (style : Style) (v : Value) : Prop :=
  ∀ text rest fuel, writeChars style v = .ok text → Closes rest → text.length < fuel →
    readValue fuel (text ++ rest) = .ok (v, rest)

section Parts

variable {x : Value} {more : List Char}

theorem readElems_last (read : readValue fuel cs = .ok (x, ']' :: rest)) :
    readElems (fuel + 1) cs = .ok ([x], rest) := by
  rw [readElems, read]
  rfl

theorem readElems_more (read : readValue fuel cs = .ok (x, ',' :: more))
    (others : readElems fuel (skipBlanks more) = .ok (xs, rest)) :
    readElems (fuel + 1) cs = .ok (x :: xs, rest) := by
  rw [readElems, read]
  exact congrArg (Except.map _) others

variable {key : String} {asciiOnly : Bool}

/-- A member is its key, a colon and its value. -/
theorem readMembers_eq (spellable : Spellable key.toList) (cs : List Char) :
    readMembers (fuel + 1) (writeString asciiOnly key ++ ':' :: cs) =
      readValue fuel (skipBlanks cs) >>= fun (x, rest) => match skipBlanks rest with
        | '\x7d' :: out => .ok ([(key, x)], out)
        | ',' :: more =>
          (readMembers fuel (skipBlanks more)).map fun (fs, out) => ((key, x) :: fs, out)
        | other => .error (.broken .comma other.length) := by
  rw [writeString, List.cons_append, List.append_assoc, List.singleton_append, readMembers,
    readString_escaped asciiOnly _ (':' :: cs) spellable]
  simp only [bind, Except.bind, String.ofList_toList]
  rfl

theorem readMembers_last (spellable : Spellable key.toList)
    (read : readValue fuel (skipBlanks cs) = .ok (x, '\x7d' :: rest)) :
    readMembers (fuel + 1) (writeString asciiOnly key ++ ':' :: cs) = .ok ([(key, x)], rest) := by
  rw [readMembers_eq spellable, read]
  rfl

theorem readMembers_more (spellable : Spellable key.toList)
    (read : readValue fuel (skipBlanks cs) = .ok (x, ',' :: more))
    (others : readMembers fuel (skipBlanks more) = .ok (fs, rest)) :
    readMembers (fuel + 1) (writeString asciiOnly key ++ ':' :: cs) =
      .ok ((key, x) :: fs, rest) := by
  rw [readMembers_eq spellable, read]
  exact congrArg (Except.map _) others

end Parts

section Style

variable (separates : style.Separates)
include separates

/-- The elements after the first one, each behind its separator, are read in turn. -/
theorem readElems_written {x : Value} {head tail : List Char}
    (each : ∀ y ∈ x :: xs, Rereads style y) (first : writeChars style x = .ok head)
    (others : writeElems style false xs = .ok tail) (enough : (head ++ tail).length + 1 < fuel)
    (rest : List Char) : readElems fuel (head ++ (tail ++ ']' :: rest)) = .ok (x :: xs, rest) := by
  obtain ⟨fuel, rfl⟩ := Nat.exists_eq_add_one_of_ne_zero (Nat.ne_zero_of_lt enough)
  obtain ⟨blanks, items, blank⟩ := separates.items
  induction xs generalizing x head tail fuel with
  | nil =>
      cases others
      rw [List.append_nil] at enough
      exact readElems_last (each x List.mem_cons_self head _ fuel first (closes_cons (by simp) rest)
        (by omega))
  | cons y ys ih =>
      obtain ⟨head', tail', first', others', rfl⟩ := writeElems_more.mp others
      rw [items] at enough ⊢
      simp only [List.length_append, List.length_cons] at enough ih
      obtain ⟨fuel, rfl⟩ : ∃ f, fuel = f + 1 := ⟨fuel - 1, by omega⟩
      simp only [List.cons_append, List.append_assoc]
      refine readElems_more (each x List.mem_cons_self head _ _ first (closes_cons (.inl rfl) _)
        (by omega)) ?_
      rw [skipBlanks_append blank, skipBlanks_written first']
      exact ih (fun z mem => each z (List.mem_cons_of_mem x mem)) first' others' fuel (by omega)

theorem readMembers_written {key : String} {x : Value} {head tail : List Char}
    (each : ∀ f ∈ (key, x) :: fs, Rereads style f.2)
    (keys : ∀ f ∈ (key, x) :: fs, Spellable f.1.toList) (first : writeChars style x = .ok head)
    (others : writeFields style false fs = .ok tail) (enough : (head ++ tail).length + 1 < fuel)
    (rest : List Char) :
    readMembers fuel (writeString style.asciiOnly key ++
      (style.keySeparator ++ (head ++ (tail ++ '\x7d' :: rest)))) = .ok ((key, x) :: fs, rest) := by
  obtain ⟨fuel, rfl⟩ := Nat.exists_eq_add_one_of_ne_zero (Nat.ne_zero_of_lt enough)
  obtain ⟨blanks, items, blank⟩ := separates.items
  obtain ⟨blanks', colon, blank'⟩ := separates.keys
  have read {x : Value} {head : List Char} (first : writeChars style x = .ok head)
      (again : Rereads style x) {fuel : Nat} (enough : head.length < fuel) (cs : List Char)
      (closes : Closes cs) :
      readValue fuel (skipBlanks (blanks' ++ (head ++ cs))) = .ok (x, cs) := by
    rw [skipBlanks_append blank', skipBlanks_written first]
    exact again head cs _ first closes enough
  rw [colon]
  induction fs generalizing key x head tail fuel with
  | nil =>
      cases others
      rw [List.append_nil] at enough
      exact readMembers_last (keys _ List.mem_cons_self) (read first (each _ List.mem_cons_self)
        (by omega) _ (closes_cons (by simp) rest))
  | cons f fs ih =>
      obtain ⟨key', y⟩ := f
      obtain ⟨head', tail', first', others', rfl⟩ := writeFields_more.mp others
      rw [items, colon] at enough ⊢
      simp only [List.length_append, List.length_cons] at enough ih
      obtain ⟨fuel, rfl⟩ : ∃ f, fuel = f + 1 := ⟨fuel - 1, by omega⟩
      simp only [List.cons_append, List.append_assoc]
      refine readMembers_more (keys _ List.mem_cons_self) (read first (each _ List.mem_cons_self)
        (by omega) _ (closes_cons (.inl rfl) _)) ?_
      rw [skipBlanks_append blank]
      exact ih (fun f mem => each f (List.mem_cons_of_mem _ mem))
        (fun f mem => keys f (List.mem_cons_of_mem _ mem)) first' others' fuel (by omega)

end Style

theorem rereads_of_succ (read : ∀ text rest fuel, writeChars style v = .ok text → Closes rest →
    text.length ≤ fuel → readValue (fuel + 1) (text ++ rest) = .ok (v, rest)) :
    Rereads style v := by
  intro text rest fuel written closes enough
  obtain ⟨fuel, rfl⟩ := Nat.exists_eq_add_one_of_ne_zero (Nat.ne_zero_of_lt enough)
  exact read text rest fuel written closes (Nat.le_of_lt_succ enough)

theorem readValue_arr {c : Char} {more : List Char} (opens : Opens c)
    (read : readElems fuel (c :: more) = .ok (xs, rest)) :
    readValue (fuel + 1) ('[' :: c :: more) = .ok (.arr xs, rest) := by
  have other : c ≠ ']' := opens.2.1
  simp [readValue, skipBlanks_of_opens opens, other, read, Except.map]

theorem readValue_obj (read : readMembers fuel ('"' :: cs) = .ok (fs, rest))
    (once : (fs.map Prod.fst).Nodup) :
    readValue (fuel + 1) ('\x7b' :: '"' :: cs) = .ok (.obj fs, rest) := by
  have quote : skipBlanks ('"' :: cs) = '"' :: cs := rfl
  simp [readValue, quote, read, Except.map, Fields.ofPairs_of_nodup once]

section Style

variable (separates : style.Separates)
include separates

theorem rereads_arr (each : ∀ x ∈ xs, Rereads style x) : Rereads style (.arr xs) := by
  refine rereads_of_succ fun text rest fuel written closes enough => ?_
  obtain ⟨inner, inner_written, rfl⟩ := writeChars_arr.mp written
  cases xs with
  | nil =>
      cases inner_written
      rfl
  | cons x xs =>
      obtain ⟨head, tail, first, others, rfl⟩ := writeElems_first.mp inner_written
      have enough : (head ++ tail).length + 1 < fuel := by
        simp at enough ⊢
        omega
      have read := readElems_written separates each first others enough rest
      obtain ⟨c, more, rfl, opens⟩ := opens_of_written first
      simpa using readValue_arr opens read

theorem rereads_obj (once : (fs.map Prod.fst).Nodup) (keys : ∀ f ∈ fs, Spellable f.1.toList)
    (each : ∀ f ∈ fs, Rereads style f.2) : Rereads style (.obj fs) := by
  refine rereads_of_succ fun text rest fuel written closes enough => ?_
  obtain ⟨inner, inner_written, rfl⟩ := writeChars_obj.mp written
  cases fs with
  | nil =>
      cases inner_written
      rfl
  | cons f fs =>
      obtain ⟨key, x⟩ := f
      obtain ⟨head, tail, first, others, rfl⟩ := writeFields_first.mp inner_written
      have enough : (head ++ tail).length + 1 < fuel := by
        simp [writeString] at enough ⊢
        omega
      have read := readMembers_written separates each keys first others enough rest
      rw [writeString, List.cons_append] at read
      simpa [writeString] using readValue_obj read once

/-- What is spelled is read back. -/
theorem rereads_of_spellable (spellable : v.Spellable allowed) : Rereads style v := by
  induction spellable with
  | null =>
      refine rereads_of_succ fun text rest fuel written closes enough => ?_
      cases written
      exact readValue_null rest
  | bool b =>
      refine rereads_of_succ fun text rest fuel written closes enough => ?_
      cases written
      exact readValue_bool b rest
  | int _ => exact rereads_of_succ fun _ _ _ written closes _ => readValue_int written closes
  | float _ => exact rereads_of_succ fun _ _ _ written closes _ => readValue_float written closes
  | str spellable =>
      refine rereads_of_succ fun text rest fuel written closes enough => ?_
      cases written
      exact readValue_string _ spellable rest
  | arr _ ih => exact rereads_arr separates ih
  | obj once keys _ ih => exact rereads_obj separates once keys ih

/-- The text of what JSON can spell is read back as it. -/
theorem readChars_of_written (spellable : v.Spellable allowed)
    (written : writeChars style v = .ok text) : readChars text = .ok v := by
  obtain ⟨c, more, rfl, opens⟩ := opens_of_written written
  have value := rereads_of_spellable separates spellable _ [] _ written closes_nil
    (Nat.lt_succ_self _)
  rw [List.append_nil] at value
  have mark : c ≠ '\ufeff' := opens.2.2
  rw [readChars]
  · rw [skipBlanks_of_opens opens, value]
    rfl
  · simp [mark]

end Style

theorem writeElems_congr {other : Style} (commas : style.itemSeparator = other.itemSeparator)
    (each : ∀ x ∈ xs, writeChars style x = writeChars other x) (first : Bool) :
    writeElems style first xs = writeElems other first xs := by
  induction xs generalizing first with
  | nil => rfl
  | cons x xs ih =>
      simp only [writeElems, each x List.mem_cons_self, commas,
        ih fun y mem => each y (List.mem_cons_of_mem x mem)]

theorem writeFields_congr {other : Style} (commas : style.itemSeparator = other.itemSeparator)
    (colons : style.keySeparator = other.keySeparator) (ascii : style.asciiOnly = other.asciiOnly)
    (each : ∀ f ∈ fs, writeChars style f.2 = writeChars other f.2) (first : Bool) :
    writeFields style first fs = writeFields other first fs := by
  induction fs generalizing first with
  | nil => rfl
  | cons f fs ih =>
      obtain ⟨key, x⟩ := f
      have same : writeChars style x = writeChars other x := each (key, x) List.mem_cons_self
      simp only [writeFields, same, commas, colons, ascii,
        ih fun g mem => each g (List.mem_cons_of_mem _ mem)]

/-- Without numbers that are not finite, it does not matter whether those are allowed. -/
theorem writeChars_strict (plain : v.IsPlain) :
    writeChars .strict v = writeChars .compact v := by
  induction plain with
  | null | bool _ | int _ | str _ => rfl
  | @float x finite =>
      cases x with
      | finite _ _ => rfl
      | nan | infinite _ => cases finite
  | arr _ ih => rw [writeChars, writeChars, writeElems_congr (by rfl) ih]
  | obj _ _ _ ih => rw [writeChars, writeChars, writeFields_congr (by rfl) (by rfl) (by rfl) ih]

theorem write_strict_ok (plain : v.IsPlain) : ∃ s, write .strict v = .ok s := by
  have finite : Style.compact.allowsNonFinite = true := rfl
  obtain ⟨text, written⟩ := writeChars_ok finite v plain.short
  exact ⟨String.ofList text, by rw [write, writeChars_strict plain, written]; rfl⟩

/-- What JSON can spell is written, and its text is read back as it. -/
theorem read_of_write (spellable : v.Spellable allowed) :
    ∃ s, write .spaced v = .ok s ∧ read s = .ok v := by
  have finite : Style.spaced.allowsNonFinite = true := rfl
  obtain ⟨text, written⟩ := writeChars_ok finite v spellable.short
  refine ⟨String.ofList text, by rw [write, written]; rfl, ?_⟩
  rw [read, String.toList_ofList, readChars_of_written Style.separates_spaced spellable written]
  rfl

theorem read_of_written {s : String} (spellable : v.Spellable allowed)
    (written : write .spaced v = .ok s) : read s = .ok v := by
  obtain ⟨t, written', read⟩ := read_of_write spellable
  cases written.symm.trans written'
  exact read

end Json
end TriggerFlow
