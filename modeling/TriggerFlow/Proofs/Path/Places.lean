import Mathlib.Data.List.Basic
import Mathlib.Data.List.Forall2
import TriggerFlow.Proofs.Condition.Operands
import TriggerFlow.Proofs.Json.Numbers
import TriggerFlow.Proofs.Template.Tokens

/-!
Places in dynamic data and the paths that spell them. A place is reached by a chain of accesses, to
keys of objects and to elements of lists; a path has a value exactly where its segments spell such
a chain, and that is the value at its end, null included.
-/

namespace TriggerFlow

variable {c : Char} {segment : List Char}

namespace Text

theorem decimalValue?_of_isDecimal (h : isDecimal c = true) :
    decimalValue? c = some ((Numeral.toAscii c).toNat - 48) := by
  have digit : isDigit c = true := by rw [isDigit, h, Bool.true_or]
  rw [Numeral.toAscii, isBlank_of_isDigit digit]
  obtain ⟨d, value⟩ := Option.isSome_iff_exists.mp h
  obtain ⟨r, found, rfl⟩ := Option.map_eq_some_iff.mp value
  split
  · next ascii =>
    have within := List.find?_some found
    simp only [Bool.and_eq_true, decide_eq_true_eq] at within
    obtain rfl := decimal_ascii r (List.mem_of_find?_eq_some found) (by omega)
    rw [value]
    exact congrArg some (by omega)
  · have small : (c.toNat - r.1) % 10 < 10 := Nat.mod_lt _ (by decide)
    have values : ∀ d < 10, d = (Char.ofNat (48 + d)).toNat - 48 := by decide
    rw [value]
    exact congrArg some (values _ small)

theorem toNat_of_isDigit (h : c.isDigit = true) : 48 ≤ c.toNat ∧ c.toNat ≤ 57 := by
  simp only [Char.isDigit, Bool.and_eq_true, decide_eq_true_eq, ge_iff_le,
    UInt32.le_iff_toNat_le] at h
  exact h

theorem isDecimal_of_isDigit (h : c.isDigit = true) : isDecimal c = true := by
  rw [isDecimal_eq_inRanges, inRanges, List.any_eq_true]
  refine ⟨(48, 57), by decide, ?_⟩
  rw [Bool.and_eq_true, decide_eq_true_eq, decide_eq_true_eq]
  exact toNat_of_isDigit h

end Text

namespace Path

/-- The number that decimal digits of any script stand for. -/
def value (segment : List Char) : Nat :=
  segment.foldl (fun n c => 10 * n + (Text.decimalValue? c).getD 0) 0

theorem value_eq_ofDigits (decimals : ∀ c ∈ segment, Text.isDecimal c = true) :
    value segment = Numeral.ofDigits (segment.map Numeral.toAscii) := by
  rw [value, Numeral.ofDigits, List.foldl_map]
  refine List.foldl_ext _ _ _ fun n c mem => ?_
  rw [Text.decimalValue?_of_isDecimal (decimals c mem), Option.getD_some]

theorem value_of_digits (digits : ∀ c ∈ segment, c.isDigit = true) :
    value segment = Numeral.ofDigits segment := by
  have plain : ∀ c ∈ segment, Numeral.toAscii c = id c := by
    intro c mem
    have range := Text.toNat_of_isDigit (digits c mem)
    exact if_pos (by omega)
  rw [value_eq_ofDigits fun c mem => Text.isDecimal_of_isDigit (digits c mem),
    List.map_congr_left plain, List.map_id]

/-- One access: to what an object has under a key, or to an element of a list. -/
inductive Access where
  | key (name : String)
  | index (i : Nat)
  deriving DecidableEq, Repr

/-- `At v accesses w`: one after the other the accesses lead from `v` to `w`. -/
inductive At : Value → List Access → Value → Prop
  | root (v : Value) : At v [] v
  | key {fs : Fields} {name : String} {v w : Value} {more : List Access}
      (found : fs.get? name = some v) (rest : At v more w) : At (.obj fs) (.key name :: more) w
  | index {xs : List Value} {i : Nat} {v w : Value} {more : List Access} (found : xs[i]? = some v)
      (rest : At v more w) : At (.arr xs) (.index i :: more) w

/-- `Spells segment access`: a key is spelled as it is, and an index in the decimal digits of any
script, as many as an integer may have that is read. -/
inductive Spells : List Char → Access → Prop
  | key (name : String) : Spells name.toList (.key name)
  | index {segment : List Char} (filled : segment ≠ [])
      (decimals : ∀ c ∈ segment, Text.isDecimal c = true)
      (short : segment.length ≤ Numeral.maxDigits) : Spells segment (.index (value segment))

namespace Access

def text : Access → List Char
  | key name => name.toList
  | index i => Nat.toDigits 10 i

/-- Whether a path can name the access. A key must not have a point in it; every list that fits into
a memory has indices of far fewer digits than are read. -/
def IsNameable : Access → Prop
  | key name => '.' ∉ name.toList
  | index i => i < 10 ^ Numeral.maxDigits

end Access

/-- The accesses in their usual spelling, joined by points. -/
def spelling (accesses : List Access) : String :=
  Text.join "." (accesses.map fun a => String.ofList a.text)

variable {v w context : Value} {i : Nat} {access : Access} {accesses : List Access}
  {parts : List (List Char)} {path : String}

section Segments

theorem isIndex_of_decimals (filled : segment ≠ [])
    (decimals : ∀ c ∈ segment, Text.isDecimal c = true) : isIndex segment = true := by
  rw [isIndex, Bool.and_eq_true, Bool.not_eq_true', List.isEmpty_eq_false_iff, List.all_eq_true]
  refine ⟨filled, fun c mem => ?_⟩
  rw [Text.isDigit, decimals c mem, Bool.true_or]

theorem index_of_decimals (filled : segment ≠ [])
    (decimals : ∀ c ∈ segment, Text.isDecimal c = true)
    (short : segment.length ≤ Numeral.maxDigits) : index segment = .ok (value segment) := by
  have filled' : segment ++ [] ≠ [] := by rwa [List.append_nil]
  have read := Numeral.integer_of_decimals filled' decimals nofun
  rw [List.append_nil, if_neg (Nat.not_lt_of_le short)] at read
  rw [index, read, value_eq_ofDigits decimals]
  rfl

theorem decimals_of_index (digits : isIndex segment = true) (named : index segment = .ok i) :
    segment ≠ [] ∧ (∀ c ∈ segment, Text.isDecimal c = true) ∧
      segment.length ≤ Numeral.maxDigits ∧ value segment = i := by
  have readable : ¬ Unreadable segment := fun unreadable => by
    obtain ⟨f, failed⟩ := index_of_unreadable unreadable
    cases named.symm.trans failed
  have decimals : ∀ c ∈ segment, Text.isDecimal c = true := by
    intro c mem
    by_contra other
    exact readable ⟨digits, .inl ⟨c, mem, Bool.eq_false_iff.mpr other⟩⟩
  have short : segment.length ≤ Numeral.maxDigits :=
    Nat.le_of_not_lt fun long => readable ⟨digits, .inr long⟩
  have filled : segment ≠ [] := by
    rintro rfl
    cases digits
  refine ⟨filled, decimals, short, ?_⟩
  cases (index_of_decimals filled decimals short).symm.trans named
  rfl

theorem step_eq_some_iff :
    step v segment = .ok (some w) ↔ ∃ access, Spells segment access ∧ At v [access] w := by
  constructor
  · intro taken
    cases v with
    | obj fs =>
        refine ⟨.key (String.ofList segment), ?_, .key (Except.ok.inj taken) (.root w)⟩
        have spelled := Spells.key (String.ofList segment)
        rwa [String.toList_ofList] at spelled
    | arr xs =>
        rw [step] at taken
        split at taken
        · next digits =>
          cases named : index segment with
          | error f =>
              rw [named] at taken
              cases taken
          | ok i =>
              rw [named] at taken
              obtain ⟨filled, decimals, short, rfl⟩ := decimals_of_index digits named
              exact ⟨_, .index filled decimals short, .index (Except.ok.inj taken) (.root w)⟩
        · cases taken
    | null | bool _ | int _ | float _ | str _ | time _ => cases taken
  · rintro ⟨access, spells, leads⟩
    cases leads with
    | key found rest =>
        cases rest
        cases spells
        rw [step, String.ofList_toList, found]
    | index found rest =>
        cases rest
        cases spells with
        | index filled decimals short =>
            rw [step, if_pos (isIndex_of_decimals filled decimals),
              index_of_decimals filled decimals short]
            exact congrArg Except.ok found

end Segments

theorem At.trans {more : List Access} {u : Value} (h : At u accesses v) (rest : At v more w) :
    At u (accesses ++ more) w := by
  induction h with
  | root => exact rest
  | key found _ ih => exact .key found (ih rest)
  | index found _ ih => exact .index found (ih rest)

theorem At.of_cons (h : At v (access :: accesses) w) : ∃ u, At v [access] u ∧ At u accesses w := by
  cases h with
  | key found rest => exact ⟨_, .key found (.root _), rest⟩
  | index found rest => exact ⟨_, .index found (.root _), rest⟩

/-- Segments lead to a value where they spell a chain of accesses to it. -/
theorem walk_eq_some_iff : walk v parts = .ok (some w) ↔
    ∃ accesses, List.Forall₂ Spells parts accesses ∧ At v accesses w := by
  induction parts generalizing v with
  | nil =>
      constructor
      · intro walked
        cases walked
        exact ⟨[], .nil, .root _⟩
      · rintro ⟨accesses, spells, leads⟩
        cases spells
        cases leads
        rfl
  | cons segment parts ih =>
      constructor
      · intro walked
        rw [walk] at walked
        cases taken : step v segment with
        | error f =>
            rw [taken] at walked
            cases walked
        | ok next =>
            rw [taken] at walked
            cases next with
            | none => cases walked
            | some u =>
                obtain ⟨access, spelled, first⟩ := step_eq_some_iff.mp taken
                obtain ⟨accesses, spells, leads⟩ := ih.mp walked
                exact ⟨access :: accesses, .cons spelled spells, first.trans leads⟩
      · rintro ⟨accesses, spells, leads⟩
        cases spells with
        | cons spelled spells =>
            obtain ⟨u, first, rest⟩ := leads.of_cons
            rw [walk, step_eq_some_iff.mpr ⟨_, spelled, first⟩]
            exact ih.mpr ⟨_, spells, rest⟩

section Spelling

theorem Access.IsNameable.spells (h : access.IsNameable) : Spells access.text access := by
  cases access with
  | key name => exact .key name
  | index i =>
      have digits : ∀ c ∈ Nat.toDigits 10 i, c.isDigit = true :=
        fun c mem => Numeral.isDigit_of_mem_toDigits mem
      have decimals : ∀ c ∈ Nat.toDigits 10 i, Text.isDecimal c = true :=
        fun c mem => Text.isDecimal_of_isDigit (digits c mem)
      have same : value (Nat.toDigits 10 i) = i :=
        (value_of_digits digits).trans (Numeral.ofDigits_toDigits i)
      have spelled : Spells (Nat.toDigits 10 i) (.index (value (Nat.toDigits 10 i))) :=
        .index Nat.toDigits_ne_nil decimals
          ((Nat.length_toDigits_le_iff (by decide) (by decide)).mpr h)
      rwa [same] at spelled

theorem Access.IsNameable.point_not_mem (h : access.IsNameable) : '.' ∉ access.text := by
  cases access with
  | key name => exact h
  | index i =>
      intro point
      cases Numeral.isDigit_of_mem_toDigits point

/-- A path is split where its segments were joined. -/
theorem segments_spelling (filled : accesses ≠ []) (nameable : ∀ a ∈ accesses, a.IsNameable) :
    segments (spelling accesses) = accesses.map Access.text := by
  induction accesses with
  | nil => exact absurd rfl filled
  | cons access more ih =>
      rw [List.forall_mem_cons] at nameable
      have point := nameable.1.point_not_mem
      cases more with
      | nil =>
          rw [segments, spelling, List.map_singleton, Text.join, String.toList_ofList]
          exact Template.splitAt_of_not_mem point
      | cons next more =>
          have rest := ih (List.cons_ne_nil next more) nameable.2
          rw [List.map_cons, ← rest, segments, segments]
          have joined : (spelling (access :: next :: more)).toList =
              access.text ++ '.' :: (spelling (next :: more)).toList := by
            simp [spelling, Text.join]
          rw [joined]
          exact Template.splitAt_append point

theorem splitAt_separated (sep : Char) (cs rest : List Char) :
    Text.splitAt sep (cs ++ sep :: rest) = Text.splitAt sep cs ++ Text.splitAt sep rest := by
  induction cs with
  | nil => exact Template.splitAt_append List.not_mem_nil
  | cons c cs ih =>
      rw [List.cons_append, Text.splitAt, ih, Text.splitAt]
      cases pieces : Text.splitAt sep cs with
      | nil => exact absurd pieces (Text.splitAt_ne_nil sep cs)
      | cons piece more =>
          rw [List.cons_append]
          dsimp only
          split <;> rfl

theorem segments_append (p q : String) : segments (p ++ "." ++ q) = segments p ++ segments q := by
  have separated : (p ++ "." ++ q).toList = p.toList ++ '.' :: q.toList := by simp
  rw [segments, separated, splitAt_separated, segments, segments]

end Spelling

/-- The value at a place is found under the path that names it, whatever it is; what is found under
a path is the value at a place that its segments spell; and a path is looked up piece by piece. -/
theorem lookup_is_exact (context : Value) :
    (∀ accesses v, accesses ≠ [] → (∀ a ∈ accesses, a.IsNameable) → At context accesses v →
      lookup context (spelling accesses) = .ok (some v)) ∧
    (∀ path v, lookup context path = .ok (some v) ↔
      ∃ accesses, List.Forall₂ Spells (segments path) accesses ∧ At context accesses v) ∧
    ∀ p q, lookup context (p ++ "." ++ q) = (lookup context p).bind fun
      | some v => lookup v q
      | none => .ok none := by
  refine ⟨?_, fun path v => walk_eq_some_iff, ?_⟩
  · intro accesses v filled nameable leads
    rw [lookup, segments_spelling filled nameable]
    refine walk_eq_some_iff.mpr ⟨accesses, ?_, leads⟩
    rw [List.forall₂_map_left_iff, List.forall₂_same]
    exact fun a mem => (nameable a mem).spells
  · intro p q
    rw [lookup, segments_append]
    exact walk_append context (segments p) (segments q)

def sampleContext : Value :=
  .obj [("7", .str "seven"), ("items", .arr [.int 1, .obj [("", .null), ("7", .bool true)]])]

/-- A null under an empty key, in an element of a list. -/
theorem sample_null_found :
    At sampleContext [.key "items", .index 1, .key ""] .null ∧
      (∀ a ∈ [Access.key "items", .index 1, .key ""], a.IsNameable) ∧
        spelling [.key "items", .index 1, .key ""] = "items.1." ∧
          lookup sampleContext "items.1." = .ok (some .null) := by
  have leads : At sampleContext [.key "items", .index 1, .key ""] .null :=
    .key rfl (.index rfl (.key rfl (.root .null)))
  have items : '.' ∉ "items".toList := by decide
  have second : 1 < 10 ^ Numeral.maxDigits := Nat.one_lt_pow (by decide) (by decide)
  have nothing : '.' ∉ "".toList := by decide
  have nameable : ∀ a ∈ [Access.key "items", .index 1, .key ""], a.IsNameable :=
    List.forall_mem_cons.mpr ⟨items, List.forall_mem_cons.mpr ⟨second,
      List.forall_mem_singleton.mpr nothing⟩⟩
  have spelled : spelling [.key "items", .index 1, .key ""] = "items.1." := by cbv
  have found := (lookup_is_exact sampleContext).1 _ _ (List.cons_ne_nil _ _) nameable leads
  rw [spelled] at found
  exact ⟨leads, nameable, spelled, found⟩

end Path
end TriggerFlow
