import TriggerFlow.Json.Writer

/-!
Keys of objects that are no text. Such a key goes by its JSON form behind a mark that keeps it
apart from text. Keys that are equal as numbers, truth values among them, are one key; it has the
form in which it came first.
-/

namespace TriggerFlow.Key

/-- An unassigned character that stands before the form of a key that is no text. -/
def mark : Char := Char.ofNat 0xdd7ff

def marked (form : List Char) : String := String.ofList (mark :: form)

def isMarked (key : String) : Bool := key.toList.head? == some mark

/-- The key that a value is; lists and objects are none. -/
def ofValue : Value → Except Failure String
  | .str s => .ok s
  | .arr _ => .error (.output (.badKey "list"))
  | .obj _ => .error (.output (.badKey "dict"))
  | v => (Json.writeChars .spaced v).map marked

def form (key : String) : String :=
  if isMarked key then String.ofList (key.toList.drop 1) else key

/-- The form of the number that a form names, the same for all that name it. -/
def canonical (form : String) : String :=
  if form = "true" then "1"
  else if form = "false" then "0"
  else if form.toList.any fun c => c = '.' || c = 'e' then
    match (Numeral.float? form).bind Binary64.toInt? with
    | some n => toString n
    | none => form
  else form

def same (a b : String) : Bool :=
  a == b || (isMarked a && isMarked b && canonical (form a) == canonical (form b))

/-- A key as it stands among fields, if it is one of theirs. -/
def among (fs : Fields) (key : String) : String :=
  ((fs.find? fun f => same f.1 key).map (·.1)).getD key

/-- The fields of `fs` with those of `added` set one after the other. -/
def overlay (fs added : Fields) : Fields :=
  added.foldl (fun acc f => acc.set (among acc f.1) f.2) fs

/-- How documents write a key that is no text. -/
def documentForm (key : String) : String :=
  if isMarked key then
    match form key with
    | "null" => "None"
    | "NaN" => "nan"
    | "Infinity" => "inf"
    | "-Infinity" => "-inf"
    | form => form
  else key

mutual

def mapValue (f : String → String) : Value → Value
  | .arr xs => .arr (mapElems f xs)
  | .obj fs => .obj (mapFields f fs)
  | v => v

def mapElems (f : String → String) : List Value → List Value
  | [] => []
  | x :: xs => mapValue f x :: mapElems f xs

def mapFields (f : String → String) : List (String × Value) → List (String × Value)
  | [] => []
  | (k, x) :: fs => (f k, mapValue f x) :: mapFields f fs

end

theorem among_of_not_marked (fs : Fields) {key : String} (h : isMarked key = false) :
    among fs key = key := by
  unfold among
  cases hf : fs.find? fun f => same f.1 key with
  | none => rfl
  | some f => simpa [same, h] using List.find?_some hf

/-- Text keys are set as they are. -/
theorem overlay_of_not_marked (fs added : Fields) (h : ∀ f ∈ added, isMarked f.1 = false) :
    overlay fs added = fs.overlay added := by
  induction added generalizing fs with
  | nil => rfl
  | cons f added ih =>
      simp only [overlay, Fields.overlay, List.foldl_cons,
        among_of_not_marked fs (h f List.mem_cons_self)]
      exact ih _ fun g hg => h g (List.mem_cons_of_mem _ hg)

end TriggerFlow.Key
