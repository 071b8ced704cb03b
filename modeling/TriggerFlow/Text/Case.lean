import TriggerFlow.Text.CharClass
import TriggerFlow.Text.CaseTables

/-!
Lower and upper case of whole texts. Lower case looks at neighbours in one place only: a capital
sigma at the end of a word becomes the final small sigma.
-/

namespace TriggerFlow.Text

/-- The image of a character under the run that holds it, or itself. -/
def mapRun (runs : List (Nat × Nat × Nat × Int)) (c : Char) : Char :=
  match runs.find? fun (first, last, step, _) =>
      first ≤ c.toNat && c.toNat ≤ last && (c.toNat - first) % step == 0 with
  | some (_, _, _, shift) => Char.ofNat (c.toNat + shift).toNat
  | none => c

def lowerChar (c : Char) : List Char :=
  if c = 'İ' then ['i', '\u0307'] else [mapRun Tables.lowerRuns c]

def upperChar (c : Char) : List Char :=
  match Tables.upperSpecial.find? fun e => e.1 == c.toNat with
  | some (_, image) => image.map Char.ofNat
  | none => [mapRun Tables.upperRuns c]

/-- Whether the nearest character that casing does not look through is a cased letter. -/
def casedNext (cs : List Char) : Bool :=
  (cs.dropWhile isCaseIgnorable).head?.any isCased

/-- `before` is the text in front, nearest character first. -/
def lowerAfter (before : List Char) : List Char → List Char
  | [] => []
  | c :: cs =>
    (if c = 'Σ' then [if casedNext before && !casedNext cs then 'ς' else 'σ'] else lowerChar c)
      ++ lowerAfter (c :: before) cs

def lower (s : String) : String := String.ofList (lowerAfter [] s.toList)

def upper (s : String) : String := String.ofList (s.toList.flatMap upperChar)

def lowerAscii (s : String) : String := String.ofList (s.toList.map Char.toLower)

end TriggerFlow.Text
