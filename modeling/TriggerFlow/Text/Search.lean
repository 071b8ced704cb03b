import TriggerFlow.Text.CharClass

/-!
Trimming, splitting and searching of texts, on lists of characters.
-/

namespace TriggerFlow.Text

def trimBy (p : Char → Bool) (cs : List Char) : List Char :=
  ((cs.dropWhile p).reverse.dropWhile p).reverse

def trim (s : String) : String := String.ofList (trimBy isBlank s.toList)

/-- The pieces between occurrences of `sep`, empty ones included: one more than it occurs. -/
def splitAt (sep : Char) : List Char → List (List Char)
  | [] => [[]]
  | c :: cs =>
    match splitAt sep cs with
    | [] => [[c]]
    | piece :: rest => if c = sep then [] :: piece :: rest else (c :: piece) :: rest

theorem splitAt_ne_nil (sep : Char) (cs : List Char) : splitAt sep cs ≠ [] := by
  induction cs with
  | nil => simp [splitAt]
  | cons c cs ih =>
      simp only [splitAt]
      split
      · simp
      · split <;> simp

def isInfix (needle : List Char) : List Char → Bool
  | [] => needle.isEmpty
  | c :: cs => needle.isPrefixOf (c :: cs) || isInfix needle cs

def contains (text needle : String) : Bool := isInfix needle.toList text.toList

def startsWith (text needle : String) : Bool := needle.toList.isPrefixOf text.toList

def endsWith (text needle : String) : Bool := needle.toList.isSuffixOf text.toList

/-- The text with every occurrence of `needle`, searched from the left, taken out. The first
argument bounds the number of characters left to look at. -/
def removeAll (needle : List Char) : Nat → List Char → List Char
  | 0, cs => cs
  | _, [] => []
  | fuel + 1, c :: cs =>
    if needle.isPrefixOf (c :: cs) then removeAll needle fuel ((c :: cs).drop needle.length)
    else c :: removeAll needle fuel cs

def without (text needle : String) : String :=
  String.ofList (removeAll needle.toList text.length text.toList)

def join (sep : String) : List String → String
  | [] => ""
  | [s] => s
  | s :: rest => s ++ sep ++ join sep rest

end TriggerFlow.Text
