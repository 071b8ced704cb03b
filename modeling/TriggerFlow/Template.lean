import TriggerFlow.Path
import TriggerFlow.Json.Literal

/-!
Placeholders in text. A token is a dotted name of word characters in double braces, blanks allowed
inside the braces. `Template.pieces` cuts a text into tokens and single characters; rendering puts
the value at a token's path in its place and keeps tokens whose path leads nowhere.
-/

namespace TriggerFlow.Template

inductive Piece where
  | char (c : Char)
  /-- A token: the segments of its path and the text it was read from. -/
  | token (path : List (List Char)) (source : List Char)
  deriving DecidableEq, Repr

/-- A dotted name at the start of a text, as its segments, with the rest. -/
def dottedName? (cs : List Char) : Option (List (List Char) × List Char) :=
  let name := cs.takeWhile fun c => Text.isWord c || c = '.'
  let segments := Text.splitAt '.' name
  if segments.any List.isEmpty then none
  else some (segments, cs.dropWhile fun c => Text.isWord c || c = '.')

/-- The token at the very start of a text: its path and how many characters it takes. -/
def tokenAt? (cs : List Char) : Option (List (List Char) × Nat) :=
  match cs with
  | '\x7b' :: '\x7b' :: inner => do
    let (path, rest) ← dottedName? (inner.dropWhile Text.isBlank)
    match rest.dropWhile Text.isBlank with
    | '\x7d' :: '\x7d' :: after => some (path, cs.length - after.length)
    | _ => none
  | _ => none

/-- The pieces of a text from left to right, a token wherever one starts. The first argument counts
the characters of the last token that are still to be passed over. -/
def piecesAfter : Nat → List Char → List Piece
  | _, [] => []
  | skipped + 1, _ :: cs => piecesAfter skipped cs
  | 0, c :: cs =>
    match tokenAt? (c :: cs) with
    | some (path, length) =>
      .token path ((c :: cs).take length) :: piecesAfter (length - 1) cs
    | none => .char c :: piecesAfter 0 cs

def pieces (cs : List Char) : List Piece := piecesAfter 0 cs

def Piece.render (context : Value) : Piece → Except Failure (List Char)
  | char c => .ok [c]
  | token path source => do
    match ← Path.walk context path with
    | some v => return (← v.text).toList
    | none => return source

def renderChars (context : Value) (cs : List Char) : Except Failure (List Char) := do
  return (← (pieces cs).mapM (Piece.render context)).flatten

def render (context : Value) (template : String) : Except Failure String :=
  (renderChars context template.toList).map String.ofList

mutual

/-- The value with every text inside it rendered; keys are kept. -/
def renderValue (context : Value) : Value → Except Failure Value
  | .str s => (render context s).map .str
  | .arr xs => (renderElems context xs).map .arr
  | .obj fs => (renderFields context fs).map .obj
  | v => .ok v

def renderElems (context : Value) : List Value → Except Failure (List Value)
  | [] => .ok []
  | x :: xs => do return (← renderValue context x) :: (← renderElems context xs)

def renderFields (context : Value) : List (String × Value) → Except Failure (List (String × Value))
  | [] => .ok []
  | (k, x) :: fs => do return (k, ← renderValue context x) :: (← renderFields context fs)

end

end TriggerFlow.Template
