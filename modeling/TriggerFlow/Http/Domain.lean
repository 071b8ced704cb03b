import TriggerFlow.Http.DomainTables
import TriggerFlow.Text.Composition
import TriggerFlow.Text.Punycode
import TriggerFlow.Text.Search

/-!
Host names in the scripts of the world, as the ASCII names that stand for them. Each label has to
be in normal form, to hold permitted characters only, some of them in certain company only, and to
have one direction.
-/

namespace TriggerFlow.Domain

def within (ranges : List (Nat × Nat)) (c : Char) : Bool :=
  ranges.any fun r => r.1 ≤ c.toNat && c.toNat ≤ r.2

def isPermitted (c : Char) : Bool :=
  Tables.permitted.any fun (first, last, step) =>
    first ≤ c.toNat && c.toNat ≤ last && (c.toNat - first) % step = 0

def isMark (c : Char) : Bool := within Tables.nonspacing c || within Tables.spacing c

/-- Marks that do not keep the letters at their sides from joining. -/
def isTransparent (c : Char) : Bool :=
  (within Tables.nonspacing c && c.toNat != 0x1171e) ||
    [0xcbf, 0xcc6, 0x11a07, 0x11a08, 0x11c3f, 0x1e94b].contains c.toNat

/-- Marks that mute the vowel of their consonant. -/
def isVirama (c : Char) : Bool := Text.Composition.markClass c.toNat = 9

/-- The zero-width joiners, which need a virama before them; the one that keeps letters apart may
also stand between letters that would join. `before` has the nearest character first. -/
def joinerAllowed (c : Char) (before after : List Char) : Bool :=
  before.head?.any isVirama ||
    (c = '\u200c' &&
      (before.dropWhile isTransparent).head?.any (fun d =>
        within Tables.joinsAfter d || within Tables.joinsBoth d) &&
      (after.dropWhile isTransparent).head?.any (fun d =>
        within Tables.joinsBefore d || within Tables.joinsBoth d))

def isArabicDigit (c : Char) : Bool := 0x660 ≤ c.toNat && c.toNat ≤ 0x669

def isPersianDigit (c : Char) : Bool := 0x6f0 ≤ c.toNat && c.toNat ≤ 0x6f9

def allowed (before : List Char) (c : Char) (after : List Char) : Bool :=
  let label := before ++ after
  if c = '\u200c' || c = '\u200d' then joinerAllowed c before after
  else if c = '·' then before.head? = some 'l' && after.head? = some 'l'
  else if c = '\u0375' then after.head?.any (within Tables.greek)
  else if c = '\u05f3' || c = '\u05f4' then before.head?.any (within Tables.hebrew)
  else if c = '\u30fb' then label.any fun d => d != '\u30fb' && within Tables.japanese d
  else if isArabicDigit c then !label.any isPersianDigit
  else if isPersianDigit c then !label.any isArabicDigit
  else isPermitted c

def allAllowed (before : List Char) : List Char → Bool
  | [] => true
  | c :: cs => allowed before c cs && allAllowed (c :: before) cs

inductive Direction where
  | left
  | right
  | arabic
  | arabicNumber
  | europeanNumber
  | nonspacing
  | neutral
  deriving DecidableEq, Repr

def direction (c : Char) : Direction :=
  if within Tables.nonspacing c then .nonspacing
  else if within Tables.europeanNumber c then .europeanNumber
  else if within Tables.neutral c then .neutral
  else if within Tables.rightToLeft c then .right
  else if within Tables.arabic c then .arabic
  else if within Tables.arabicNumber c then .arabicNumber
  else .left

/-- A label of one direction: what it holds and what it ends in, marks apart, belongs to it. Labels
without any letter or digit from right to left are not looked at. -/
def isOneWay (label : List Char) : Bool :=
  let ds := label.map direction
  let last := (ds.reverse.dropWhile (· = .nonspacing)).head?
  if !ds.any (fun d => d = .right || d = .arabic || d = .arabicNumber) then true
  else match ds.head? with
    | some .right | some .arabic =>
      !ds.contains .left && !(ds.contains .arabicNumber && ds.contains .europeanNumber) &&
        last != some .neutral
    | _ => false

def hyphensFit (label : List Char) : Bool :=
  label.head? != some '-' && label.getLast? != some '-' && (label.drop 2).take 2 != ['-', '-']

def isLabel (label : List Char) : Bool :=
  !label.isEmpty && hyphensFit label && !label.head?.any isMark && allAllowed [] label &&
    Text.Composition.isNormal label && isOneWay label

def mark : List Char := ['x', 'n', '-', '-']

/-- The ASCII form of a label. One that is ASCII stays as it is, and has to stand for a proper
label if it bears the mark. -/
def asciiLabel? (label : List Char) : Option (List Char) :=
  let ascii := label.all Text.Punycode.isBasic
  let encoded := if ascii then label else mark ++ Text.Punycode.encode label
  let content := label.drop mark.length
  let meant : Option (List Char) :=
    if !ascii || !mark.isPrefixOf label then some label
    else if content.isEmpty || content.getLast? = some '-' then none
    else Text.Punycode.decode? content
  if meant.any isLabel && encoded.length ≤ 63 then some encoded else none

def isDot (c : Char) : Bool := c = '.' || c = '\u3002' || c = '\uff0e' || c = '\uff61'

def labels (cs : List Char) : List (List Char) :=
  Text.splitAt '.' (cs.map fun c => if isDot c then '.' else c)

/-- The ASCII form of a host name in lower case; the last label may be empty. -/
def ascii? (cs : List Char) : Option (List Char) := do
  let all := labels cs
  let rooted := all.getLast? = some []
  let encoded ← (if rooted then all.dropLast else all).mapM asciiLabel?
  let name := (List.intersperse ['.'] (encoded ++ if rooted then [[]] else [])).flatten
  if encoded.isEmpty || (if rooted then 254 else 253) < name.length then none else some name

end TriggerFlow.Domain
