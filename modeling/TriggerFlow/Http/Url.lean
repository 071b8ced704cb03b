import TriggerFlow.Failure
import TriggerFlow.Http.Domain
import TriggerFlow.Http.IpAddress
import TriggerFlow.Http.Percent
import TriggerFlow.Text.Base64
import TriggerFlow.Text.Case

/-!
Addresses of web requests, in normal form: scheme and host in lower case, a port only where it is
not the scheme's own, dot segments resolved and unsafe characters encoded. An address without
scheme or host is taken as a path from the root.
-/

namespace TriggerFlow

structure Url where
  scheme : List Char
  user : List Char
  host : List Char
  port : Option Int
  path : List Char
  query : Option (List Char)
  fragment : Option (List Char)
  deriving DecidableEq, Repr

namespace Url

def bad (message : String) : Failure := .external "InvalidURL" message

def isUnreserved (c : Char) : Bool :=
  c.isAlphanum || c = '-' || c = '.' || c = '_' || c = '~'

/-- Visible ASCII characters but the listed ones. -/
def visibleExcept (excluded : List Char) (c : Char) : Bool :=
  isUnreserved c || (0x20 ≤ c.toNat && c.toNat ≤ 0x7e && !excluded.contains c)

def queryExcluded : List Char := [' ', '"', '#', '<', '>']

def pathExcluded : List Char := queryExcluded ++ ['?', '\x60', '\x7b', '\x7d']

def userExcluded : List Char := pathExcluded ++ ['/', ';', '=', '@', '[', '\\', ']', '^', '|']

def fragmentExcluded : List Char := [' ', '"', '<', '>', '\x60']

def isHostSafe (c : Char) : Bool :=
  isUnreserved c || "!$&'()*+,;=\"\x60\x7b\x7d%|\\".toList.contains c

def maxLength : Nat := 65536

/-- Refuses texts that are too long or hold a control character. -/
def checkCharacters (cs : List Char) : Except Failure Unit :=
  if maxLength < cs.length then .error (bad "URL too long")
  else
    let isControl (c : Char) : Bool := c.toNat < 0x20 || c.toNat = 0x7f
    match cs.find? isControl with
    | none => .ok ()
    | some c =>
      let position := (cs.takeWhile fun c => !isControl c).length
      .error (bad ("Invalid non-printable ASCII character in URL, " ++
        Text.quoted (String.singleton c) ++ " at position " ++ toString position ++ "."))

/-- Encoded part of an address; a half of a surrogate pair has no bytes. -/
def encodePart (safe : Char → Bool) (cs : List Char) : Except Failure (List Char) :=
  match cs.find? Text.Surrogate.isStandIn with
  | some c => .error (.notUnicode (some c) 0 0)
  | none => .ok (Percent.encode safe cs)

/-- What stands before a colon, if that can be a scheme, and the rest. -/
def splitScheme (cs : List Char) : List Char × List Char :=
  let name := cs.takeWhile fun c => c.isAlphanum || c = '+' || c = '.' || c = '-'
  match cs.dropWhile fun c => c.isAlphanum || c = '+' || c = '.' || c = '-' with
  | ':' :: rest => if name.head?.all Char.isAlpha then (name, rest) else ([], cs)
  | _ => ([], cs)

def splitAuthority (cs : List Char) : List Char × List Char :=
  let stops (c : Char) : Bool := c = '/' || c = '?' || c = '#'
  match cs with
  | '/' :: '/' :: rest => (rest.takeWhile fun c => !stops c, rest.dropWhile fun c => !stops c)
  | _ => ([], cs)

/-- The text up to a separator, and what follows that if it occurs. -/
def cut (separator : Char) (cs : List Char) : List Char × Option (List Char) :=
  match cs.dropWhile (· != separator) with
  | [] => (cs, none)
  | _ :: rest => (cs.takeWhile (· != separator), some rest)

/-- The user, host and port of an authority, as they are written. -/
def splitHost (cs : List Char) : List Char × List Char × List Char :=
  let hostAndPort := (cs.reverse.takeWhile (· != '@')).reverse
  let user := cs.take (cs.length - hostAndPort.length - 1)
  let bracketed := (hostAndPort.reverse.dropWhile (· != ']')).reverse
  if hostAndPort.head? = some '[' ∧ bracketed ≠ [] then
    let rest := hostAndPort.drop bracketed.length
    (user, bracketed, if rest.head? = some ':' then rest.drop 1 else rest)
  else
    let host := hostAndPort.takeWhile (· != ':')
    (user, host, (hostAndPort.drop host.length).drop 1)

def quotedHost (cs : List Char) : String := Text.quoted (String.ofList cs)

/-- A numeric address, or a name in lower case and ASCII. -/
def normalHost (cs : List Char) : Except Failure (List Char) :=
  if IpAddress.looksLikeV4 cs then
    if IpAddress.isV4 cs then .ok cs
    else .error (bad ("Invalid IPv4 address: " ++ quotedHost cs))
  else if cs.head? = some '[' && cs.getLast? = some ']' then
    if IpAddress.isV6 cs.tail.dropLast then .ok cs
    else .error (bad ("Invalid IPv6 address: " ++ quotedHost cs))
  else
    let name := (Text.lower (String.ofList cs)).toList
    if cs.all fun c => c.toNat < 0x80 then .ok (Percent.encode isHostSafe name)
    else match Domain.ascii? name with
      | some name => .ok name
      | none => .error (bad ("Invalid IDNA hostname: " ++ quotedHost cs))

def defaultPort? (scheme : List Char) : Option Int :=
  [("ftp", 21), ("http", 80), ("https", 443), ("ws", 80), ("wss", 443)].lookup
    (String.ofList scheme)

/-- A port other than the one of the scheme, as that is written. -/
def normalPort (scheme port : List Char) : Except Failure (Option Int) :=
  if port.isEmpty then .ok none
  else match Numeral.integer (String.ofList port) with
    | .ok n => .ok (if some n = defaultPort? scheme then none else some n)
    | .error _ => .error (bad ("Invalid port: " ++ Text.quoted (String.ofList port)))

/-- One segment after another: a dot is dropped, two dots take the last segment away. -/
def resolveSegments (done : List (List Char)) : List (List Char) → List (List Char)
  | [] => done.reverse
  | ['.'] :: rest => resolveSegments done rest
  | ['.', '.'] :: rest =>
    resolveSegments (if done = [[]] then done else done.drop 1) rest
  | segment :: rest => resolveSegments (segment :: done) rest

def joinSegments : List (List Char) → List Char
  | [] => []
  | [s] => s
  | s :: rest => s ++ '/' :: joinSegments rest

def normalPath (cs : List Char) : List Char :=
  let segments := Text.splitAt '/' cs
  if segments.contains ['.'] || segments.contains ['.', '.'] then
    joinSegments (resolveSegments [] segments)
  else cs

def checkPath (hasScheme hasAuthority : Bool) (path : List Char) : Except Failure Unit :=
  if hasAuthority && !path.isEmpty && path.head? != some '/' then
    .error (bad "For absolute URLs, path must be empty or begin with '/'")
  else if !hasScheme && !hasAuthority && ['/', '/'].isPrefixOf path then
    .error (bad "Relative URLs cannot have a path starting with '//'")
  else if !hasScheme && !hasAuthority && path.head? = some ':' then
    .error (bad "Relative URLs cannot have a path starting with ':'")
  else .ok ()

def parse (s : String) : Except Failure Url := do
  let cs := s.toList
  checkCharacters cs
  let (scheme, rest) := splitScheme cs
  let (authority, rest) := splitAuthority rest
  let (rest, fragment) := cut '#' rest
  let (path, query) := cut '?' rest
  let (user, host, port) := splitHost authority
  let user ← encodePart (visibleExcept userExcluded) user
  let host ← normalHost host
  let port ← normalPort scheme port
  let hasAuthority := !user.isEmpty || !host.isEmpty || port.isSome
  checkPath (!scheme.isEmpty) hasAuthority path
  let path := if !scheme.isEmpty || hasAuthority then normalPath path else path
  return {
    scheme := scheme.map Char.toLower
    user, host, port
    path := ← encodePart (visibleExcept pathExcluded) path
    query := ← query.mapM (encodePart (visibleExcept queryExcluded))
    fragment := ← fragment.mapM (encodePart (visibleExcept fragmentExcluded)) }

def isAbsolute (u : Url) : Bool := !u.scheme.isEmpty && !u.host.isEmpty

/-- The path and query alone, from the root. -/
def rooted (u : Url) : Url :=
  ⟨[], [], [], none, '/' :: u.path.dropWhile (· = '/'), u.query, none⟩

def chars (u : Url) : List Char :=
  let authority := (if u.user.isEmpty then [] else u.user ++ ['@']) ++ u.host ++
    (match u.port with | some n => ':' :: (toString n).toList | none => [])
  (if u.scheme.isEmpty then [] else u.scheme ++ [':']) ++
    (if authority.isEmpty then [] else '/' :: '/' :: authority) ++ u.path ++
    (match u.query with | some q => '?' :: q | none => []) ++
    (match u.fragment with | some f => '#' :: f | none => [])

def text (u : Url) : String := String.ofList u.chars

def checkLength (part : String) (cs : List Char) : Except Failure Unit :=
  if maxLength < cs.length then .error (bad ("URL component '" ++ part ++ "' too long")) else .ok ()

/-- The address that a request is sent to. -/
def target (s : String) : Except Failure Url := do
  let u ← parse s
  if u.isAbsolute then return u
  let u := u.rooted
  checkLength "path" u.path
  checkLength "query" (u.query.getD [])
  return u

/-- What an address with a user or a password says about who is asking. -/
def credentials? (u : Url) : Option String :=
  let (name, password) := cut ':' u.user
  let name := Percent.decode name
  let password := Percent.decode (password.getD [])
  if name.isEmpty && password.isEmpty then none
  else some ("Basic " ++ String.ofList
    (Text.Base64.encode ((name ++ ':' :: password).flatMap Percent.utf8)))

end Url
end TriggerFlow
