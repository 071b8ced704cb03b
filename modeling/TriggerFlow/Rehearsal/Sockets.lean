import TriggerFlow.Stream.Endpoint

/-!
Sockets that note what reaches them. A socket may stop to take texts after a number of them; the
table of those who listen belongs to the state.
-/

namespace TriggerFlow.Rehearsal

open TriggerFlow.Stream

inductive Message where
  | accepted
  | text (s : String)
  deriving DecidableEq, Repr

structure Outlet where
  /-- How many texts it takes, if there is a limit. -/
  limit : Option Nat
  messages : List Message
  deriving Repr

namespace Outlet

def texts (o : Outlet) : List String :=
  o.messages.filterMap fun
    | .text s => some s
    | .accepted => none

def isFull (o : Outlet) : Bool := o.limit.any (· ≤ o.texts.length)

def add (o : Outlet) (m : Message) : Outlet := { o with messages := o.messages ++ [m] }

end Outlet

structure Sockets where
  table : Table
  outlets : Keyed Outlet

namespace Sockets

def empty : Sockets := ⟨.empty, []⟩

def outlet (s : Sockets) (socket : Socket) : Outlet :=
  (s.outlets.get? socket).getD ⟨none, []⟩

def add (s : Sockets) (socket : Socket) (m : Message) : Sockets :=
  { s with outlets := s.outlets.put socket ((s.outlet socket).add m) }

/-- A socket with a limit and nothing in it. -/
def plug (s : Sockets) (socket : Socket) (limit : Option Nat) : Sockets :=
  { s with outlets := s.outlets.put socket ⟨limit, []⟩ }

/-- The messages since the last look. -/
def take (s : Sockets) (socket : Socket) : List Message × Sockets :=
  let o := s.outlet socket
  (o.messages, { s with outlets := s.outlets.put socket { o with messages := [] } })

/-- What a socket says that takes no more texts. -/
def full : Failure := .external "SocketFull" "the socket takes no more texts"

def answer : (c : Stream.Call) → Sockets → Stream.Reply c × Sockets
  | .accept socket, s => ((), s.add socket .accepted)
  | .attach execution socket, s => ((), { s with table := s.table.attach execution socket })
  | .detach execution socket, s => ((), { s with table := s.table.detach execution socket })
  | .subscribers execution, s => (s.table.subscribers execution, s)
  | .send socket text, s =>
    if (s.outlet socket).isFull then (.error full, s) else (.ok (), s.add socket (.text text))
  | .settle execution last dead, s =>
    ((), { s with table := s.table.settle execution last dead })

/-- A task run on the sockets. -/
def run {α : Type} (s : Sockets) (t : Stream.Task α) : α × Sockets := t.run answer s

end Sockets
end TriggerFlow.Rehearsal
