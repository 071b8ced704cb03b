import TriggerFlow.Store.Keyed

/-!
Who listens to which execution. An execution has an entry from its first subscriber on; leaving
removes an entry that becomes empty, dropping failed sockets does not.
-/

namespace TriggerFlow.Stream

/-- A socket, known by its name. -/
abbrev Socket := String

abbrev Table := Keyed (List Socket)

namespace Table

def empty : Table := []

def subscribers (t : Table) (execution : String) : List Socket := (Keyed.get? t execution).getD []

def isSubscribed (t : Table) (execution : String) : Bool := !(t.subscribers execution).isEmpty

def attach (t : Table) (execution : String) (s : Socket) : Table :=
  let sockets := t.subscribers execution
  Keyed.put t execution (if sockets.contains s then sockets else sockets ++ [s])

def detach (t : Table) (execution : String) (s : Socket) : Table :=
  match Keyed.get? t execution with
  | none => t
  | some sockets =>
    let rest := sockets.filter (· != s)
    if rest.isEmpty then Keyed.erase t execution else Keyed.put t execution rest

/-- The table after a message: without the entry if the message was the last one, else without the
sockets that failed. -/
def settle (t : Table) (execution : String) (last : Bool) (dead : List Socket) : Table :=
  if last then Keyed.erase t execution
  else match Keyed.get? t execution with
    | none => t
    | some sockets => Keyed.put t execution (sockets.filter fun s => !dead.contains s)

end Table
end TriggerFlow.Stream
