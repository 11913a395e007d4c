import TicketGate.Config
import TicketGate.Coverage
import TicketGate.Grant
import TicketGate.Table

namespace TicketGate

abbrev TicketId := Nat

/-- The number of an operation. The program counts in 64 bits; the count has no end here. -/
abbrev OperationId := Nat

abbrev ContextId := Nat

abbrev ConnectionId := Nat

structure Terms where
  uuid : String
  size : Nat
  access : List Access
  timeout : Nat
  url : Url
  inactivityTimeout : Nat
  transferId : String
  filename : Option String
  sparse : Bool
  dirty : Bool
deriving DecidableEq

/-- The transfer id of a record that has none, from the first half of its uuid. -/
def Terms.derivedTransferId (uuid : String) : String :=
  "(ticket/" ++ String.ofList (uuid.toList.take 18) ++ ")"

def Terms.ofGrant (config : Config) (g : Grant) : Terms where
  uuid := g.uuid
  size := g.size
  access := g.access
  timeout := g.timeout
  url := g.url
  inactivityTimeout := g.inactivityTimeout.getD config.inactivityTimeout
  transferId := g.transferId.getD (derivedTransferId g.uuid)
  filename := g.filename
  sparse := g.sparse
  dirty := g.dirty

/-- What a ticket grants, for how long, and who uses it. Times are in seconds. -/
structure Ticket where
  terms : Terms
  expires : Nat
  accessed : Nat
  ongoing : List OperationId
  completed : Coverage
  canceled : Bool
  /-- Set when the last operation leaves a canceled ticket. -/
  drained : Bool
  connections : Table ConnectionId ContextId

namespace Ticket

def ofGrant (config : Config) (now : Nat) (g : Grant) : Ticket where
  terms := Terms.ofGrant config g
  expires := clippedAdd now g.timeout
  accessed := now
  ongoing := []
  completed := Coverage.empty
  canceled := false
  drained := false
  connections := Table.empty

def isActive (t : Ticket) : Bool := !t.ongoing.isEmpty

/-- Seconds without use; none while an operation runs. -/
def idleTime (t : Ticket) (now : Nat) : Nat := if t.isActive then 0 else now - t.accessed

def allows (t : Ticket) (a : Access) : Bool := Access.allows t.terms.access a

def touch (t : Ticket) (now : Nat) : Ticket :=
  { t with expires := clippedAdd now t.terms.timeout, accessed := now }

/-- Sets when the ticket expires, which does not count as use. -/
def extend (t : Ticket) (now seconds : Nat) : Ticket :=
  { t with expires := clippedAdd now seconds }

def connect (t : Ticket) (c : ConnectionId) (x : ContextId) : Ticket :=
  { t with connections := t.connections.insert c x }

def disconnect (t : Ticket) (c : ConnectionId) : Ticket :=
  { t with connections := t.connections.erase c }

def enter (t : Ticket) (o : OperationId) : Ticket := { t with ongoing := t.ongoing ++ [o] }

def counts (t : Ticket) : Bool := t.terms.access.length == 1

/-- An operation ends. On a canceled ticket it counts for nothing, and the last one drains the
ticket; else the bytes it moved are completed. Either way the ticket was used. -/
def leave (t : Ticket) (now : Nat) (o : OperationId) (moved : ByteRange) : Ticket :=
  let ongoing := t.ongoing.erase o
  touch { t with
    ongoing := ongoing
    drained := t.drained || (t.canceled && ongoing.isEmpty)
    completed := if !t.canceled && t.counts then t.completed.add moved else t.completed } now

def cancel (t : Ticket) : Ticket := { t with canceled := true }

/-- The bytes moved so far, with those of the operations that still run; unknown when the ticket
allows more than one kind of access. -/
def transferred (t : Ticket) (progress : OperationId → ByteRange) : Option Nat :=
  if 1 < t.terms.access.length then none
  else some (t.completed.addAll (t.ongoing.map progress)).size

def stopped (t : Ticket) : Fault := .denied (.stopped t.terms.transferId)

end Ticket

end TicketGate
