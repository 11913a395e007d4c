import TicketGate.Note
import TicketGate.Ticket
import TicketGate.Url.Parser

namespace TicketGate

abbrev CallId := Nat

structure Operation where
  ticket : TicketId
  offset : Nat
  done : Nat
  signals : Nat
  started : Bool
deriving DecidableEq

namespace Operation

def moved (o : Operation) : ByteRange := .ofProgress o.offset o.done

def signal (o : Operation) : Operation := { o with signals := o.signals + 1 }

end Operation

structure Context where
  failure : Option String
  closes : Nat
deriving DecidableEq

def Context.close (x : Context) : Context := { x with closes := x.closes + 1 }

/-- Where a cancellation or a removal stands that has no answer yet. -/
inductive Call
  | found (t : TicketId) (id : String)
  /-- A canceled ticket is waited for, for its own sake or in order to remove it from under a uuid.
  A call waits from the moment on at which it has asked the operations to stop. -/
  | waiting (t : TicketId) (deadline : Nat) (removal : Option String)
  | unused (t : TicketId) (id : String)
deriving DecidableEq

namespace Call

def ticket : Call → TicketId
  | found t _ | waiting t _ _ | unused t _ => t

def removal : Call → Option String
  | found _ id | unused _ id => some id
  | waiting _ _ removal => removal

def deadline? : Call → Option Nat
  | waiting _ deadline _ => some deadline
  | _ => none

end Call

/-- All tickets ever given out are known by number, so one that was replaced in the store stays
apart from its successor. The clock counts milliseconds. -/
structure Gate where
  config : Config
  clock : Nat
  tickets : List Ticket
  store : Table String TicketId
  operations : List Operation
  contexts : List Context
  calls : Table CallId Call
  nextCall : CallId

namespace Gate

def initial (config : Config) (clock : Nat) : Gate where
  config := config
  clock := clock
  tickets := []
  store := Table.empty
  operations := []
  contexts := []
  calls := Table.empty
  nextCall := 0

def seconds (g : Gate) : Nat := g.clock / 1000

def ticket? (g : Gate) (t : TicketId) : Option Ticket := g.tickets[t]?

def operation? (g : Gate) (o : OperationId) : Option Operation := g.operations[o]?

def context? (g : Gate) (x : ContextId) : Option Context := g.contexts[x]?

def find? (g : Gate) (id : String) : Option (TicketId × Ticket) := do
  let t ← g.store.get? id
  return (t, ← g.ticket? t)

def progress (g : Gate) (o : OperationId) : ByteRange :=
  match g.operation? o with
  | some op => op.moved
  | none => ⟨0, 0⟩

def onTicket (g : Gate) (t : TicketId) (f : Ticket → Ticket) : Gate :=
  { g with tickets := g.tickets.modify t f }

def onOperation (g : Gate) (o : OperationId) (f : Operation → Operation) : Gate :=
  { g with operations := g.operations.modify o f }

def closeContext (g : Gate) (x : ContextId) : Gate :=
  { g with contexts := g.contexts.modify x Context.close }

/-- Closes the context of every connection of a ticket. They stay registered. -/
def closeAll (g : Gate) (t : Ticket) : Gate :=
  { g with contexts :=
      t.connections.entries.foldl (fun xs e => xs.modify e.2 Context.close) g.contexts }

def signalAll (g : Gate) (t : Ticket) : Gate :=
  { g with operations :=
      t.ongoing.foldl (fun os o => os.modify o Operation.signal) g.operations }

def hold (g : Gate) (c : CallId) (call : Call) : Gate :=
  { g with calls := g.calls.insert c call }

def drop (g : Gate) (c : CallId) : Gate := { g with calls := g.calls.erase c }

def closeNote (g : Gate) (t : Ticket) (c : ConnectionId) (x : ContextId) : List Note :=
  match g.context? x with
  | some ⟨some error, _⟩ => [.closeFailed t.terms.transferId c error]
  | _ => []

def closeNotes (g : Gate) (t : Ticket) : List Note :=
  t.connections.entries.flatMap fun e => g.closeNote t e.1 e.2

/-- Removes the ticket from the store, unless the store has another one under its uuid by now. -/
def unregister (g : Gate) (id : String) (t : TicketId) : Gate :=
  if g.store.get? id = some t then { g with store := g.store.erase id } else g

def unregisterNote (g : Gate) (id : String) (t : TicketId) : List Note :=
  if g.store.get? id = some t then [.ticketRemoved id] else []

/-- The longest time that the timer takes, in seconds; in place of a longer one it takes thirty
years. -/
def timerLimit : Nat := 0x8000000000000000

def thirtyYears : Nat := 30 * 365 * 86400 * 1000

def deadline (g : Gate) (timeout : Nat) : Nat :=
  g.clock + if timeout / 1000 < timerLimit then timeout else thirtyYears

end Gate

end TicketGate
