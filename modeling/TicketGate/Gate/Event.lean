import TicketGate.Gate

namespace TicketGate

namespace Gate

/-- A removal is several events, since the store is not locked from the one to the next: it looks
for its ticket, cancels it, may have to wait, and takes it out of the store. -/
inductive Event
  | add (record : Json)
  /-- A record becomes a ticket outside the store. -/
  | issue (record : Json)
  | get (id : String)
  | authorize (id : String) (access : Access)
  | remove (id : String)
  | pursue (c : CallId)
  | delete (c : CallId)
  | clear
  | touch (t : TicketId)
  | extend (t : TicketId) (seconds : Nat)
  | addContext (t : TicketId) (c : ConnectionId) (failure : Option String)
  | getContext (t : TicketId) (c : ConnectionId)
  | removeContext (t : TicketId) (c : ConnectionId)
  | start (t : TicketId) (offset done : Nat)
  | progress (o : OperationId) (done : Nat)
  | finish (o : OperationId) (result : Except Fault Unit)
  /-- A cancellation that waits for so many milliseconds. -/
  | cancel (t : TicketId) (timeout : Nat)
  | wake (c : CallId)
  | expire (c : CallId)
  | pass (ms : Nat)

inductive Reply
  | done
  | flag (b : Bool)
  | ticket (t : TicketId)
  | context (x : ContextId)
  | running (o : OperationId)
  | pending (c : CallId)
  | fault (f : Fault)
deriving DecidableEq

structure Outcome where
  gate : Gate
  reply : Reply
  notes : List Note

def answer (g : Gate) (r : Reply) : Outcome := ⟨g, r, []⟩

def issue (g : Gate) (record : Json) : Outcome :=
  match Grant.ofJson Url.parse record with
  | .error f => g.answer (.fault f)
  | .ok grant =>
    let t := Ticket.ofGrant g.config g.seconds grant
    ⟨{ g with tickets := g.tickets ++ [t] }, .ticket g.tickets.length, []⟩

def add (g : Gate) (record : Json) : Outcome :=
  match Grant.ofJson Url.parse record with
  | .error f => g.answer (.fault f)
  | .ok grant =>
    let t := Ticket.ofGrant g.config g.seconds grant
    let id := g.tickets.length
    ⟨{ g with tickets := g.tickets ++ [t], store := g.store.insert t.terms.uuid id }, .done,
      [.addingTicket t.terms.uuid t.terms.transferId]⟩

def get (g : Gate) (id : String) : Outcome :=
  match g.find? id with
  | some (t, _) => g.answer (.ticket t)
  | none => g.answer (.fault (.unknownTicket id))

def denial? (g : Gate) (t : Ticket) (a : Access) : Option Denial :=
  if t.canceled then some (.canceled t.terms.transferId)
  else if t.expires ≤ g.seconds then some (.expired t.terms.transferId)
  else if t.allows a then none
  else some (.forbidden t.terms.transferId a)

def authorize (g : Gate) (id : String) (a : Access) : Outcome :=
  match g.find? id with
  | none => g.answer (.fault (.denied (.unknownTicket id)))
  | some (t, ticket) =>
    let reply := match g.denial? ticket a with
      | some d => .fault (.denied d)
      | none => .ticket t
    ⟨g, reply, [.authorizing a ticket.terms.transferId]⟩

/-- Cancels a ticket. When no operation runs on it, its contexts are closed; else the operations are
asked to stop. -/
def stop (g : Gate) (t : TicketId) (ticket : Ticket) : Gate :=
  let g := g.onTicket t Ticket.cancel
  if ticket.isActive then g.signalAll ticket else g.closeAll ticket

def stopNotes (g : Gate) (ticket : Ticket) (timeout : Nat) : List Note :=
  let transfer := ticket.terms.transferId
  .canceling transfer ::
    if ticket.isActive then
      .signalling transfer :: if timeout = 0 then [] else [.waiting transfer]
    else .canceledIdle transfer :: g.closeNotes ticket

/-- With a timeout the call waits for the operations to end. -/
def cancel (g : Gate) (t : TicketId) (ticket : Ticket) (timeout : Nat) : Outcome :=
  let stopped := g.stop t ticket
  let notes := g.stopNotes ticket timeout
  if ticket.isActive then
    if timeout = 0 then ⟨stopped, .flag false, notes⟩
    else
      ⟨{ stopped.hold g.nextCall (.waiting t (g.deadline timeout) none) with
          nextCall := g.nextCall + 1 }, .pending g.nextCall, notes⟩
  else ⟨stopped, .flag true, notes⟩

def remove (g : Gate) (id : String) : Outcome :=
  match g.find? id with
  | none => ⟨g, .done, [.ticketMissing id]⟩
  | some (t, _) =>
    ⟨{ g.hold g.nextCall (.found t id) with nextCall := g.nextCall + 1 }, .pending g.nextCall, []⟩

/-- Without a timeout the removal of a ticket in use ends here: the ticket stays in the store, and
whoever wants it removed has to call again. -/
def pursue? (g : Gate) (c : CallId) : Option Outcome :=
  match g.calls.get? c with
  | some (.found t id) =>
    (g.ticket? t).map fun ticket =>
      let timeout := g.config.removeTimeout * 1000
      let stopped := g.stop t ticket
      let notes := g.stopNotes ticket timeout
      if ticket.isActive then
        if timeout = 0 then ⟨stopped.drop c, .done, notes⟩
        else ⟨stopped.hold c (.waiting t (g.deadline timeout) (some id)), .pending c, notes⟩
      else ⟨stopped.hold c (.unused t id), .pending c, notes⟩
  | _ => none

def wake? (g : Gate) (c : CallId) : Option Outcome :=
  match g.calls.get? c with
  | some (.waiting t _ removal) =>
    (g.ticket? t).bind fun ticket =>
      let closed := g.closeAll ticket
      let notes := .canceledDrained ticket.terms.transferId :: g.closeNotes ticket
      if ticket.drained then
        match removal with
        | none => some ⟨closed.drop c, .flag true, notes⟩
        | some id => some ⟨closed.hold c (.unused t id), .pending c, notes⟩
      else none
  | _ => none

def delete? (g : Gate) (c : CallId) : Option Outcome :=
  match g.calls.get? c with
  | some (.unused t id) => some ⟨(g.unregister id t).drop c, .done, g.unregisterNote id t⟩
  | _ => none

def expire? (g : Gate) (c : CallId) : Option Outcome :=
  match g.calls.get? c with
  | some (.waiting t deadline _) =>
    (g.ticket? t).bind fun ticket =>
      if !ticket.drained && deadline ≤ g.clock then
        some ⟨g.drop c, .fault (.cancelTimeout ticket.terms.transferId), []⟩
      else none
  | _ => none

def addContext (g : Gate) (t : TicketId) (ticket : Ticket) (c : ConnectionId)
    (failure : Option String) : Outcome :=
  let x := g.contexts.length
  let g := { g with contexts := g.contexts ++ [Context.mk failure 0] }
  if ticket.canceled then g.answer (.fault ticket.stopped)
  else ⟨g.onTicket t (·.connect c x), .context x, [.addingContext ticket.terms.transferId c]⟩

def getContext (g : Gate) (ticket : Ticket) (c : ConnectionId) : Outcome :=
  match ticket.connections.get? c with
  | some x => g.answer (.context x)
  | none => g.answer (.fault (.unknownConnection ticket.terms.transferId c))

def removeContext (g : Gate) (t : TicketId) (ticket : Ticket) (c : ConnectionId) : Outcome :=
  match ticket.connections.get? c with
  | none => g.answer .done
  | some x =>
    ⟨(g.onTicket t (·.disconnect c)).closeContext x, .done,
      .removingContext ticket.terms.transferId c :: g.closeNote ticket c x⟩

def start (g : Gate) (t : TicketId) (ticket : Ticket) (offset done : Nat) : Outcome :=
  let o := g.operations.length
  let op : Operation := ⟨t, offset, done, 0, !ticket.canceled⟩
  let g := { g with operations := g.operations ++ [op] }
  if ticket.canceled then g.answer (.fault ticket.stopped)
  else ⟨g.onTicket t (·.enter o), .running o, []⟩

/-- The answer to whoever ran an operation: a canceled ticket reports none as completed, and an
operation that stopped by itself is no error. -/
def runReply (ticket : Ticket) (result : Except Fault Unit) : Reply :=
  if ticket.canceled then .fault ticket.stopped
  else
    match result with
    | .ok () | .error .operationCanceled => .done
    | .error f => .fault f

def finishNotes (ticket : Ticket) (last : Bool) (result : Except Fault Unit) : List Note :=
  let transfer := ticket.terms.transferId
  if ticket.canceled then
    (if last then [.lastOperationRemoved transfer] else []) ++ [.operationStopped transfer last]
  else
    match result with
    | .error .operationCanceled => [.operationCanceled transfer]
    | _ => []

def finish? (g : Gate) (o : OperationId) (result : Except Fault Unit) : Option Outcome := do
  let op ← g.operation? o
  let ticket ← g.ticket? op.ticket
  if ticket.ongoing.contains o then
    some ⟨g.onTicket op.ticket (·.leave g.seconds o op.moved), runReply ticket result,
      finishNotes ticket (ticket.ongoing.erase o).isEmpty result⟩
  else none

def allowsPause (g : Gate) (ms : Nat) : Call → Bool
  | .waiting t deadline _ => g.clock + ms ≤ deadline && (g.ticket? t).any (!·.drained)
  | .found _ _ | .unused _ _ => false

/-- Time passes only up to the next moment at which a call can go on. -/
def pass? (g : Gate) (ms : Nat) : Option Outcome :=
  if g.calls.entries.all fun e => g.allowsPause ms e.2 then
    some ⟨{ g with clock := g.clock + ms }, .done, []⟩
  else none

/-- Nothing comes of an event that cannot happen as things stand. -/
def step? (g : Gate) : Event → Option Outcome
  | .add record => some (g.add record)
  | .issue record => some (g.issue record)
  | .get id => some (g.get id)
  | .authorize id a => some (g.authorize id a)
  | .remove id => some (g.remove id)
  | .pursue c => g.pursue? c
  | .delete c => g.delete? c
  | .clear => some ⟨{ g with store := Table.empty }, .done, []⟩
  | .touch t => (g.ticket? t).map fun _ => (g.onTicket t (·.touch g.seconds)).answer .done
  | .extend t s => (g.ticket? t).map fun _ => (g.onTicket t (·.extend g.seconds s)).answer .done
  | .addContext t c failure => (g.ticket? t).map fun ticket => g.addContext t ticket c failure
  | .getContext t c => (g.ticket? t).map fun ticket => g.getContext ticket c
  | .removeContext t c => (g.ticket? t).map fun ticket => g.removeContext t ticket c
  | .start t offset done => (g.ticket? t).map fun ticket => g.start t ticket offset done
  | .progress o done =>
    (g.operation? o).map fun _ => (g.onOperation o ({ · with done := done })).answer .done
  | .finish o result => g.finish? o result
  | .cancel t timeout => (g.ticket? t).map fun ticket => g.cancel t ticket timeout
  | .wake c => g.wake? c
  | .expire c => g.expire? c
  | .pass ms => g.pass? ms

end Gate

end TicketGate
