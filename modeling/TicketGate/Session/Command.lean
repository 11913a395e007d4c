import TicketGate.Session
import TicketGate.Ticket.Info

namespace TicketGate.Session

inductive Command
  | add (record : Json)
  | get (id : String) (handle : Option String)
  | authorize (id kind : String) (handle : Option String)
  | remove (id : String)
  | spawnRemove (id task : String)
  | clear
  | config
  | sleep (ms : Nat)
  | issue (record : Json) (handle : String)
  | info (handle : String)
  | line (handle : String)
  | fields (handle : String)
  | touch (handle : String)
  | extend (handle : String) (seconds : Nat)
  | cancel (handle : String) (timeout : Nat)
  | spawnCancel (handle : String) (timeout : Nat) (task : String)
  | run (handle : String) (script : Script)
  | start (handle : String) (script : Script)
  | progress (operation : String) (done : Nat)
  | release (operation : String)
  | operation (operation : String)
  | addContext (handle : String) (c : ConnectionId) (context : String) (failure : Option String)
  | getContext (handle : String) (c : ConnectionId)
  | removeContext (handle : String) (c : ConnectionId)

inductive Result
  | nothing
  | done
  | flag (b : Bool)
  | number (n : Nat)
  | text (s : String)
  | fault (f : Fault)
  | unsupported (kind : String)
  | config (c : Config)
  | info (i : Ticket.Info)
  | fields (i : Ticket.Info)
  | operation (started : Bool) (done signals : Nat)

inductive Unknown
  | ticket
  | operation

def handle? (s : Session) (name : String) : Except Unknown TicketId :=
  match s.handles.get? name with
  | some t => .ok t
  | none => .error .ticket

def ticket? (s : Session) (name : String) : Except Unknown (TicketId × Ticket) := do
  let t ← s.handle? name
  match s.gate.ticket? t with
  | some ticket => return (t, ticket)
  | none => .error .ticket

def operation? (s : Session) (name : String) : Except Unknown (OperationId × Operation) :=
  match s.operations.get? name with
  | none => .error .operation
  | some o =>
    match s.gate.operation? o with
    | some op => .ok (o, op)
    | none => .error .operation

def bind (s : Session) (handle : Option String) (t : TicketId) : Session :=
  match handle with
  | some name => { s with handles := s.handles.insert name t }
  | none => s

def uuid (s : Session) (t : TicketId) : String :=
  match s.gate.ticket? t with
  | some ticket => ticket.terms.uuid
  | none => ""

def result (s : Session) : Gate.Reply → Result
  | .done => .done
  | .flag b => .flag b
  | .ticket t => .text (s.uuid t)
  | .context x => .text (s.contextNames[x]?.getD "")
  | .fault f => .fault f
  | .running _ | .pending _ => .nothing

def ask (s : Session) (e : Gate.Event) (handle : Option String) : Session × Result :=
  match s.gate.step? e with
  | none => (s, .nothing)
  | some out =>
    let s := s.absorb out
    let s := match out.reply with
      | .ticket t => s.bind handle t
      | _ => s
    (s, s.result out.reply)

def waited (s : Session) : Session × Result :=
  let (s, r) := s.awaitOwn
  (s, s.result r)

def snapshot (s : Session) (name : String) : Except Unknown Ticket.Info := do
  let (_, ticket) ← s.ticket? name
  return ticket.info s.gate.seconds s.gate.progress

def expires (s : Session) (t : TicketId) : Result :=
  match s.gate.ticket? t with
  | some ticket => .number ticket.expires
  | none => .nothing

def addContext (s : Session) (t : TicketId) (c : ConnectionId) (context : String)
    (failure : Option String) : Session × Result :=
  let (s, r) := { s with contextNames := s.contextNames ++ [context] }.ask
    (.addContext t c failure) none
  match r with
  | .text _ => (s, .done)
  | r => (s, r)

def execute (s : Session) : Command → Except Unknown (Session × Result)
  | .add record => .ok (s.ask (.add record) none)
  | .get id handle => .ok (s.ask (.get id) handle)
  | .authorize id kind handle =>
    match Access.ofName? kind with
    | some a => .ok (s.ask (.authorize id a) handle)
    | none => .ok (s, .unsupported kind)
  | .remove id => .ok (s.launchCall (.remove id) none).waited
  | .spawnRemove id task => .ok (s.launchCall (.remove id) (some task), .nothing)
  | .clear => .ok (s.ask .clear none)
  | .config => .ok (s, .config s.gate.config)
  | .sleep ms => .ok (s.sleep ms, .nothing)
  | .issue record handle => .ok (s.ask (.issue record) (some handle))
  | .info name => return (s, .info (← s.snapshot name))
  | .line name => return (s, .text (← s.snapshot name).text)
  | .fields name => return (s, .fields (← s.snapshot name))
  | .touch name => do
    let t ← s.handle? name
    let s := s.perform (.touch t)
    return (s, s.expires t)
  | .extend name seconds => do
    let t ← s.handle? name
    let s := s.perform (.extend t seconds)
    return (s, s.expires t)
  | .cancel name timeout => return (s.launchCall (.cancel (← s.handle? name) timeout) none).waited
  | .spawnCancel name timeout task =>
    return (s.launchCall (.cancel (← s.handle? name) timeout) (some task), .nothing)
  | .run name script => return (s.launch (← s.handle? name) script none).waited
  | .start name script =>
    return (s.launch (← s.handle? name) script (some script.name), .nothing)
  | .progress name done => do
    let (o, _) ← s.operation? name
    return (s.perform (.progress o done), .nothing)
  | .release name => do
    let (o, _) ← s.operation? name
    return (s.release o, .nothing)
  | .operation name => do
    let (_, op) ← s.operation? name
    return (s, .operation op.started op.done op.signals)
  | .addContext name c context failure =>
    return s.addContext (← s.handle? name) c context failure
  | .getContext name c => return s.ask (.getContext (← s.handle? name) c) none
  | .removeContext name c => return s.ask (.removeContext (← s.handle? name) c) none

structure Entry where
  result : Result
  seconds : Nat
  clock : Nat
  size : Nat
  ended : List (String × Result)
  closed : List (String × Nat)
  notes : List Note

def entry (s : Session) (r : Result) : Entry where
  result := r
  seconds := s.gate.seconds
  clock := s.gate.clock
  size := s.gate.store.size
  ended := s.ended.filterMap fun e => e.1.map (·, s.result e.2)
  closed := s.contextNames.zip (s.gate.contexts.map Context.closes)
  notes := s.notes

/-- One command, and all that follows from it without time passing. -/
def step (s : Session) (c : Command) : Except Unknown (Session × Entry) := do
  let (s, r) ← s.execute c
  let s := s.settle
  return ({ s with ended := [], notes := [] }, s.entry r)

def run (s : Session) : List Command → Except Unknown (List Entry)
  | [] => .ok []
  | c :: cs => do
    let (s, e) ← s.step c
    return e :: (← s.run cs)

end TicketGate.Session
