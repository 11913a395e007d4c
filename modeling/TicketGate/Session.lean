import TicketGate.Gate.Event

namespace TicketGate

inductive Ending
  | complete
  | failure (message : String)
  | canceled

/-- How an operation goes. Without a duration it runs until it is released. -/
structure Script where
  name : String
  offset : Nat
  size : Nat
  done : Nat
  ending : Ending
  ignoresCancel : Bool
  duration : Option Nat

structure Job where
  operation : OperationId
  script : Script
  due : Option Nat
  task : Option String

/-- A gate with scripted operations. Its time jumps from one moment at which something ends to the
next. -/
structure Session where
  gate : Gate
  handles : Table String TicketId
  operations : Table String OperationId
  contextNames : List String
  jobs : List Job
  callers : Table CallId (Option String)
  ended : List (Option String × Gate.Reply)
  notes : List Note

namespace Session

def initial (config : Config) (clock : Nat) : Session where
  gate := Gate.initial config clock
  handles := Table.empty
  operations := Table.empty
  contextNames := []
  jobs := []
  callers := Table.empty
  ended := []
  notes := []

def absorb (s : Session) (out : Gate.Outcome) : Session :=
  { s with gate := out.gate, notes := s.notes ++ out.notes }

def perform (s : Session) (e : Gate.Event) : Session :=
  match s.gate.step? e with
  | some out => s.absorb out
  | none => s

def conclude (s : Session) (task : Option String) (e : Gate.Event) : Session :=
  match s.gate.step? e with
  | some out =>
    let s := s.absorb out
    { s with ended := s.ended ++ [(task, out.reply)] }
  | none => s

def Script.result (script : Script) (signals : Nat) : Except Fault Unit :=
  if 0 < signals ∧ ¬ script.ignoresCancel then .error .operationCanceled
  else
    match script.ending with
    | .complete => .ok ()
    | .failure message => .error (.io message)
    | .canceled => .error .operationCanceled

def endJob (s : Session) (job : Job) : Session :=
  match s.gate.operation? job.operation with
  | none => s
  | some op =>
    let result := Script.result job.script op.signals
    let s := match result with
      | .ok () => s.perform (.progress job.operation job.script.size)
      | .error _ => s
    s.conclude job.task (.finish job.operation result)

def isDue (s : Session) (job : Job) : Bool := job.due.any (· ≤ s.gate.clock)

def endJobs (s : Session) : Session :=
  (s.jobs.filter s.isDue).foldl endJob { s with jobs := s.jobs.filter (!s.isDue ·) }

def advance (s : Session) (c : CallId) (e : Gate.Event) : Session :=
  match s.gate.step? e with
  | none => s
  | some out =>
    let s := s.absorb out
    match out.reply with
    | .pending _ => s
    | r => { s with ended := s.ended ++ [((s.callers.get? c).getD none, r)] }

/-- Moves every call on for which an event can happen, up to its answer. -/
def endWaits (s : Session) (event : CallId → Gate.Event) : Session :=
  s.gate.calls.keys.foldl (fun s c => (s.advance c (event c)).advance c (.delete c)) s

def settle (s : Session) : Session := (s.endJobs.endWaits .wake).endWaits .expire

def moments (s : Session) : List Nat :=
  let ends := s.jobs.filterMap Job.due ++ s.gate.calls.entries.filterMap (·.2.deadline?)
  (ends.filter (s.gate.clock < ·)).mergeSort.eraseDups

def advanceTo (s : Session) (moment : Nat) : Session :=
  (s.perform (.pass (moment - s.gate.clock))).settle

def sleep (s : Session) (ms : Nat) : Session :=
  let goal := s.gate.clock + ms
  ((s.moments.filter (· < goal)).foldl advanceTo s).advanceTo goal

def ownReply? (s : Session) : Option Gate.Reply := s.ended.lookup none

/-- Goes from moment to moment until the session has the answer it waits for. -/
def await (s : Session) : List Nat → Session
  | [] => s
  | m :: ms => if s.ownReply?.isSome then s else (s.advanceTo m).await ms

def awaitOwn (s : Session) : Session × Gate.Reply :=
  let s := s.settle
  let s := s.await s.moments
  ({ s with ended := s.ended.filter (·.1.isSome) }, s.ownReply?.getD .done)

def launch (s : Session) (t : TicketId) (script : Script) (task : Option String) : Session :=
  let o := s.gate.operations.length
  match s.gate.step? (.start t script.offset script.done) with
  | none => s
  | some out =>
    let s := s.absorb out
    let s := { s with operations := s.operations.insert script.name o }
    match out.reply with
    | .running o =>
      { s with jobs := s.jobs ++ [⟨o, script, script.duration.map (s.gate.clock + ·), task⟩] }
    | r => { s with ended := s.ended ++ [(task, r)] }

/-- Calls for a cancellation or a removal, for a task. It goes on until it has to wait. -/
def launchCall (s : Session) (e : Gate.Event) (task : Option String) : Session :=
  match s.gate.step? e with
  | none => s
  | some out =>
    let s := s.absorb out
    match out.reply with
    | .pending c =>
      let s := { s with callers := s.callers.insert c task }
      (s.advance c (.pursue c)).advance c (.delete c)
    | r => { s with ended := s.ended ++ [(task, r)] }

def release (s : Session) (o : OperationId) : Session :=
  let free := fun (job : Job) =>
    if job.operation = o ∧ job.due.isNone then { job with due := some s.gate.clock } else job
  { s with jobs := s.jobs.map free }

end Session

end TicketGate
