import TicketGate.Ticket
import TicketGate.Text.Escaped

namespace TicketGate

namespace Ticket

structure Info where
  active : Bool
  canceled : Bool
  connections : Nat
  expires : Nat
  idleTime : Nat
  transferred : Option Nat
  terms : Terms

def info (t : Ticket) (now : Nat) (progress : OperationId → ByteRange) : Info where
  active := t.isActive
  canceled := t.canceled
  connections := t.connections.size
  expires := t.expires
  idleTime := t.idleTime now
  transferred := t.transferred progress
  terms := t.terms

namespace Info

def optional (name : String) : Option Json → List (String × Json)
  | some v => [(name, v)]
  | none => []

/-- An empty transfer id is none. -/
def transferId (i : Info) : Option String :=
  if i.terms.transferId.isEmpty then none else some i.terms.transferId

def toJson (i : Info) : Json :=
  .ofFields ([
    ("active", .bool i.active),
    ("canceled", .bool i.canceled),
    ("connections", .ofNat i.connections),
    ("expires", .ofNat i.expires),
    ("idle_time", .ofNat i.idleTime),
    ("inactivity_timeout", .ofNat i.terms.inactivityTimeout),
    ("ops", .array (i.terms.access.map fun a => .string a.name)),
    ("size", .ofNat i.terms.size),
    ("sparse", .bool i.terms.sparse),
    ("dirty", .bool i.terms.dirty),
    ("timeout", .ofNat i.terms.timeout),
    ("url", .string i.terms.url.text),
    ("uuid", .string i.terms.uuid)] ++
    optional "transfer_id" (i.transferId.map .string) ++
    optional "filename" (i.terms.filename.map .string) ++
    optional "transferred" (i.transferred.map .ofNat))

def accessName : Access → String
  | .read => "Read"
  | .write => "Write"

def optionalText : Option String → String
  | some s => "Some(" ++ s ++ ")"
  | none => "None"

def text (i : Info) : String :=
  let fields := [
    ("active", toString i.active),
    ("canceled", toString i.canceled),
    ("connections", toString i.connections),
    ("expires", toString i.expires),
    ("inactivity_timeout", toString i.terms.inactivityTimeout),
    ("filename", optionalText (i.terms.filename.map Text.escaped)),
    ("idle_time", toString i.idleTime),
    ("ops", "[" ++ ", ".intercalate (i.terms.access.map accessName) ++ "]"),
    ("size", toString i.terms.size),
    ("sparse", toString i.terms.sparse),
    ("dirty", toString i.terms.dirty),
    ("transfer_id", Text.escaped i.terms.transferId),
    ("transferred", optionalText (i.transferred.map toString)),
    ("url", Text.escaped i.terms.url.text),
    ("uuid", Text.escaped i.terms.uuid)]
  "Ticket \x7b " ++ ", ".intercalate (fields.map fun f => f.1 ++ ": " ++ f.2) ++ " \x7d"

end Info

end Ticket

end TicketGate
