import TicketGate.Access
import TicketGate.Json.Text

namespace TicketGate

inductive Note
  | addingTicket (uuid transfer : String)
  | ticketMissing (id : String)
  | ticketRemoved (id : String)
  | authorizing (access : Access) (transfer : String)
  | addingContext (transfer : String) (connection : Nat)
  | removingContext (transfer : String) (connection : Nat)
  | closeFailed (transfer : String) (connection : Nat) (error : String)
  | operationCanceled (transfer : String)
  | operationStopped (transfer : String) (last : Bool)
  | lastOperationRemoved (transfer : String)
  | canceling (transfer : String)
  | signalling (transfer : String)
  | waiting (transfer : String)
  | canceledIdle (transfer : String)
  | canceledDrained (transfer : String)
deriving DecidableEq

namespace Note

inductive Level
  | debug
  | info
  | warn

def Level.name : Level → String
  | debug => "DEBUG"
  | info => "INFO"
  | warn => "WARN"

def level : Note → Level
  | closeFailed _ _ _ => .warn
  | waiting _ | canceledDrained _ => .info
  | _ => .debug

def message : Note → String
  | addingTicket _ _ => "Adding ticket"
  | ticketMissing _ => "Ticket does not exist"
  | ticketRemoved _ => "Ticket removed"
  | authorizing _ _ => "AUTH"
  | addingContext _ _ => "Adding connection context"
  | removingContext _ _ => "Removing connection context"
  | closeFailed _ _ _ => "Failed to close connection context"
  | operationCanceled _ => "Operation was canceled"
  | operationStopped _ _ => "Operation finished on canceled transfer"
  | lastOperationRemoved _ => "Removed last ongoing operation"
  | canceling _ => "Cancelling transfer"
  | signalling _ => "Canceling ongoing operations"
  | waiting _ => "Waiting until ongoing operations finish"
  | canceledIdle _ | canceledDrained _ => "Transfer was canceled"

def details : Note → List (String × Json)
  | addingTicket uuid transfer => [("uuid", .string uuid), ("transfer_id", .string transfer)]
  | ticketMissing id | ticketRemoved id => [("ticket_id", .string id)]
  | authorizing access transfer => [("op", .string access.name), ("transfer_id", .string transfer)]
  | addingContext transfer connection | removingContext transfer connection =>
    [("transfer_id", .string transfer), ("con_id", .ofNat connection)]
  | closeFailed transfer connection error =>
    [("transfer_id", .string transfer), ("con_id", .ofNat connection), ("error", .string error)]
  | operationStopped transfer last => [("transfer_id", .string transfer), ("drained", .bool last)]
  | operationCanceled transfer | lastOperationRemoved transfer | canceling transfer
  | signalling transfer | waiting transfer | canceledIdle transfer | canceledDrained transfer =>
    [("transfer_id", .string transfer)]

def toJson (n : Note) : Json :=
  .ofFields (("level", .string n.level.name) :: ("message", .string n.message) :: n.details)

/-- Notes of one moment have no order of their own: they are listed by their text. -/
def sorted (ns : List Note) : List Json :=
  (ns.map fun n => (n.toJson.compact, n.toJson)).mergeSort (fun a b => a.1 ≤ b.1) |>.map Prod.snd

end Note

end TicketGate
