import TicketGate.Access
import TicketGate.Json.Text
import TicketGate.Url

namespace TicketGate

inductive FieldFlaw
  | notString
  | notCounter
  | notFlag
  | notList
  | emptyList
  | notNames
  | unsupportedAccess (name : String)
  | repeatedAccess (access : Access)
  | badUrl (flaw : Url.Flaw)
  | unsupportedScheme (scheme : String)
  | other (text : String)
deriving DecidableEq

def unsupportedAccessMessage (name : String) : String := "Unsupported operation: " ++ name

def FieldFlaw.message : FieldFlaw → String
  | notString => "expecting a string value"
  | notCounter => "expecting a non-negative integer value"
  | notFlag => "expecting a boolean value"
  | notList => "expecting a list value"
  | emptyList => "expecting at least one operation"
  | notNames => "expecting a list of strings"
  | unsupportedAccess name => unsupportedAccessMessage name
  | repeatedAccess access => "Duplicate operation: " ++ access.name
  | badUrl flaw => flaw.message
  | unsupportedScheme scheme => "Unsupported url scheme: " ++ scheme
  | other text => text

inductive Denial
  | unknownTicket (id : String)
  | canceled (transfer : String)
  | expired (transfer : String)
  | forbidden (transfer : String) (access : Access)
  | stopped (transfer : String)
  | other (text : String)
deriving DecidableEq

/-- `canceled` is said at the gate, `stopped` to a holder of the ticket. -/
def Denial.message : Denial → String
  | unknownTicket id => "No such ticket " ++ id
  | canceled transfer => "Transfer=" ++ transfer ++ " was canceled"
  | expired transfer => "Transfer=" ++ transfer ++ " expired"
  | forbidden transfer access => "Transfer=" ++ transfer ++ " forbids " ++ access.name
  | stopped transfer => "Transfer " ++ transfer ++ " was canceled"
  | other text => text

inductive Fault
  | notAnObject (text : String)
  | missingField (field : String)
  | badField (field value : String) (flaw : FieldFlaw)
  | denied (reason : Denial)
  | cancelTimeout (transfer : String)
  | unknownTicket (id : String)
  | unknownConnection (transfer : String) (connection : Nat)
  | operationCanceled
  | io (text : String)
deriving DecidableEq

namespace Fault

def message : Fault → String
  | notAnObject text => "Invalid ticket: " ++ text ++ ", expecting a JSON object"
  | missingField field => "Missing ticket parameter: " ++ field
  | badField field value flaw =>
    "Invalid ticket parameter " ++ field ++ "=" ++ value ++ ": " ++ flaw.message
  | denied reason => reason.message
  | cancelTimeout transfer => "Timeout cancelling transfer " ++ transfer
  | unknownTicket id => "No such ticket " ++ id
  | unknownConnection transfer connection =>
    "Transfer " ++ transfer ++ " has no connection " ++ toString connection
  | operationCanceled => "Operation was canceled"
  | io text => text

def status : Fault → Nat
  | notAnObject _ | missingField _ | badField _ _ _ => 400
  | denied _ => 403
  | unknownTicket _ | unknownConnection _ _ => 404
  | cancelTimeout _ => 409
  | operationCanceled | io _ => 500

/-- After a cancel timeout the ticket is still there, and a second attempt waits on the same
operations; nothing else changes by trying again. -/
def isRetryable : Fault → Bool
  | cancelTimeout _ => true
  | _ => false

def contentType : String := "application/json"

def body (f : Fault) : String := (Json.ofFields [("message", .string f.message)]).compact

end Fault

end TicketGate
