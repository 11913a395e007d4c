import TicketGate.Config
import TicketGate.Config.Timeout
import TicketGate.Table

namespace TicketGate

structure Environment where
  values : Table String ByteArray

namespace Environment

/-- A variable whose bytes are not UTF-8 counts as unset. -/
def get? (e : Environment) (name : String) : Option String :=
  (e.values.get? name).bind String.fromUTF8?

/-- Gives a variable a value if it has none that is text. Values with a NUL are outside of what is
described here: no process can have them in its environment. -/
def setIfUnset (e : Environment) (name value : String) : Environment :=
  match e.get? name with
  | some _ => e
  | none => ⟨e.values.insert name value.toUTF8⟩

end Environment

namespace Config

structure Flaw where
  name : String
  reason : Timeout.Flaw
deriving DecidableEq

def Flaw.message (f : Flaw) : String :=
  "Invalid value for " ++ f.name ++ ": " ++ f.reason.message

def inactivityVariable : String := "TRANSFER_INACTIVITY_TIMEOUT"

def removeVariable : String := "TRANSFER_REMOVE_TIMEOUT"

def timeout (e : Environment) (name : String) (standard : Nat) : Except Flaw Nat :=
  match e.get? name with
  | none => .ok standard
  | some s => (Timeout.parse s).mapError (⟨name, ·⟩)

def ofEnvironment (e : Environment) : Except Flaw Config := do
  let inactivity ← timeout e inactivityVariable standard.inactivityTimeout
  let remove ← timeout e removeVariable standard.removeTimeout
  return ⟨inactivity, remove⟩

end Config

end TicketGate
