namespace TicketGate

structure Config where
  inactivityTimeout : Nat
  /-- How long a removal waits for operations to end; at zero it does not wait. -/
  removeTimeout : Nat
deriving DecidableEq

def Config.standard : Config := ⟨60, 60⟩

end TicketGate
