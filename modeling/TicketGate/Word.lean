namespace TicketGate

def maxWord : Nat := 0xffffffffffffffff

/-- The sum of two counters, or the largest counter if the sum does not fit. -/
def clippedAdd (a b : Nat) : Nat := min (a + b) maxWord

end TicketGate
