import TicketGate.Word

namespace TicketGate

/-- The bytes from `start` up to, but not including, `stop`. -/
structure ByteRange where
  start : Nat
  stop : Nat
deriving DecidableEq

namespace ByteRange

instance : Membership Nat ByteRange := ⟨fun r x => r.start ≤ x ∧ x < r.stop⟩

def length (r : ByteRange) : Nat := r.stop - r.start

def isEmpty (r : ByteRange) : Bool := r.stop ≤ r.start

/-- The `done` bytes from `offset` on, cut off at the largest counter. -/
def ofProgress (offset done : Nat) : ByteRange := ⟨offset, clippedAdd offset done⟩

theorem mem_def {r : ByteRange} {x : Nat} : x ∈ r ↔ r.start ≤ x ∧ x < r.stop := Iff.rfl

theorem isEmpty_iff {r : ByteRange} : r.isEmpty = true ↔ ∀ x, x ∉ r := by
  simp only [isEmpty, decide_eq_true_eq, mem_def]
  constructor
  · intro h x
    omega
  · intro h
    have := h r.start
    omega

theorem start_lt_stop {r : ByteRange} (h : ¬ r.isEmpty = true) : r.start < r.stop := by
  simpa [isEmpty] using h

end ByteRange

end TicketGate
