namespace TicketGate.Decimal

/-- The bits of a double: sign, eleven exponent bits, fifty-two fraction bits. -/
structure Double where
  bits : UInt64
deriving DecidableEq

namespace Double

def isNegative (d : Double) : Bool := d.bits.toNat >>> 63 = 1

def fraction (d : Double) : Nat := d.bits.toNat % (1 <<< 52)

def exponentField (d : Double) : Nat := (d.bits.toNat >>> 52) % 2048

def significand (d : Double) : Nat :=
  if d.exponentField = 0 then d.fraction else (1 <<< 52) + d.fraction

def exponent (d : Double) : Int :=
  if d.exponentField = 0 then -1074 else (d.exponentField : Int) - 1075

structure Interval where
  low : Nat
  value : Nat
  high : Nat
  denominator : Nat
  closed : Bool

/-- The numbers that round to the magnitude of `d`. The gap below a power of two is half as wide,
and the ends belong to the interval when the significand is even. -/
def interval (d : Double) : Interval :=
  let m := d.significand
  let scale := fun (k : Nat) => if 0 ≤ d.exponent then k <<< d.exponent.toNat else k
  let below := if d.fraction = 0 ∧ 1 < d.exponentField then 1 else 2
  ⟨scale (4 * m - below), scale (4 * m), scale (4 * m + 2),
    4 * (if 0 ≤ d.exponent then 1 else 1 <<< (-d.exponent).toNat), m % 2 = 0⟩

def Interval.contains (i : Interval) (num den : Nat) : Bool :=
  if i.closed then i.low * den ≤ num * i.denominator && num * i.denominator ≤ i.high * den
  else i.low * den < num * i.denominator && num * i.denominator < i.high * den

end Double

end TicketGate.Decimal
