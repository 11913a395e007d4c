import TicketGate.Decimal.Double

namespace TicketGate.Decimal

/-- The digits `digits` with the point before the last `-scale` of them: `digits * 10 ^ scale`. -/
structure Scaled where
  digits : Nat
  scale : Int

def digitCount (n : Nat) : Nat := (Nat.toDigits 10 n).length

def leadingExponent (num den : Nat) : Int :=
  if den ≤ num then (digitCount (num / den) : Int) - 1
  else -(digitCount ((den + num - 1) / num - 1) : Int)

namespace Double

/-- The candidates with `n` digits on either side of the value that read back as it. -/
def candidates (i : Interval) (lead : Int) (n : Nat) : List Scaled :=
  let scale : Int := lead - n + 1
  let up := Nat.pow 10 (-scale).toNat
  let down := Nat.pow 10 scale.toNat
  let below := i.value * up / (i.denominator * down)
  ([below, below + 1].filter fun k => i.contains (k * down) up).map fun k => ⟨k, scale⟩

/-- Of two neighbours the nearer to the value; a tie goes to the even digit. -/
def nearer (i : Interval) : List Scaled → Option Scaled
  | [] => none
  | [s] => some s
  | s :: t :: _ =>
    let up := Nat.pow 10 (-s.scale).toNat
    let down := Nat.pow 10 s.scale.toNat
    let twice := 2 * i.value * up
    let middle := (s.digits + t.digits) * down * i.denominator
    if twice < middle ∨ (twice = middle ∧ s.digits % 2 = 0) then some s else some t

/-- The fewest digits that read back as `d`; seventeen always suffice. -/
def shortest (d : Double) : Scaled :=
  let i := d.interval
  if i.value = 0 then ⟨0, 0⟩
  else
    let lead := leadingExponent i.value i.denominator
    ((List.range 17).findSome? fun n => nearer i (candidates i lead (n + 1))).getD ⟨0, 0⟩

end Double

def Scaled.trimmed (s : Scaled) : List Char × Int :=
  let digits := Nat.toDigits 10 s.digits
  let zeros := (digits.reverse.takeWhile (· == '0')).length
  if s.digits = 0 then (['0'], 0) else (digits.take (digits.length - zeros), s.scale + zeros)

def positional (digits : List Char) (scale : Int) : List Char :=
  if 0 ≤ scale then digits ++ List.replicate scale.toNat '0' ++ ['.', '0']
  else
    let places := (-scale).toNat
    if places < digits.length then
      digits.take (digits.length - places) ++ '.' :: digits.drop (digits.length - places)
    else '0' :: '.' :: List.replicate (places - digits.length) '0' ++ digits

def scientific (digits : List Char) (lead : Int) : List Char :=
  let mantissa := match digits with
    | c :: d :: ds => c :: '.' :: d :: ds
    | ds => ds
  mantissa ++ 'e' :: (if lead < 0 then '-' else '+') :: Nat.toDigits 10 lead.natAbs

def positionalFrom : Int := -5

def positionalBelow : Int := 16

def Double.text (d : Double) : String :=
  let (digits, scale) := d.shortest.trimmed
  let lead := scale + digits.length - 1
  let body :=
    if positionalFrom ≤ lead ∧ lead < positionalBelow then positional digits scale
    else scientific digits lead
  String.ofList (if d.isNegative then '-' :: body else body)

end TicketGate.Decimal
