namespace TicketGate.Url.Ipv4

def digitOf? (base : Nat) (c : Char) : Option Nat :=
  let n := if c.isDigit then c.toNat - '0'.toNat
    else if 'a' ≤ c ∧ c ≤ 'f' then c.toNat - 'a'.toNat + 10
    else if 'A' ≤ c ∧ c ≤ 'F' then c.toNat - 'A'.toNat + 10
    else base
  if n < base then some n else none

def numeral? (base : Nat) (cs : List Char) : Option Nat :=
  cs.foldlM (fun n c => (digitOf? base c).map (n * base + ·)) 0

/-- One part of an address. After `0x` no digit need follow. -/
def part? : List Char → Option Nat
  | [] => none
  | '0' :: 'x' :: cs => numeral? 16 cs
  | '0' :: 'X' :: cs => numeral? 16 cs
  | '0' :: c :: cs => numeral? 8 (c :: cs)
  | cs => numeral? 10 cs

def parts (cs : List Char) : List (List Char) := cs.splitOn '.'

def dropTrailing (ps : List (List Char)) : List (List Char) :=
  if ps.getLast? = some [] then ps.dropLast else ps

/-- Whether a host must be an address: its last part is a number, or digits that are none. -/
def endsInNumber (cs : List Char) : Bool :=
  match (dropTrailing (parts cs)).getLast? with
  | none => false
  | some p => (!p.isEmpty && p.all Char.isDigit) || (part? p).isSome

/-- The address as one number below `2 ^ 32`. -/
def parse? (cs : List Char) : Option Nat := do
  let ps := dropTrailing (parts cs)
  if 4 < ps.length then none
  else
    let ns ← ps.mapM part?
    let last ← ns.getLast?
    let front := ns.dropLast
    if front.all (· ≤ 255) ∧ last < 1 <<< (8 * (4 - front.length)) then
      some (front.foldl (fun n k => n * 256 + k) 0 <<< (8 * (4 - front.length)) + last)
    else none

def text (address : Nat) : List Char :=
  ['.'].intercalate ([3, 2, 1, 0].map fun i => Nat.toDigits 10 ((address >>> (8 * i)) % 256))

end TicketGate.Url.Ipv4
