namespace TicketGate.Text

/-- The code points from `first` to `last`, all with one value. -/
structure Block (α : Type) where
  first : Nat
  last : Nat
  value : α

abbrev Blocks (α : Type) := Array (Block α)

def digitValue (c : Char) : Nat :=
  if c.isDigit then c.toNat - '0'.toNat else c.toUpper.toNat - 'A'.toNat + 10

def hexadecimal (cs : List Char) : Nat := cs.foldl (fun n c => n * 16 + digitValue c) 0

def decimal (cs : List Char) : Nat := cs.foldl (fun n c => n * 10 + digitValue c) 0

def entries (rows : List String) : List (List Char) := rows.flatMap fun r => r.toList.splitOn ' '

def bounds (entry : List Char) : Nat × Nat :=
  match entry.splitOn '-' with
  | [a, b] => (hexadecimal a, hexadecimal b)
  | _ => (hexadecimal entry, hexadecimal entry)

namespace Blocks

/-- Rows have entries such as `300-36F` or `41`, in hexadecimal; an entry with a value has it after
a colon. -/
def ofRows (rows : List String) : Blocks Unit :=
  ((entries rows).map fun e => ⟨(bounds e).1, (bounds e).2, ()⟩).toArray

def ofValueRows {α : Type} (value : List Char → α) (rows : List String) : Blocks α :=
  ((entries rows).map fun e =>
    let (code, v) := e.span (· ≠ ':')
    ⟨(bounds code).1, (bounds code).2, value (v.drop 1)⟩).toArray

variable {α : Type}

def search (bs : Blocks α) (n low high : Nat) : Option (Block α) :=
  if low < high then
    let middle := (low + high) / 2
    match bs[middle]? with
    | none => none
    | some b =>
      if n < b.first then search bs n low middle
      else if b.last < n then search bs n (middle + 1) high
      else some b
  else none
termination_by high - low

def find? (bs : Blocks α) (n : Nat) : Option (Block α) := bs.search n 0 bs.size

def contains (bs : Blocks α) (c : Char) : Bool := (bs.find? c.toNat).isSome

end Blocks

end TicketGate.Text
