import TicketGate.Url.Ipv4

namespace TicketGate.Url.Ipv6

def group? (cs : List Char) : Option Nat :=
  if cs.isEmpty ∨ 4 < cs.length then none else Ipv4.numeral? 16 cs

def byte? (cs : List Char) : Option Nat :=
  match cs with
  | [] => none
  | '0' :: _ :: _ => none
  | _ => if 3 < cs.length then none else (Ipv4.numeral? 10 cs).filter (· ≤ 255)

def quad? (cs : List Char) : Option (List Nat) :=
  match cs.splitOn '.' with
  | [a, b, c, d] => do
    return [(← byte? a) * 256 + (← byte? b), (← byte? c) * 256 + (← byte? d)]
  | _ => none

def last? (cs : List Char) : Option (List Nat) :=
  match group? cs with
  | some g => some [g]
  | none => quad? cs

def groups? (final : Bool) (cs : List Char) : Option (List Nat) :=
  if cs.isEmpty then some []
  else
    let ps := cs.splitOn ':'
    match ps.getLast? with
    | none => none
    | some p => do
      let front ← ps.dropLast.mapM group?
      let back ← if final then last? p else (group? p).map ([·])
      return front ++ back

def cut : List Char → Option (List Char × List Char)
  | ':' :: ':' :: cs => some ([], cs)
  | c :: cs => (cut cs).map fun (before, after) => (c :: before, after)
  | [] => none

/-- The eight groups of an address. A double colon stands for at least one group. -/
def parse? (cs : List Char) : Option (List Nat) :=
  match cut cs with
  | some (before, after) => do
    let left ← groups? false before
    let right ← groups? true after
    if left.length + right.length ≤ 7 then
      some (left ++ List.replicate (8 - left.length - right.length) 0 ++ right)
    else none
  | none => do
    let all ← groups? true cs
    if all.length = 8 then some all else none

def zeros (gs : List Nat) : Nat := (gs.takeWhile (· == 0)).length

/-- Start and length of the first of the longest runs of zeros. -/
def longestRun (gs : List Nat) : Nat × Nat :=
  (List.range gs.length).foldl
    (fun best i => if best.2 < zeros (gs.drop i) then (i, zeros (gs.drop i)) else best) (0, 0)

def hexGroups (gs : List Nat) : List Char := [':'].intercalate (gs.map (Nat.toDigits 16))

def text (gs : List Nat) : List Char :=
  let (start, length) := longestRun gs
  if 2 ≤ length then
    hexGroups (gs.take start) ++ [':', ':'] ++ hexGroups (gs.drop (start + length))
  else hexGroups gs

end TicketGate.Url.Ipv6
