import TicketGate.Decimal.Double
import TicketGate.Word

namespace TicketGate

/-- An object lists its fields by ascending key, each key once; `ofFields` brings fields into that
form. Whole numbers that fit 64 bits are integers, all other numbers are doubles. -/
inductive Json
  | null
  | bool (b : Bool)
  | integer (n : Int)
  | double (d : Decimal.Double)
  | string (s : String)
  | array (items : List Json)
  | object (fields : List (String × Json))

namespace Json

instance : Inhabited Json := ⟨null⟩

/-- Puts a field in its place among fields in order; a field of the same key gives way. -/
def insertField (key : String) (value : Json) : List (String × Json) → List (String × Json)
  | [] => [(key, value)]
  | (k, v) :: fs =>
    if key < k then (key, value) :: (k, v) :: fs
    else if k = key then (key, value) :: fs
    else (k, v) :: insertField key value fs

/-- The object with these fields; of two fields of one key the later counts. -/
def ofFields (fields : List (String × Json)) : Json :=
  object (fields.foldl (fun fs f => insertField f.1 f.2 fs) [])

def field? (fields : List (String × Json)) (key : String) : Option Json := fields.lookup key

def asWord? : Json → Option Nat
  | integer n => if 0 ≤ n ∧ n ≤ maxWord then some n.toNat else none
  | _ => none

def asString? : Json → Option String
  | string s => some s
  | _ => none

def asBool? : Json → Option Bool
  | bool b => some b
  | _ => none

def asArray? : Json → Option (List Json)
  | array items => some items
  | _ => none

def asObject? : Json → Option (List (String × Json))
  | object fields => some fields
  | _ => none

def ofNat (n : Nat) : Json := integer n

end Json

end TicketGate
