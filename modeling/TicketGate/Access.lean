import TicketGate.Json

namespace TicketGate

inductive Access
  | read
  | write
deriving DecidableEq

namespace Access

def name : Access → String
  | read => "read"
  | write => "write"

def ofName? : String → Option Access
  | "read" => some read
  | "write" => some write
  | _ => none

theorem ofName?_name (a : Access) : ofName? a.name = some a := by
  cases a <;> rfl

theorem ofName?_eq_some_iff {s : String} {a : Access} : ofName? s = some a ↔ s = a.name := by
  constructor
  · intro h
    unfold ofName? at h
    split at h <;> simp_all [name] <;> (subst h; rfl)
  · rintro rfl
    exact ofName?_name a

/-- The kind of access that a JSON value stands for: its name, or an object whose one field has that
name and is null. -/
def ofJson? : Json → Option Access
  | .string s => ofName? s
  | .object [(s, .null)] => ofName? s
  | _ => none

/-- Whether a grant of `granted` allows `wanted`: who may write may also read. -/
def allows (granted : List Access) (wanted : Access) : Bool :=
  granted.contains wanted || (wanted == read && granted.contains write)

end Access

end TicketGate
