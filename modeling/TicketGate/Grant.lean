import TicketGate.Fault

namespace TicketGate

structure Grant where
  uuid : String
  size : Nat
  access : List Access
  timeout : Nat
  url : Url
  inactivityTimeout : Option Nat
  transferId : Option String
  filename : Option String
  sparse : Bool
  dirty : Bool
deriving DecidableEq

namespace Grant

def supportedSchemes : List String := ["file", "nbd", "http", "https"]

def supports (scheme : String) : Bool := supportedSchemes.contains scheme

abbrev Fields := List (String × Json)

/-- A type of field: how to take a value of it, and the complaint about any other. -/
structure Kind (α : Type) where
  take : Json → Option α
  flaw : FieldFlaw

def string : Kind String := ⟨Json.asString?, .notString⟩

def counter : Kind Nat := ⟨Json.asWord?, .notCounter⟩

def flag : Kind Bool := ⟨Json.asBool?, .notFlag⟩

def Kind.check {α : Type} (k : Kind α) (name : String) (v : Json) : Except Fault α :=
  match k.take v with
  | some a => .ok a
  | none => .error (.badField name v.compact k.flaw)

def present (fs : Fields) (name : String) : Except Fault Json :=
  match Json.field? fs name with
  | some v => .ok v
  | none => .error (.missingField name)

def required {α : Type} (k : Kind α) (fs : Fields) (name : String) : Except Fault α := do
  k.check name (← present fs name)

/-- A field that may be missing. A null is there, and of no type. -/
def optional {α : Type} (k : Kind α) (fs : Fields) (name : String) : Except Fault (Option α) :=
  match Json.field? fs name with
  | some v => (k.check name v).map some
  | none => .ok none

/-- The kinds of access in a list, after those already `seen`. The first item decides that is no
string, names no kind, or comes again. -/
def accessItems (seen : List Access) : List Json → Except FieldFlaw (List Access)
  | [] => .ok []
  | .string s :: items =>
    match Access.ofName? s with
    | none => .error (.unsupportedAccess s)
    | some a =>
      if seen.contains a then .error (.repeatedAccess a)
      else (accessItems (seen ++ [a]) items).map (a :: ·)
  | _ :: _ => .error .notNames

def accessList (v : Json) : Except FieldFlaw (List Access) :=
  match v with
  | .array [] => .error .emptyList
  | .array items => accessItems [] items
  | _ => .error .notList

def readAccess (v : Json) : Except Fault (List Access) :=
  (accessList v).mapError (.badField "ops" v.compact)

def readUrl (parse : String → Except Url.Flaw Url) (s : String) : Except Fault Url :=
  match parse s with
  | .error flaw => .error (.badField "url" s (.badUrl flaw))
  | .ok u =>
    if supports u.scheme then .ok u
    else .error (.badField "url" s (.unsupportedScheme u.scheme))

/-- The grant of a record, by a way of reading URLs. The fields are checked in a fixed order, and the
first bad one is named. -/
def ofJson (parse : String → Except Url.Flaw Url) (v : Json) : Except Fault Grant :=
  match v with
  | .object fs => do
    let uuid ← required string fs "uuid"
    let size ← required counter fs "size"
    let access ← readAccess (← present fs "ops")
    let timeout ← required counter fs "timeout"
    let inactivityTimeout ← optional counter fs "inactivity_timeout"
    let url ← readUrl parse (← required string fs "url")
    let transferId ← optional string fs "transfer_id"
    let filename ← optional string fs "filename"
    let sparse ← optional flag fs "sparse"
    let dirty ← optional flag fs "dirty"
    return ⟨uuid, size, access, timeout, url, inactivityTimeout, transferId, filename,
      sparse.getD false, dirty.getD false⟩
  | v => .error (.notAnObject v.compact)

end Grant

end TicketGate
