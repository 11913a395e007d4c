import TicketGate.Json.Token

namespace TicketGate.Json

/-- An open bracket with what it holds so far, last first. -/
inductive Frame
  | items (done : List Json)
  | fields (done : List (String × Json)) (key : String)

mutual

/-- The brackets that are open are on a stack. Here a value is expected; `rest?` has one and looks
at what follows it. -/
def value? : List Token → List Frame → Option Json
  | .scalar v :: ts, fs => rest? v ts fs
  | .openArray :: .closeArray :: ts, fs => rest? (array []) ts fs
  | .openArray :: ts, fs => value? ts (.items [] :: fs)
  | .openObject :: .closeObject :: ts, fs => rest? (object []) ts fs
  | .openObject :: .scalar (string k) :: .colon :: ts, fs => value? ts (.fields [] k :: fs)
  | _, _ => none

def rest? (v : Json) : List Token → List Frame → Option Json
  | [], [] => some v
  | .comma :: ts, .items done :: fs => value? ts (.items (v :: done) :: fs)
  | .closeArray :: ts, .items done :: fs => rest? (array (v :: done).reverse) ts fs
  | .comma :: .scalar (string k) :: .colon :: ts, .fields done key :: fs =>
    value? ts (.fields ((key, v) :: done) k :: fs)
  | .closeObject :: ts, .fields done key :: fs => rest? (ofFields ((key, v) :: done).reverse) ts fs
  | _, _ => none

end

def read? (text : String) : Option Json := do
  value? (← tokens? text.toList) []

end TicketGate.Json
