import TicketGate.Json

namespace TicketGate.Json

inductive Token
  | scalar (v : Json)
  | comma
  | colon
  | openArray
  | closeArray
  | openObject
  | closeObject

/-- Digits read so far: those that fit a counter, and the power of ten still to apply. -/
structure Digits where
  significand : Nat
  scale : Int
  full : Bool

def digitValue (c : Char) : Nat := c.toNat - '0'.toNat

/-- One more digit before the point. Once the counter is full, digits only raise the scale. -/
def Digits.pushWhole (d : Digits) (c : Char) : Digits :=
  let next := d.significand * 10 + digitValue c
  if d.full ∨ maxWord < next then ⟨d.significand, d.scale + 1, true⟩ else ⟨next, d.scale, false⟩

/-- One more digit after the point. Once the counter is full, digits are dropped. -/
def Digits.pushFraction (d : Digits) (c : Char) : Digits :=
  let next := d.significand * 10 + digitValue c
  if d.full ∨ maxWord < next then ⟨d.significand, d.scale, true⟩ else ⟨next, d.scale - 1, false⟩

def powerOfTen (n : Nat) : Float := Float.ofScientific 1 false n

def scaleDown (f : Float) (n : Nat) : Float :=
  if n ≤ 308 then f / powerOfTen n
  else if f == 0 then f
  else scaleDown (f / powerOfTen 308) (n - 308)
termination_by n

def doubleOf? (negative : Bool) (significand : Nat) (scale : Int) : Option Decimal.Double :=
  let f := significand.toUInt64.toFloat
  let magnitude :=
    if scale ≤ 0 then scaleDown f (-scale).toNat
    else if f == 0 then f
    else if scale ≤ 308 then f * powerOfTen scale.toNat
    else 1 / 0
  if magnitude.isInf then none
  else some ⟨(if negative then -magnitude else magnitude).toBits⟩

/-- A number without point and exponent. A negative zero is a double. -/
def wholeNumber? (negative : Bool) (d : Digits) : Option Json :=
  let fits := if negative then 0 < d.significand ∧ d.significand ≤ 0x8000000000000000 else True
  if ¬ d.full ∧ fits then
    some (integer (if negative then -(d.significand : Int) else d.significand))
  else (doubleOf? negative d.significand d.scale).map double

def exponent? : List Char → Option (Int × List Char)
  | c :: cs =>
    if c = 'e' ∨ c = 'E' then
      let negative := cs.head? = some '-'
      let rest := if cs.head? = some '-' ∨ cs.head? = some '+' then cs.tail else cs
      match rest.span Char.isDigit with
      | ([], _) => none
      | (ds, rest) =>
        let n : Int := ds.foldl (fun n c => n * 10 + digitValue c) 0
        some (if negative then -n else n, rest)
    else some (0, c :: cs)
  | [] => some (0, [])

def number? (negative : Bool) (cs : List Char) : Option (Json × List Char) :=
  match cs.span Char.isDigit with
  | ([], _) => none
  | ('0' :: _ :: _, _) => none
  | (ds, rest) =>
    let whole := ds.foldl Digits.pushWhole ⟨0, 0, false⟩
    match rest with
    | '.' :: rest =>
      match rest.span Char.isDigit with
      | ([], _) => none
      | (ds, rest) => do
        let d := ds.foldl Digits.pushFraction ⟨whole.significand, whole.scale, false⟩
        let (e, rest) ← exponent? rest
        let v ← doubleOf? negative d.significand (d.scale + e)
        return (double v, rest)
    | c :: _ =>
      if c = 'e' ∨ c = 'E' then do
        let (e, rest) ← exponent? rest
        let v ← doubleOf? negative whole.significand (whole.scale + e)
        return (double v, rest)
      else (wholeNumber? negative whole).map (·, rest)
    | [] => (wholeNumber? negative whole).map (·, [])

def hexValue? (c : Char) : Option Nat :=
  if '0' ≤ c ∧ c ≤ '9' then some (c.toNat - '0'.toNat)
  else if 'a' ≤ c ∧ c ≤ 'f' then some (c.toNat - 'a'.toNat + 10)
  else if 'A' ≤ c ∧ c ≤ 'F' then some (c.toNat - 'A'.toNat + 10)
  else none

def unit? (a b c d : Char) : Option Nat := do
  return (← hexValue? a) * 4096 + (← hexValue? b) * 256 + (← hexValue? c) * 16 + (← hexValue? d)

def escaped? : Char → Option Char
  | '\x22' => some '\x22'
  | '\\' => some '\\'
  | '/' => some '/'
  | 'b' => some '\x08'
  | 'f' => some '\x0c'
  | 'n' => some '\n'
  | 'r' => some '\r'
  | 't' => some '\t'
  | _ => none

/-- The rest of a string after its opening quote. Halves of a surrogate pair must come together. -/
def string? : List Char → Option (List Char × List Char)
  | '\x22' :: cs => some ([], cs)
  | '\\' :: 'u' :: a :: b :: c :: d :: cs => do
    let u ← unit? a b c d
    if 0xD800 ≤ u ∧ u < 0xDC00 then
      match cs with
      | '\\' :: 'u' :: a :: b :: c :: d :: cs => do
        let v ← unit? a b c d
        if 0xDC00 ≤ v ∧ v < 0xE000 then
          let (s, rest) ← string? cs
          return (Char.ofNat (0x10000 + (u - 0xD800) * 1024 + (v - 0xDC00)) :: s, rest)
        else none
      | _ => none
    else if 0xDC00 ≤ u ∧ u < 0xE000 then none
    else
      let (s, rest) ← string? cs
      return (Char.ofNat u :: s, rest)
  | '\\' :: c :: cs => do
    let e ← escaped? c
    let (s, rest) ← string? cs
    return (e :: s, rest)
  | c :: cs =>
    if c.toNat < 0x20 then none
    else do
      let (s, rest) ← string? cs
      return (c :: s, rest)
  | [] => none

def isBlank (c : Char) : Bool := c = ' ' || c = '\t' || c = '\n' || c = '\r'

def token? : List Char → Option (Token × List Char)
  | ',' :: cs => some (.comma, cs)
  | ':' :: cs => some (.colon, cs)
  | '[' :: cs => some (.openArray, cs)
  | ']' :: cs => some (.closeArray, cs)
  | '\x7b' :: cs => some (.openObject, cs)
  | '\x7d' :: cs => some (.closeObject, cs)
  | 'n' :: 'u' :: 'l' :: 'l' :: cs => some (.scalar null, cs)
  | 't' :: 'r' :: 'u' :: 'e' :: cs => some (.scalar (bool true), cs)
  | 'f' :: 'a' :: 'l' :: 's' :: 'e' :: cs => some (.scalar (bool false), cs)
  | '\x22' :: cs => (string? cs).map fun (s, rest) => (.scalar (string (String.ofList s)), rest)
  | '-' :: cs => (number? true cs).map fun (v, rest) => (.scalar v, rest)
  | cs => (number? false cs).map fun (v, rest) => (.scalar v, rest)

/-- All tokens of the text. A token is never empty, so the text gets shorter each time. -/
def tokens? (cs : List Char) : Option (List Token) :=
  match cs with
  | [] => some []
  | c :: cs =>
    if isBlank c then tokens? cs
    else
      match token? (c :: cs) with
      | some (t, rest) =>
        if rest.length ≤ cs.length then (tokens? rest).map (t :: ·) else none
      | none => none
termination_by cs.length

end TicketGate.Json
