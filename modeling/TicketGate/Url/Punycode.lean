namespace TicketGate.Url.Punycode

def digitChar (d : Nat) : Char := if d < 26 then .ofNat (0x61 + d) else .ofNat (0x30 + d - 26)

def digitValue? (c : Char) : Option Nat :=
  if c.isLower then some (c.toNat - 0x61)
  else if c.isUpper then some (c.toNat - 0x41)
  else if c.isDigit then some (c.toNat - 0x30 + 26)
  else none

def threshold (bias place : Nat) : Nat := max 1 (min 26 (place - bias))

theorem threshold_bounds (bias place : Nat) :
    1 ≤ threshold bias place ∧ threshold bias place ≤ 26 := by
  unfold threshold
  omega

/-- How often a number has to be divided to be small, times the base, and what is left of it. -/
def scaled (place delta : Nat) : Nat × Nat :=
  if 455 < delta then scaled (place + 36) (delta / 35) else (place, delta)
termination_by delta

/-- The bias after a number: it makes numbers of about the same size short. -/
def adapt (first : Bool) (delta count : Nat) : Nat :=
  let d := if first then delta / 700 else delta / 2
  let (place, rest) := scaled 0 (d + d / count)
  place + 36 * rest / (rest + 38)

def digits (bias place n : Nat) : List Char :=
  let t := threshold bias place
  if n < t then [digitChar n]
  else digitChar (t + (n - t) % (36 - t)) :: digits bias (place + 36) ((n - t) / (36 - t))
termination_by n
decreasing_by
  have h := threshold_bounds bias place
  have := Nat.div_le_self (n - threshold bias place) (36 - threshold bias place)
  omega

structure Encoder where
  output : List Char
  delta : Nat
  bias : Nat
  count : Nat

/-- Passes a character of the text on the way to the next place of `code`. -/
def Encoder.pass (basic code : Nat) (e : Encoder) (c : Char) : Encoder :=
  if c.toNat < code then { e with delta := e.delta + 1 }
  else if c.toNat = code then
    { output := e.output ++ digits e.bias 36 e.delta
      delta := 0
      bias := adapt (e.count = basic) e.delta (e.count + 1)
      count := e.count + 1 }
  else e

def encodeCodes (text : List Char) (basic : Nat) (next : Nat) (e : Encoder) : List Nat → Encoder
  | [] => e
  | code :: codes =>
    let e := { e with delta := e.delta + (code - next) * (e.count + 1) }
    let e := text.foldl (Encoder.pass basic code) e
    encodeCodes text basic (code + 1) { e with delta := e.delta + 1 } codes

/-- The ASCII characters come first; then come numbers in a mixed base that say which other
character stands where. -/
def encode (text : List Char) : List Char :=
  let basic := text.filter (·.toNat < 0x80)
  let codes := ((text.map Char.toNat).filter (0x80 ≤ ·)).mergeSort.eraseDups
  let front := if basic.isEmpty then [] else basic ++ ['-']
  front ++ (encodeCodes text basic.length 0x80 ⟨[], 0, 72, basic.length⟩ codes).output

structure Decoder where
  text : List Char
  code : Nat
  start : Nat
  index : Nat
  weight : Nat
  place : Nat
  bias : Nat

def Decoder.read? (d : Decoder) (c : Char) : Option Decoder := do
  let digit ← digitValue? c
  let index := d.index + digit * d.weight
  let t := threshold d.bias d.place
  if digit < t then
    let count := d.text.length + 1
    let code := d.code + index / count
    let position := index % count
    if code.isValidChar then
      some ⟨d.text.insertIdx position (.ofNat code), code, position + 1, position + 1, 1, 36,
        adapt (d.start = 0) (index - d.start) count⟩
    else none
  else some { d with index := index, weight := d.weight * (36 - t), place := d.place + 36 }

def decode? (cs : List Char) : Option (List Char) := do
  let (last, front) := cs.reverse.span (· ≠ '-')
  let d ← last.reverse.foldlM Decoder.read? ⟨(front.drop 1).reverse, 0x80, 0, 0, 1, 36, 72⟩
  if d.place = 36 then some d.text else none

end TicketGate.Url.Punycode
