import TicketGate.Text.Blank
import TicketGate.Word

namespace TicketGate.Timeout

inductive Flaw
  | empty
  | badDigit
  | tooLarge
deriving DecidableEq

def Flaw.message : Flaw → String
  | empty => "cannot parse integer from empty string"
  | badDigit => "invalid digit found in string"
  | tooLarge => "number too large to fit in target type"

/-- The first character that is no digit, or with which the number does not fit, decides what is
wrong. -/
def digits (n : Nat) : List Char → Except Flaw Nat
  | [] => .ok n
  | c :: cs =>
    if c.isDigit then
      let next := n * 10 + (c.toNat - '0'.toNat)
      if maxWord < next then .error .tooLarge else digits next cs
    else .error .badDigit

def parse (s : String) : Except Flaw Nat :=
  match Text.trim s.toList with
  | [] => .error .empty
  | '+' :: c :: cs => digits 0 (c :: cs)
  | cs => digits 0 cs

end TicketGate.Timeout
