import TicketGate.Json
import TicketGate.Decimal.Shortest

namespace TicketGate.Json

def hexDigit (n : Nat) : Char := Nat.digitChar n

/-- One character of a string. Control characters without a letter of their own are written by
number; everything from the space on stands for itself, but for the quote and the backslash. -/
def escapeChar (c : Char) : List Char :=
  if c = '\x22' then ['\\', '\x22']
  else if c = '\\' then ['\\', '\\']
  else if c = '\x08' then ['\\', 'b']
  else if c = '\x0c' then ['\\', 'f']
  else if c = '\n' then ['\\', 'n']
  else if c = '\r' then ['\\', 'r']
  else if c = '\t' then ['\\', 't']
  else if c.toNat < 0x20 then
    ['\\', 'u', '0', '0', hexDigit (c.toNat / 16), hexDigit (c.toNat % 16)]
  else [c]

def quoted (s : String) : List Char := '\x22' :: s.toList.flatMap escapeChar ++ ['\x22']

mutual

def chars : Json → List Char
  | null => ['n', 'u', 'l', 'l']
  | bool true => ['t', 'r', 'u', 'e']
  | bool false => ['f', 'a', 'l', 's', 'e']
  | integer n => (toString n).toList
  | double d => d.text.toList
  | string s => quoted s
  | array items => '[' :: itemChars items
  | object fields => '\x7b' :: fieldChars fields

def itemChars : List Json → List Char
  | [] => [']']
  | [v] => chars v ++ [']']
  | v :: vs => chars v ++ ',' :: itemChars vs

def fieldChars : List (String × Json) → List Char
  | [] => ['\x7d']
  | [(k, v)] => quoted k ++ ':' :: chars v ++ ['\x7d']
  | (k, v) :: fs => quoted k ++ ':' :: chars v ++ ',' :: fieldChars fs

end

def compact (v : Json) : String := String.ofList v.chars

end TicketGate.Json
