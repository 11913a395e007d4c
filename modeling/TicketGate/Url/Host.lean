import TicketGate.Url
import TicketGate.Url.Domain

namespace TicketGate.Url.Host

def bracketed (cs : List Char) : Except Flaw Host :=
  if cs.getLast? = some ']' then
    match Ipv6.parse? (cs.drop 1).dropLast with
    | some groups => .ok (.ipv6 groups)
    | none => .error .badIpv6
  else .error .badIpv6

def parse (cs : List Char) : Except Flaw Host :=
  if cs.head? = some '[' then bracketed cs
  else
    match Domain.toAscii? (percentDecode (cs.flatMap utf8)) with
    | none => .error .badDomain
    | some name =>
      if name.isEmpty then .error .emptyHost
      else if Ipv4.endsInNumber name then
        match Ipv4.parse? name with
        | some address => .ok (.ipv4 address)
        | none => .error .badIpv4
      else .ok (.domain (String.ofList name))

def isForbidden (c : Char) : Bool :=
  ['\x00', '\t', '\n', '\r', ' ', '#', '/', ':', '<', '>', '?', '@', '[', '\\', ']', '^',
    '|'].contains c

/-- The host of a plain scheme; it may be empty. -/
def parsePlain (cs : List Char) : Except Flaw Host :=
  if cs.head? = some '[' then bracketed cs
  else if cs.any isForbidden then .error .badHostCharacter
  else .ok (.domain (String.ofList (percentEncode isControl cs)))

end TicketGate.Url.Host
