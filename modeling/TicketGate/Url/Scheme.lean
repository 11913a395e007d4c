namespace TicketGate.Url

inductive SchemeKind
  | file
  | special
  | plain
deriving DecidableEq

def SchemeKind.ofScheme : String → SchemeKind
  | "file" => .file
  | "http" | "https" | "ws" | "wss" | "ftp" => .special
  | _ => .plain

def SchemeKind.isSpecial : SchemeKind → Bool
  | plain => false
  | _ => true

def defaultPort? : String → Option Nat
  | "http" | "ws" => some 80
  | "https" | "wss" => some 443
  | "ftp" => some 21
  | _ => none

def isSchemeChar (c : Char) : Bool := c.isAlphanum || c = '+' || c = '-' || c = '.'

def scheme? (cs : List Char) : Option (String × List Char) :=
  match cs.span isSchemeChar with
  | (c :: s, ':' :: rest) =>
    if c.isAlpha then some (String.ofList ((c :: s).map Char.toLower), rest) else none
  | _ => none

def endsAuthority (k : SchemeKind) (c : Char) : Bool :=
  c = '/' || c = '?' || c = '#' || (c = '\\' && k.isSpecial)

end TicketGate.Url
