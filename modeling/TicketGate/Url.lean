import TicketGate.Url.Ipv6

namespace TicketGate

namespace Url

inductive Host
  | domain (name : String)
  | ipv4 (address : Nat)
  | ipv6 (groups : List Nat)
deriving DecidableEq

def Host.text : Host → String
  | domain name => name
  | ipv4 address => String.ofList (Ipv4.text address)
  | ipv6 groups => String.ofList ('[' :: Ipv6.text groups ++ [']'])

structure Authority where
  username : String
  password : String
  host : Host
  port : Option Nat
deriving DecidableEq

def Authority.text (a : Authority) : String :=
  let password := if a.password.isEmpty then "" else ":" ++ a.password
  let userinfo := a.username ++ password
  (if userinfo.isEmpty then "" else userinfo ++ "@") ++ a.host.text ++
    (match a.port with
      | some p => ":" ++ toString p
      | none => "")

end Url

/-- The components are in normal form: encoded, with the default port left out. -/
structure Url where
  scheme : String
  authority : Option Url.Authority
  path : String
  query : Option String
  fragment : Option String
deriving DecidableEq

namespace Url

def marked (mark : String) : Option String → String
  | some s => mark ++ s
  | none => ""

/-- The text of a URL. A path with an empty first segment cannot follow the scheme directly, where
it would read as an authority. -/
def text (u : Url) : String :=
  let authority := match u.authority with
    | some a => "//" ++ a.text
    | none => if u.path.startsWith "//" then "/." else ""
  u.scheme ++ ":" ++ authority ++ u.path ++ marked "?" u.query ++ marked "#" u.fragment

inductive Flaw
  | noScheme
  | emptyHost
  | badDomain
  | badHostCharacter
  | badIpv4
  | badIpv6
  | badPort
deriving DecidableEq

def Flaw.message : Flaw → String
  | noScheme => "relative URL without a base"
  | emptyHost => "empty host"
  | badDomain => "invalid international domain name"
  | badHostCharacter => "invalid domain character"
  | badIpv4 => "invalid IPv4 address"
  | badIpv6 => "invalid IPv6 address"
  | badPort => "invalid port number"

end Url

end TicketGate
