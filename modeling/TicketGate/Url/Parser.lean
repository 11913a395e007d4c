import TicketGate.Url.Host
import TicketGate.Url.Path

namespace TicketGate.Url

def isPadding (c : Char) : Bool := c.toNat ≤ 0x20

def significant (cs : List Char) : List Char :=
  ((cs.dropWhile isPadding).reverse.dropWhile isPadding).reverse.filter
    fun c => !(c = '\t' || c = '\n' || c = '\r')

structure Pieces where
  body : List Char
  query : Option (List Char)
  fragment : Option (List Char)

def pieces (cs : List Char) : Pieces :=
  let (front, hash) := cs.span (· ≠ '#')
  let (body, mark) := front.span (· ≠ '?')
  let after := fun (cs : List Char) => if cs.isEmpty then none else some (cs.drop 1)
  ⟨body, after mark, after hash⟩

def Pieces.finish (p : Pieces) (k : SchemeKind) (scheme : String) (authority : Option Authority)
    (path : List Char) : Url :=
  let querySet := if k.isSpecial then inSpecialQuerySet else inQuerySet
  ⟨scheme, authority, String.ofList path,
    p.query.map fun q => String.ofList (percentEncode querySet q),
    p.fragment.map fun f => String.ofList (percentEncode inFragmentSet f)⟩

def splitLastAt (cs : List Char) : Option (List Char × List Char) :=
  match cs.reverse.span (· ≠ '@') with
  | (after, _ :: before) => some (before.reverse, after.reverse)
  | (_, []) => none

def userinfo (cs : List Char) : String × String :=
  let (user, rest) := cs.span (· ≠ ':')
  (String.ofList (percentEncode inUserinfoSet user),
    String.ofList (percentEncode inUserinfoSet (rest.drop 1)))

/-- Splits a host from the port after it. A colon inside brackets belongs to the host. -/
def splitPort (bracket : Bool) : List Char → List Char × Option (List Char)
  | [] => ([], none)
  | c :: cs =>
    if c = ':' ∧ ¬ bracket then ([], some cs)
    else
      let bracket := if c = '[' then true else if c = ']' then false else bracket
      let (host, port) := splitPort bracket cs
      (c :: host, port)

def parsePort (scheme : String) (cs : List Char) : Except Flaw (Option Nat) :=
  if cs.all Char.isDigit then
    let n := cs.foldl (fun n c => n * 10 + (c.toNat - '0'.toNat)) 0
    if 65535 < n then .error .badPort
    else .ok (if cs.isEmpty ∨ defaultPort? scheme = some n then none else some n)
  else .error .badPort

/-- A host and the port after it. Only the host of a plain scheme without user and port may be
empty. -/
def parseHostPort (k : SchemeKind) (scheme user password : String) (name : List Char)
    (portText : Option (List Char)) : Except Flaw Authority := do
  if k = .special ∧ name = [] then .error .emptyHost
  let host ← if k = .special then Host.parse name else Host.parsePlain name
  if host = .domain "" ∧ (portText.isSome ∨ user ≠ "" ∨ password ≠ "") then .error .emptyHost
  let number ← match portText with
    | none => .ok none
    | some cs => parsePort scheme cs
  return ⟨user, password, host, number⟩

/-- The part between the slashes and the path, and what a backslash after the port leaves for the
path. `more` says whether anything follows. -/
def parseAuthority (k : SchemeKind) (scheme : String) (cs : List Char) (more : Bool) :
    Except Flaw (Authority × List Char) := do
  let (user, password, rest) ← match splitLastAt cs with
    | none => .ok ("", "", cs)
    | some ([], []) => if more then .error .emptyHost else .ok ("", "", [])
    | some ([], rest) => .ok ("", "", rest)
    | some (info, rest) => .ok ((userinfo info).1, (userinfo info).2, rest)
  let (name, portText) := splitPort false rest
  let digits := portText.map (·.takeWhile (· ≠ '\\'))
  let left := (portText.getD []).dropWhile (· ≠ '\\')
  let a ← parseHostPort k scheme user password name digits
  return (a, left)

def parseHierarchical (k : SchemeKind) (scheme : String) (p : Pieces) (cs : List Char) :
    Except Flaw Url := do
  let (front, rest) := cs.span fun c => !endsAuthority k c
  let (a, left) ← parseAuthority k scheme front
    (!rest.isEmpty || p.query.isSome || p.fragment.isSome)
  let path := match k, left ++ rest with
    | .plain, [] => []
    | .plain, '/' :: cs => (Path.parse k cs).1
    | .plain, cs => (Path.parse k cs).1
    | _, cs => (Path.parse k (cs.drop 1)).1
  return p.finish k scheme (some a) path

def isSlash (c : Char) : Bool := c = '/' || c = '\\'

/-- The URL of a file. The local host is none, and neither is a host before a drive. -/
def fileUrl (p : Pieces) (host : Host) (path : List Char × Bool) : Url :=
  let host := if path.2 then .domain "" else host
  p.finish .file "file" (some ⟨"", "", host, none⟩) path.1

def parseFileHost (p : Pieces) (cs : List Char) : Except Flaw Url := do
  let (name, rest) := cs.span fun c => !isSlash c
  if name = [] ∨ Path.isDrive name then return fileUrl p (.domain "") (Path.parse .file cs)
  let host ← Host.parse name
  if host = .domain "localhost" then return fileUrl p (.domain "") (Path.parse .file rest)
  return fileUrl p host (Path.parse .file (rest.drop 1))

def parseFile (p : Pieces) : Except Flaw Url :=
  match p.body with
  | c :: d :: cs =>
    if isSlash c then
      if isSlash d then parseFileHost p cs
      else .ok (fileUrl p (.domain "") (Path.parse .file (d :: cs)))
    else .ok (fileUrl p (.domain "") (Path.parse .file (c :: d :: cs)))
  | [c] => .ok (fileUrl p (.domain "") (Path.parse .file (if isSlash c then [] else [c])))
  | [] => .ok (fileUrl p (.domain "") (Path.parse .file []))

/-- A URL with a plain scheme. Without a slash its path is a mere string. -/
def parsePlain (scheme : String) (p : Pieces) : Except Flaw Url :=
  match p.body with
  | '/' :: '/' :: cs => parseHierarchical .plain scheme p cs
  | '/' :: cs => .ok (p.finish .plain scheme none (Path.parse .plain cs).1)
  | cs => .ok (p.finish .plain scheme none (percentEncode isControl cs))

/-- Blanks and controls around the text do not count, tabs and line ends nowhere. -/
def parse (s : String) : Except Flaw Url :=
  match scheme? (significant s.toList) with
  | none => .error .noScheme
  | some (scheme, rest) =>
    let p := pieces rest
    match SchemeKind.ofScheme scheme with
    | .file => parseFile p
    | .special => parseHierarchical .special scheme p (p.body.dropWhile isSlash)
    | .plain => parsePlain scheme p

end TicketGate.Url
