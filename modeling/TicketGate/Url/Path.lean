import TicketGate.Url.Percent
import TicketGate.Url.Scheme

namespace TicketGate.Url.Path

def isDrive : List Char → Bool
  | [c, d] => c.isAlpha && (d = ':' || d = '|')
  | _ => false

def isSingleDot (seg : List Char) : Bool :=
  let s := String.ofList (seg.map Char.toLower)
  s = "." || s = "%2e"

def isDoubleDot (seg : List Char) : Bool :=
  let s := String.ofList (seg.map Char.toLower)
  s = ".." || s = ".%2e" || s = "%2e." || s = "%2e%2e"

/-- The segments before the current one, last first, without the last of them. A drive stays. -/
def pop : List (List Char) → List (List Char)
  | [] => []
  | seg :: segs => if isDrive seg then seg :: segs else segs

def driveSegment (k : SchemeKind) (done : List (List Char)) (seg : List Char) :
    Option (List Char) :=
  if k = .file ∧ done = [] ∧ isDrive seg then some (seg.take 1 ++ [':']) else none

/-- The segments of a path, last first, and whether the path of a file begins with a drive. -/
structure Walk where
  done : List (List Char)
  drive : Bool

/-- One segment. Dots at the end of a path leave an empty segment. -/
def Walk.step (k : SchemeKind) (final : Bool) (w : Walk) (seg : List Char) : Walk :=
  let atEnd := fun (segs : List (List Char)) => if final then [] :: segs else segs
  if isDoubleDot seg then ⟨atEnd (pop w.done), w.drive⟩
  else if isSingleDot seg then ⟨atEnd w.done, w.drive⟩
  else
    match driveSegment k w.done seg with
    | some seg => ⟨seg :: w.done, true⟩
    | none => ⟨seg :: w.done, w.drive⟩

def walk (k : SchemeKind) (w : Walk) : List (List Char) → Walk
  | [] => w
  | [seg] => w.step k true seg
  | seg :: segs => walk k (w.step k false seg) segs

def segments (k : SchemeKind) (cs : List Char) : List (List Char) :=
  cs.splitOnP fun c => c = '/' || (c = '\\' && k.isSpecial)

/-- The text of a path that begins after its first slash. The path of a file loses its empty
segments at the front. The flag says that a file is named by its drive. -/
def parse (k : SchemeKind) (cs : List Char) : List Char × Bool :=
  let w := walk k ⟨[], false⟩ (segments k (percentEncode inPathSet cs))
  let segs := w.done.reverse
  let segs := if k = .file then segs.dropWhile List.isEmpty else segs
  ('/' :: ['/'].intercalate segs, w.drive)

end TicketGate.Url.Path
