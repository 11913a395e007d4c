import TicketGate.Text.Composition
import TicketGate.Text.Direction
import TicketGate.Text.Joining
import TicketGate.Text.Mark
import TicketGate.Url.Domain.Mapping
import TicketGate.Url.Percent
import TicketGate.Url.Punycode

namespace TicketGate.Url.Domain

open TicketGate.Text

def isForbidden (c : Char) : Bool :=
  c.toNat ≤ 0x20 || c.toNat = 0x7F ||
    ['#', '/', ':', '<', '>', '?', '@', '[', '\\', ']', '^', '|', '%'].contains c

def isAscii (cs : List Char) : Bool := cs.all (·.toNat < 0x80)

def encodedPart? : List Char → Option (List Char)
  | 'x' :: 'n' :: '-' :: '-' :: cs => some cs
  | _ => none

/-- Labels far beyond any that can be looked up are not encoded or decoded. -/
def longestText : Nat := 1000

def longestEncoded : Nat := 2000

def joiner : Char := '\u200D'

def nonJoiner : Char := '\u200C'

/-- Whether a joiner may stand after `before`, which is in reverse, and before `after`. -/
def joinerFits (c : Char) (before after : List Char) : Bool :=
  before.head?.any (combiningClass · == virama) ||
    (c == nonJoiner && (before.dropWhile isTransparent).head?.any joinsNext &&
      (after.dropWhile isTransparent).head?.any joinsPrevious)

def joinersFit (before : List Char) : List Char → Bool
  | [] => true
  | c :: cs =>
    (!(c == joiner || c == nonJoiner) || joinerFits c before cs) && joinersFit (c :: before) cs

def isWritable (label : List Char) : Bool := !label.head?.any isMark && joinersFit [] label

/-- The text of an encoded label. It must be what its own spelling would be. -/
def decodeLabel? (encoded : List Char) : Option (List Char) := do
  if encoded.isEmpty ∨ encoded.getLast? = some '-' ∨ longestEncoded < encoded.length then none
  let label ← Punycode.decode? encoded
  let fixed := label.all fun c => mapped? c == some [c]
  if fixed ∧ composed label = label ∧ (encodedPart? label).isNone then some label else none

def labelText? (label : List Char) : Option (List Char) := do
  let text ← match encodedPart? label with
    | some encoded => if isAscii label then decodeLabel? encoded else none
    | none => some label
  if isAscii text || isWritable text then some text else none

def isRightToLeft (c : Char) : Bool :=
  [.rightToLeft, .arabicLetter, .arabicNumber].contains (direction c)

def lastDirection? (ds : List Direction) : Option Direction :=
  ds.reverse.find? (· ≠ .nonspacingMark)

def neutral : List Direction :=
  [.europeanNumber, .europeanSeparator, .commonSeparator, .europeanTerminator, .otherNeutral,
    .boundaryNeutral, .nonspacingMark]

def hasOneDirection (label : List Char) : Bool :=
  let ds := label.map direction
  match ds.head?, lastDirection? ds with
  | none, _ => true
  | some .leftToRight, some last =>
    ds.all ((.leftToRight :: neutral).contains ·) && [.leftToRight, .europeanNumber].contains last
  | some .rightToLeft, some last | some .arabicLetter, some last =>
    ds.all ((.rightToLeft :: .arabicLetter :: .arabicNumber :: neutral).contains ·) &&
      [.rightToLeft, .arabicLetter, .europeanNumber, .arabicNumber].contains last &&
      !(ds.contains .europeanNumber && ds.contains .arabicNumber)
  | _, _ => false

def encodeLabel? (label : List Char) : Option (List Char) :=
  if isAscii label then some label
  else if longestText < label.length then none
  else some ('x' :: 'n' :: '-' :: '-' :: Punycode.encode label)

def encodeLabels? (labels : List (List Char)) : Option (List (List Char)) := do
  let texts ← labels.mapM labelText?
  if texts.any (·.any isRightToLeft) && !texts.all hasOneDirection then none
  else labels.mapM encodeLabel?

def isPlain (cs : List Char) : Bool :=
  isAscii cs && (cs.splitOn '.').all fun l => (encodedPart? (l.map Char.toLower)).isNone

/-- The ASCII form of a domain given by its bytes. -/
def toAscii? (bytes : List UInt8) : Option (List Char) := do
  let cs := (← utf8Text? bytes).toList
  let name ←
    if isPlain cs then some (cs.map Char.toLower)
    else
      let name := composed (← cs.mapM mapped?).flatten
      (encodeLabels? (name.splitOn '.')).map (['.'].intercalate ·)
  if name.any isForbidden then none else some name

end TicketGate.Url.Domain
