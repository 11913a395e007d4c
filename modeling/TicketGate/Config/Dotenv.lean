import TicketGate.Config.Environment
import TicketGate.Text.Alphanumeric

namespace TicketGate.Dotenv

inductive Quote
  | complete
  | blank
  | escape
  | weak
  | weakEscape
  | strong
  | strongEscape
deriving DecidableEq

def Quote.opened (otherwise : Quote) (c : Char) : Quote :=
  if c = '\\' then .escape else if c = '\x22' then .weak else if c = '\x27' then .strong
  else otherwise

def Quote.next (q : Quote) (c : Char) : Quote :=
  match q with
  | complete =>
    if Text.isBlank c ∧ c ≠ '\n' ∧ c ≠ '\r' then blank else opened complete c
  | blank => opened complete c
  | escape => complete
  | weak => if c = '\\' then weakEscape else if c = '\x22' then complete else weak
  | weakEscape => weak
  | strong => if c = '\\' then strongEscape else if c = '\x27' then complete else strong
  | strongEscape => strong

/-- Follows the quotes of a line. A `#` after one blank starts a comment: then the result is what
stands before it. -/
def scan (q : Quote) : List Char → Quote × Option (List Char)
  | [] => (q, none)
  | c :: cs =>
    if q = .blank ∧ c = '#' then (.complete, some [])
    else
      let (q, cut) := scan (q.next c) cs
      (q, cut.map (c :: ·))

def physicalLines : List Char → List (List Char)
  | [] => []
  | c :: cs =>
    if c = '\n' then [c] :: physicalLines cs
    else
      match physicalLines cs with
      | [] => [[c]]
      | l :: ls => (c :: l) :: ls

def stripLineEnd (cs : List Char) : List Char :=
  match cs.reverse with
  | '\n' :: '\r' :: r => r.reverse
  | '\n' :: r => r.reverse
  | _ => cs

/-- Joins lines for as long as a quote stays open; `none` where the text ends inside of one. -/
def logicalLines (q : Quote) (held : List Char) : List (List Char) → List (Option (List Char))
  | [] => if q = .complete then [] else [none]
  | l :: ls =>
    let all := held ++ l
    if (all.dropWhile Text.isBlank).head? = some '#' then some [] :: logicalLines .complete [] ls
    else
      match scan q l with
      | (_, some kept) => some (held ++ kept) :: logicalLines .complete [] ls
      | (.complete, none) => some (stripLineEnd all) :: logicalLines .complete [] ls
      | (q, none) => logicalLines q all ls

inductive Mode
  | bare
  | weak
  | strong
  | finished
  | comment
deriving DecidableEq

inductive Pending
  | nothing
  | escape
  | name (cs : List Char)
  | braced (cs : List Char)

structure Value where
  mode : Mode
  pending : Pending
  output : List Char

variable (lookup : String → String)

def Value.push (v : Value) (c : Char) : Value := ⟨v.mode, .nothing, v.output ++ [c]⟩

def Value.enter (v : Value) (m : Mode) : Value := ⟨m, .nothing, v.output⟩

def Value.wait (v : Value) (p : Pending) : Value := ⟨v.mode, p, v.output⟩

def Value.substitute (v : Value) (name : List Char) : Value :=
  ⟨v.mode, .nothing, v.output ++ (lookup (String.ofList name)).toList⟩

def escapedChar? (c : Char) : Option Char :=
  if c = 'n' then some '\n'
  else if c = '\\' ∨ c = '\x27' ∨ c = '\x22' ∨ c = '$' ∨ c = ' ' then some c
  else none

def Value.read (v : Value) (c : Char) : Option Value :=
  match v.mode with
  | .finished =>
    if c = ' ' ∨ c = '\t' then some v else if c = '#' then some (v.enter .comment) else none
  | .comment => some v
  | .strong => some (if c = '\x27' then v.enter .bare else v.push c)
  | .weak =>
    some (if c = '$' then v.wait (.name []) else if c = '\x22' then v.enter .bare
      else if c = '\\' then v.wait .escape else v.push c)
  | .bare =>
    some (if c = '$' then v.wait (.name []) else if c = '\x27' then v.enter .strong
      else if c = '\x22' then v.enter .weak else if c = '\\' then v.wait .escape
      else if c = ' ' ∨ c = '\t' then v.enter .finished else v.push c)

/-- A character of a value. A name ends at the first character that is no letter or digit, which
stands for itself. -/
def Value.step (v : Value) (c : Char) : Option Value :=
  match v.pending with
  | .nothing => v.read c
  | .escape => (escapedChar? c).map v.push
  | .name cs =>
    some (if Text.isAlphanumeric c then v.wait (.name (cs ++ [c]))
      else if c = '\x7b' ∧ cs = [] then v.wait (.braced [])
      else if c = '$' then (v.substitute lookup cs).wait (.name [])
      else (v.substitute lookup cs).push c)
  | .braced cs =>
    some (if c = '\x7d' then v.substitute lookup cs else v.wait (.braced (cs ++ [c])))

def Value.close (v : Value) : Option (List Char) :=
  match v.mode, v.pending with
  | .strong, _ | .weak, _ | _, .braced _ => none
  | _, .name cs => some (v.substitute lookup cs).output
  | _, _ => some v.output

def value? (cs : List Char) : Option (List Char) := do
  (← cs.foldlM (Value.step lookup) ⟨.bare, .nothing, []⟩).close lookup

def isNameStart (c : Char) : Bool := c.isAlpha || c = '_'

def isNameChar (c : Char) : Bool := c.isAlphanum || c = '_' || c = '.'

def name? (cs : List Char) : Option (List Char × List Char) :=
  match cs with
  | [] => none
  | c :: _ =>
    if isNameStart c then
      let (name, rest) := cs.span isNameChar
      some (name, rest.dropWhile Text.isBlank)
    else none

def afterEquals? : List Char → Option (List Char)
  | '=' :: cs => some cs
  | _ => none

def target? (cs : List Char) : Option (String × List Char) := do
  let (name, rest) ← name? cs
  match afterEquals? rest with
  | some rest => return (String.ofList name, rest)
  | none =>
    if String.ofList name = "export" then
      let (name, rest) ← name? rest
      return (String.ofList name, ← afterEquals? rest)
    else none

abbrev Assignment := String × String

def isSkipped (cs : List Char) : Bool := cs.isEmpty || cs.head? = some '#'

def line? (line : List Char) : Option (Option Assignment) :=
  let cs := Text.trim line
  if isSkipped cs then some none
  else do
    let (name, rest) ← target? cs
    let rest := rest.dropWhile Text.isBlank
    if isSkipped rest then return some (name, "")
    else return some (name, String.ofList (← value? lookup rest))

/-- A variable mentioned in a value: from the environment, else from an earlier line, else empty. -/
def mention (e : Environment) (earlier : List Assignment) (name : String) : String :=
  (e.get? name).getD ((earlier.lookup name).getD "")

/-- The assignments up to the first line that makes no sense; each line sees those before it. -/
def evaluate (e : Environment) (earlier : List Assignment) :
    List (Option (List Char)) → List Assignment
  | some l :: ls =>
    match line? (mention e earlier) l with
    | none => []
    | some none => evaluate e earlier ls
    | some (some a) => a :: evaluate (e.setIfUnset a.1 a.2) (a :: earlier) ls
  | _ => []

def withoutMark : List Char → List Char
  | '\uFEFF' :: cs => cs
  | cs => cs

def assignments (e : Environment) (file : String) : List Assignment :=
  evaluate e [] (logicalLines .complete [] (physicalLines (withoutMark file.toList)))

end TicketGate.Dotenv

namespace TicketGate

/-- Adds the assignments of a file; a variable that is set stays. -/
def Environment.load (e : Environment) (file : String) : Environment :=
  (Dotenv.assignments e file).foldl (fun e a => e.setIfUnset a.1 a.2) e

/-- The files of assignments in the current directory and in the two above it. A file is text: one
that is not UTF-8 is outside of what is described here. -/
structure Files where
  current : Option String
  parent : Option String
  grandparent : Option String

def Files.nearest (f : Files) : Option String :=
  f.current.or (f.parent.or f.grandparent)

/-- Adds the nearest file, then that of the parent directory. -/
def Environment.loadFiles (e : Environment) (f : Files) : Environment :=
  let load := fun (e : Environment) (file : Option String) =>
    match file with
    | some text => e.load text
    | none => e
  load (load e f.nearest) f.parent

def Config.load (e : Environment) (f : Files) : Except Config.Flaw Config :=
  ofEnvironment (e.loadFiles f)

end TicketGate
