import TicketGate.Config.Dotenv

namespace TicketGate

namespace Dotenv

section Value

variable (lookup lookup' : String → String) {v w : Value}

end Value

/-- The variable that a line assigns, if it assigns one; `none` where the line makes no sense. -/
def subject? (line : List Char) : Option (Option String) :=
  (line? (fun _ => "") line).map (Option.map Prod.fst)

variable {lookup : String → String} {line : List Char}

/-- A line of a file; `none` where the text ends inside of quotes. -/
abbrev Line := Option (List Char)

def lines (file : String) : List Line :=
  logicalLines .complete [] (physicalLines (withoutMark file.toList))

end Dotenv

namespace Environment

open Dotenv

variable {e e' : Environment} {ls : List Line} {l : List Char} {name value : String}

def worth (e : Environment) (name : String) : String := (e.get? name).getD ""

def loadLines : Environment → List Line → Environment
  | e, some l :: ls =>
    match line? e.worth l with
    | none => e
    | some none => loadLines e ls
    | some (some a) => loadLines (e.setIfUnset a.1 a.2) ls
  | e, _ => e

end Environment

end TicketGate
