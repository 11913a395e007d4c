import TicketGate.Proofs.Assignments

namespace TicketGate

open Dotenv

namespace Environment

variable {e e' : Environment} {ls : List Line} {l : List Char} {name value : String} {f : Files}

/-- The first of the lines that assigns the variable gives it the value, in the environment that the
lines before have left. All of those make sense. -/
def Gives (e : Environment) (ls : List Line) (name value : String) : Prop :=
  ∃ before line after, ls = before ++ some line :: after ∧
    (∀ k ∈ before, ∃ line', k = some line' ∧ subject? line' ≠ none ∧
      subject? line' ≠ some (some name)) ∧
    line? (e.loadLines before).worth line = some (some (name, value))

/-- What a variable is worth that is read from the environment, else from the nearest file, else from
the file of the parent directory. -/
inductive Settled (e : Environment) (f : Files) (name : String) : String → Prop
  | set {value : String} (h : e.get? name = some value) : Settled e f name value
  | nearest {value near : String} (h : e.get? name = none) (hnear : f.nearest = some near)
      (hgives : Gives e (lines near) name value) : Settled e f name value
  | parent {value near file : String} (h : e.get? name = none) (hnear : f.nearest = some near)
      (hnot : ∀ v, ¬ Gives e (lines near) name v) (hfile : f.parent = some file)
      (hgives : Gives (e.load near) (lines file) name value) : Settled e f name value

end Environment

namespace Config

open Environment

variable {e e' : Environment}

end Config

end TicketGate
