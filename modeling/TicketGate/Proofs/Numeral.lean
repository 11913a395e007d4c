import Mathlib.Data.List.DropRight
import TicketGate.Config.Environment

namespace TicketGate

namespace Text

variable {front cs back : List Char} {c : Char}

end Text

namespace Timeout

variable {cs : List Char} {s : String} {m n : Nat}

/-- An optional plus sign and decimal digits, at least one, that are worth `n`. -/
def Numeral (cs : List Char) (n : Nat) : Prop :=
  ∃ sign ds, cs = sign ++ ds ∧ (sign = [] ∨ sign = ['+']) ∧ ds ≠ [] ∧
    (∀ c ∈ ds, c.isDigit = true) ∧ Nat.ofDigitChars 10 ds 0 = n

/-- The text is a numeral between blanks. -/
def Says (s : String) (n : Nat) : Prop :=
  ∃ front cs back, s.toList = front ++ cs ++ back ∧ (∀ c ∈ front, Text.isBlank c = true) ∧
    (∀ c ∈ back, Text.isBlank c = true) ∧ Numeral cs n

theorem le_ofDigitChars (m : Nat) (cs : List Char) : m ≤ Nat.ofDigitChars 10 cs m := by
  induction cs generalizing m with
  | nil => exact Nat.le_refl m
  | cons c cs ih =>
    rw [Nat.ofDigitChars_cons]
    have hrest := ih (10 * m + (c.toNat - '0'.toNat))
    omega

end Timeout

namespace Config

variable {e : Environment} {name : String} {usual n : Nat}

/-- What a variable sets a timeout to, where `usual` is for an unset one. -/
def Sets (value : Option String) (usual n : Nat) : Prop :=
  match value with
  | none => n = usual
  | some s => Timeout.Says s n ∧ n ≤ maxWord

end Config

end TicketGate
