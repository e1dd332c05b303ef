import DfaTable.Fault

/-!
# DfaTable.Attempt

What may go wrong in two ways: with an error that is an answer, or with a fault that breaks the run
off.
-/

namespace DfaTable

/-- An outcome with an error of its own, unless a fault breaks the run off. -/
abbrev Attempt (ε α : Type) := ExceptT ε (Except Fault) α

namespace Attempt

/-- Breaks the run off. -/
def breakOff {ε α : Type} (f : Fault) : Attempt ε α :=
  (Except.error f : Except Fault (Except ε α))

end Attempt
end DfaTable
