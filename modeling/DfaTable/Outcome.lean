import DfaTable.Value

/-!
# DfaTable.Outcome

Outcomes that are either a value or an error: how many of them are collected into one, how an
outcome is shown, and what happens when the wrong side is taken out. Main statements:
`values_append` and `errors_append`, nothing is lost or reordered.
-/

namespace DfaTable.Outcome

variable {ε α : Type}

/-- The values of the outcomes that succeeded, in order. -/
def values (outcomes : List (Except ε α)) : List α :=
  outcomes.filterMap fun
    | .ok a => some a
    | .error _ => none

/-- The errors of the outcomes that failed, in order. -/
def errors (outcomes : List (Except ε α)) : List ε :=
  outcomes.filterMap fun
    | .ok _ => none
    | .error e => some e

theorem values_append (xs ys : List (Except ε α)) :
    values (xs ++ ys) = values xs ++ values ys := List.filterMap_append

theorem errors_append (xs ys : List (Except ε α)) :
    errors (xs ++ ys) = errors xs ++ errors ys := List.filterMap_append

/-- All values, if every outcome succeeded, and otherwise all errors. -/
def collect (outcomes : List (Except ε α)) : Except (List ε) (List α) :=
  match errors outcomes with
  | [] => .ok (values outcomes)
  | es => .error es

/-- How an outcome is shown; `none` if it holds an integer that is too long to be written. -/
def shown? : Except Value Value → Option Text
  | .ok v => v.quoted?.map fun t => "Ok(".toList ++ t ++ [')']
  | .error e => e.quoted?.map fun t => "Err(".toList ++ t ++ [')']

/-- The side of an outcome that was taken out although it was not there. -/
inductive WrongSide where
  | error (found : Value)
  | value (found : Value)

def WrongSide.message? : WrongSide → Option Text
  | .error v => v.plain?.map ("Called unwrap_err on Ok value: ".toList ++ ·)
  | .value v => v.plain?.map ("Called unwrap on Err value: ".toList ++ ·)

def takeValue : Except Value Value → Except WrongSide Value
  | .ok v => .ok v
  | .error e => .error (.value e)

def takeError : Except Value Value → Except WrongSide Value
  | .ok v => .error (.error v)
  | .error e => .ok e

end DfaTable.Outcome
