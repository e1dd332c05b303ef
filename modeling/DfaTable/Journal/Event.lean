import DfaTable.Value

/-!
# DfaTable.Journal.Event

What a run reports: an event of some severity with named fields, from a named source.
-/

namespace DfaTable.Journal

inductive Severity where
  | debug
  | info
  | warning
  | error
deriving DecidableEq, Repr

namespace Severity

def rank : Severity → Nat
  | .debug => 0
  | .info => 1
  | .warning => 2
  | .error => 3

def name : Severity → Text
  | .debug => "debug".toList
  | .info => "info".toList
  | .warning => "warning".toList
  | .error => "error".toList

end Severity

structure Event where
  severity : Severity
  /-- The part of the program that reports; it may be left empty. -/
  source : Text
  name : Text
  fields : List (Text × Value)

/-- A field that holds a text. -/
def textField (name : String) (t : Text) : Text × Value := (name.toList, .text t)

/-- A field that holds a number. -/
def countField (name : String) (n : Int) : Text × Value := (name.toList, .int n)

end DfaTable.Journal
