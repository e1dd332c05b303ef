/-!
# DfaTable.ExitCode

The exit codes of a run.
-/

namespace DfaTable

inductive ExitCode where
  | success
  /-- A fault broke the run off. -/
  | fault
  /-- The settings or the arguments cannot be used. -/
  | settings
  | input
  | output
deriving DecidableEq, Repr

def ExitCode.number : ExitCode → Int
  | .success => 0
  | .fault => 1
  | .settings => 2
  | .input => 20
  | .output => 21

end DfaTable
