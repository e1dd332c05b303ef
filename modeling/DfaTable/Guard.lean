import DfaTable.ExitCode
import DfaTable.Files.Access

/-!
# DfaTable.Guard

What is checked before a run: that there is a file to read, and that there is or can be a file to
write. A table that is there already is no error.
-/

namespace DfaTable

open Journal

/-- Why a check failed, and the exit code that the run ends with. -/
structure GuardError where
  code : Int
  message : Text
  details : Text := []
deriving DecidableEq, Repr

def GuardError.write (e : GuardError) : Text :=
  if e.details.isEmpty then e.message else e.message ++ ':' :: ' ' :: e.details

namespace Guard

def source : String := "pipeline.guards"

def inputMessage (p : Path) : Text := "failed to parse jff file: ".toList ++ p.write

def outputMessage (p : Path) : Text := "failed to create file: ".toList ++ p.write

/-- Reports a check that failed. -/
def fail {α : Type} (guard : String) (code : ExitCode) (p : Path)
    (message details : Text) (more : List (Text × Value)) : Work (Except GuardError α) := do
  Work.report .error source "guard_failed"
    ([textField "guard" guard.toList, countField "code" code.number, textField "path" p.write] ++
      more)
  return .error { code := code.number, message, details }

def pass (guard : String) (p : Path) : Work Unit :=
  Work.report .debug source "guard_passed"
    [textField "guard" guard.toList, textField "path" p.write]

/-- Whether there is a file to read. -/
def checkInput (p : Path) : Work (Except GuardError Path) := do
  if !(← Files.isThere p) then
    fail "input_file" .input p (inputMessage p) "file not found".toList []
  else if !(← Files.isFile p) then
    fail "input_file" .input p (inputMessage p) "not a regular file".toList []
  else
    pass "input_file" p
    return .ok p

/-- Makes an empty file and the directories above it; what the file system refuses is given
back. -/
def create (p : Path) : Work (Option Files.Trouble) :=
  tryCatch
    (do
      Files.haveDirectories p.parent
      Files.touch p
      return none)
    fun f => do
      match f with
      | .file t => return some t
      | f => throw f

/-- Whether the file to write is there already; if it is not, it is made. -/
def checkOutput (p : Path) : Work (Except GuardError Bool) := do
  if ← Files.isDirectory p then
    fail "output_file" .output p (outputMessage p) "path is a directory".toList []
  else if ← Files.isThere p then
    Work.report .info source "output_exists"
      [textField "path" p.write, textField "action" "using existing one".toList]
    return .ok true
  else
    match ← create p with
    | some t =>
      fail "output_file" .output p (outputMessage p) ("OS error: ".toList ++ t.message)
        [textField "error" t.message]
    | none =>
      pass "output_file" p
      return .ok false

/-- Both checks; the output is not looked at unless the input is good. -/
def check (input output : Path) : Work (Except GuardError Bool) := do
  match ← checkInput input with
  | .error e => return .error e
  | .ok _ => checkOutput output

end Guard
end DfaTable
