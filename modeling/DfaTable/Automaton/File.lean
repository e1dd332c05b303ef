import DfaTable.Automaton.Loading
import DfaTable.Files.Access

/-!
# DfaTable.Automaton.File

The automaton of a document in a file. A document that cannot be read or describes no automaton is
reported; a number with too many digits breaks the run off.
-/

namespace DfaTable

open Journal

namespace Automaton

def loadedFields (a : Automaton) : List (Text × Value) :=
  [("type".toList, a.kind.elim .null .text), countField "states" a.states.length,
    countField "transitions" a.transitions.length]

def reportLoading (p : Path) : Except LoadError Automaton → Work Unit
  | .ok a => Work.report .debug "loader.jff" "document_loaded" (textField "path" p.write ::
      loadedFields a)
  | .error e => Work.report .error "loader.jff" "load_failed"
      [textField "path" p.write, textField "error" e.message]

/-- The automaton in the bytes of a file. -/
def ofFileBytes (p : Path) (bytes : List UInt8) : Work (Except LoadError Automaton) :=
  match loadSource p.write (.bytes bytes) with
  | .error o => throw (.tooManyDigits o.digits)
  | .ok outcome => do
    reportLoading p outcome
    return outcome

/-- The bytes of a file, or why the file system refuses them. -/
def bytesOfFile (p : Path) : Work (Except Files.Trouble (List UInt8)) :=
  tryCatch (do return .ok (← Files.read p)) fun f => do
    match f with
    | .file t => return .error t
    | f => throw f

/-- The automaton in a file. -/
def ofFile (p : Path) : Work (Except LoadError Automaton) := do
  match ← bytesOfFile p with
  | .ok bytes => ofFileBytes p bytes
  | .error t =>
    Work.report .error "loader.jff" "load_failed"
      [textField "path" p.write, textField "error" t.message]
    return .error { path := p.write, message := "cannot read file".toList, cause := t.message }

end Automaton
end DfaTable
