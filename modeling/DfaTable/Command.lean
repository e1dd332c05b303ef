import DfaTable.Automaton.File
import DfaTable.Command.Usage
import DfaTable.Guard
import DfaTable.Settings.Loading
import DfaTable.Table.Writing

/-!
# DfaTable.Command

A run of the command line: the settings are loaded, the paths checked, the document read and
compiled, and the table written. A dry run writes nothing. However a run ends, the journal names no
document afterwards.
-/

namespace DfaTable.Command

open Text Journal

/-- How a run ends: its exit code, what it prints, and a message beside the journal. -/
structure Ending where
  code : Int
  output : Text := []
  message : Text := []
deriving DecidableEq, Repr

namespace Ending

def print (code : Int) (report : Json) : Ending := { code, output := report.indented 0 ++ ['\n'] }

def member (name : String) (v : Json) : Text × Json := (name.toList, v)

/-- The end of a run that failed. -/
def failed (code : Int) (message : Text) : Ending :=
  print code
    (.object [member "status" (.text "error".toList), member "message" (.text message)])

/-- The end of a run with a table. -/
def succeeded (status message : String) (output : Path) (t : Table) : Ending :=
  print ExitCode.success.number
    (.object
      [member "status" (.text status.toList), member "message" (.text message.toList),
        member "output" (.text output.write), member "states" (.int t.stateCount),
        member "transitions" (.int t.transitionCount), member "records" (.int t.records.length),
        member "empty_transitions" (.int t.emptyCount),
        member "warnings" (.array (t.warnings.map .text))])

end Ending

def source : String := "cli"

/-- The checks of a run; a dry run looks at its input only. -/
def checkPaths (isDry : Bool) (input output : Path) : Work (Except GuardError Unit) := do
  if isDry then return (← Guard.checkInput input).map fun _ => ()
  else return (← Guard.check input output).map fun _ => ()

/-- Whether a fault means that the table could not be written. -/
def isWriteFault : Fault → Bool
  | .file _ | .replacement .. => true
  | _ => false

/-- Writes a table, or says why that is not possible. -/
def writeTable (output : Path) (t : Table) (s : OutputSettings) : Work (Option Fault) :=
  tryCatch
    (do
      let _ ← Record.writeAll output t.records s
      return none)
    fun f => if isWriteFault f then return some f else throw f

/-- The end of a run that has written its table, or could not. -/
def finish (output : Path) (t : Table) : Option Fault → Work Ending
  | some f => do
    Work.report .error source "write_failed"
      [textField "path" output.write, textField "error" f.message]
    return .failed ExitCode.output.number
      ("Failed to write ".toList ++ output.write ++ ':' :: ' ' :: f.message)
  | none => do
    Work.report .info source "conversion_completed" [countField "records" t.records.length]
    let status := if t.warnings.isEmpty then "success" else "partial"
    return .succeeded status "conversion done." output t

/-- Compiles an automaton and writes its table, unless the run is dry. -/
def compile (isDry : Bool) (output : Path) (s : OutputSettings) (a : Automaton) : Work Ending := do
  let t := Table.ofAutomaton a
  Work.reportAll t.events
  if isDry then return .succeeded "dry_run" "Would write TCDF file" output t
  else finish output t (← writeTable output t s)

/-- The conversion of one document. -/
def convert (isDry : Bool) (input output : Path) (s : OutputSettings) : Work Ending := do
  Work.report .info source "conversion_started"
    [textField "input" input.write, textField "output" output.write,
      ("dry_run".toList, .bool isDry)]
  match ← checkPaths isDry input output with
  | .error e => return .failed e.code e.write
  | .ok () =>
    match ← Automaton.ofFile input with
    | .error e => return .failed ExitCode.input.number e.write
    | .ok a => compile isDry output s a

/-- Work during which the journal names a document. -/
def withDocument {α : Type} (name : Text) (work : Work α) : Work α := do
  Work.onJournal (Journal.setDocument name)
  let a ← tryCatch work fun f => do
    Work.onJournal Journal.clearDocument
    throw f
  Work.onJournal Journal.clearDocument
  return a

/-- The end of a run that lacks a path. -/
def showUsage (settings : Except SettingsError Settings) : Ending :=
  match settings with
  | .ok s => { code := s.usageExitCode, output := usageLine }
  | .error _ => { code := ({} : Settings).usageExitCode, output := usageLine }

/-- A run with both of its paths. -/
def runWith (o : Options) (input output : Path) (s : Settings) : Work Ending := do
  Work.onJournal
    (Journal.configure (o.level.getD s.logging.level) (o.format.getD s.logging.format))
  withDocument input.name (convert o.isDry input output s.output)

/-- A run with options. -/
def runOptions (o : Options) : Work Ending := do
  let settings ← Settings.load (o.config.getD Settings.usualDirectory)
  match o.input, o.output with
  | some input, some output =>
    match settings with
    | .error e => return { code := ExitCode.settings.number, message := e.write ++ ['\n'] }
    | .ok s => runWith o input output s
  | _, _ => return showUsage settings

/-- What a request asks for. -/
def runRequest : Request → Work Ending
  | .help => return { code := ExitCode.success.number, output := helpText }
  | .version => return { code := ExitCode.success.number, output := versionLine }
  | .run o => runOptions o

/-- The run that some arguments ask for. -/
def runArguments (arguments : List Text) : Work Ending :=
  match (Request.ofArguments arguments).run with
  | .ok (.ok r) => runRequest r
  | .ok (.error p) => return { code := ExitCode.settings.number, message := p.write }
  | .error f => throw f

/-- A run from a workspace to the one that it leaves. A fault that nothing else handles is reported
and ends the run. -/
def run (arguments : List Text) (w : Workspace) : Ending × Workspace :=
  match (runArguments arguments).run.run w with
  | (.ok ending, w) => (ending, w)
  | (.error f, w) =>
    let e : Event :=
      { severity := .error, source := source.toList, name := "cli_error".toList
        fields := [textField "error" f.message] }
    ({ code := ExitCode.fault.number }, { w with journal := w.journal.report e })

/-- The files that a request is about. -/
def Request.paths : Request → List Path
  | .run o =>
    (o.config.getD Settings.usualDirectory).child Settings.fileName ::
      (o.input.toList ++ o.output.toList)
  | _ => []

end DfaTable.Command
