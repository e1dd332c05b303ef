import DfaTable.Fault
import DfaTable.Files.Tree
import DfaTable.Journal

/-!
# DfaTable.Workspace

What a run works on: the files and the journal. `Work` is an action on it that a fault may break
off; what was done before the fault stays done.
-/

namespace DfaTable

structure Workspace where
  files : Files.Tree := {}
  /-- The place where relative paths begin. -/
  home : Files.Place := []
  journal : Journal := {}

abbrev Work := ExceptT Fault (StateM Workspace)

namespace Work

/-- Changes the journal. -/
def onJournal (change : Journal → Journal) : Work Unit :=
  modify fun w => { w with journal := change w.journal }

def report (severity : Journal.Severity) (source name : String)
    (fields : List (Text × Value)) : Work Unit :=
  onJournal (Journal.report { severity, source := source.toList, name := name.toList, fields })

/-- Reports events one after the other. -/
def reportAll (events : List Journal.Event) : Work Unit :=
  onJournal fun j => events.foldl (fun j e => j.report e) j

/-- Puts an entry at a place. -/
def put (p : Files.Place) (e : Files.Entry) : Work Unit :=
  modify fun w => { w with files := w.files.put p e }

/-- Takes the entry of a place away. -/
def erase (p : Files.Place) : Work Unit :=
  modify fun w => { w with files := w.files.erase p }

end Work
end DfaTable
