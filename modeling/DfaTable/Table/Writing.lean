import DfaTable.Files.Replacement
import DfaTable.Settings
import DfaTable.Table

/-!
# DfaTable.Table.Writing

Records are written to a file, one on each line: behind what is there, over it, or with the file
replaced as a whole.
-/

namespace DfaTable

namespace Record

/-- The lines of records with their ends. The writer gives up at the first record with a number that
is too long. -/
def content : List Record → Files.Content
  | [] => { texts := [] }
  | r :: rest =>
    match r.render? with
    | some line =>
      let more := content rest
      { more with texts := (line ++ ['\n']) :: more.texts }
    | none => { texts := [], givenUp := some .tooLongToWrite }

/-- The setting that lets records go behind what is there; with any other the file is written
anew. -/
def appending : Text := "append".toList

/-- Writes records to a file and gives their number. -/
def writeAll (p : Path) (records : List Record) (s : OutputSettings) : Work Nat := do
  let content := content records
  if s.existing = appending then Files.write p true s.encoding content
  else if s.isAtomic then Files.replace p s.encoding content
  else Files.write p false s.encoding content
  Work.report .debug "pipeline.converter" "records_written"
    [Journal.textField "path" p.write, Journal.countField "lines" records.length]
  return records.length

end Record
end DfaTable
