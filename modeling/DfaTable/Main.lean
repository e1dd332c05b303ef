import DfaTable.Command
import Std.Time.Format

/-!
# DfaTable.Main

The command line on the files of the machine: what a run may look at is read into a workspace, the
run works on it, and what it has changed is written back.
-/

namespace DfaTable.Main

open Text Files

/-- The name of a place. -/
def nameOf (p : Place) : String := String.ofList ('/' :: join ['/'] p)

/-- All places on the way of a path. -/
def placesOf (home : Place) (p : Path) : List Place :=
  let names := (if p.root.isEmpty then home else []) ++ p.names
  (List.range (names.length + 1)).map fun n => Path.settle (names.take n)

/-- What a run may look at. -/
def reach (home : Place) (arguments : List Text) : List Place :=
  match (Command.Request.ofArguments arguments).run with
  | .ok (.ok r) => placesOf home { names := [] } ++ r.paths.flatMap (placesOf home)
  | _ => []

/-- What is at a place of the machine. -/
def look (p : Place) : IO (Option Entry) := do
  match ← (IO.FS.readBinFile (nameOf p)).toBaseIO with
  | .ok bytes => return some (.file bytes.toList)
  | .error (.noFileOrDirectory ..) => return none
  | .error (.inappropriateType ..) => return some .directory
  | .error e => throw e

/-- A tree with what is at a place, unless nothing can be there or it is known already. -/
def addPlace (t : Tree) (p : Place) : IO Tree := do
  if (t.find? p).isSome || t.find? p.dropLast != some .directory then return t
  match ← look p with
  | some e => return t.put p e
  | none => return t

/-- Writes a file as a whole. -/
def writeFile (p : Place) (bytes : List UInt8) : IO Unit := do
  let draft := nameOf p ++ ".new"
  IO.FS.writeBinFile draft bytes.toByteArray
  IO.FS.rename draft (nameOf p)

/-- Writes back what is new in a tree. -/
def writeBack (before after : Tree) : IO Unit :=
  after.entries.forM fun (p, e) => do
    if before.find? p != some e then
      match e with
      | .directory => IO.FS.createDir (nameOf p)
      | .file bytes => writeFile p bytes

/-- The time, as the journal shows it. -/
def time : IO Text := do
  let now := Std.Time.DateTime.ofTimestamp (← Std.Time.Timestamp.now) .UTC
  return (now.format "uuuu-MM-dd'T'HH:mm:ss.SSSSSSxxx").toList

/-- A run on the machine. -/
def run (arguments : List Text) : IO UInt32 := do
  let home := (Path.ofText (← IO.currentDir).toString.toList).names
  let files ← (reach home arguments).foldlM addPlace {}
  let w : Workspace := { files, home, journal := { now := ← time } }
  let (ending, after) := Command.run arguments w
  writeBack files after.files
  IO.print (String.ofList ending.output)
  IO.eprint (String.ofList (after.journal.written ++ ending.message))
  return ending.code.toNat.toUInt32

end DfaTable.Main

def main (arguments : List String) : IO UInt32 := DfaTable.Main.run (arguments.map String.toList)
