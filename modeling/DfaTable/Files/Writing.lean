import DfaTable.Encoding.Registry
import DfaTable.Files.Access

/-!
# DfaTable.Files.Writing

Text is written to a file in a named encoding. The file is made or emptied before the name of the
encoding is looked up, and what was written before a fault stays in it.
-/

namespace DfaTable.Files

/-- What is written: texts one after the other, after which the writer may give up. -/
structure Content where
  texts : List Text
  givenUp : Option Fault := none
deriving Repr

/-- The word for the encoding of the place where the program runs. -/
def localName : Text := "locale".toList

/-- The encoding of a name. -/
def encodingOf (name : Text) : Except Fault Encoding :=
  if name = localName then .ok (.utf8 false)
  else
    match Encoding.named name with
    | .encoding e => .ok e
    | .transform => .error (.noTextEncoding name)
    | .unknown => .error (.unknownEncoding name)

/-- Readies the file at a path for writing, with or without the bytes that it has; gives its place
and those bytes. -/
def ready (p : Path) (keep : Bool) : Work (Place × List UInt8) := do
  let place ← locate p
  match (← get).files.find? place with
  | some .directory => refuse .isDirectory p
  | some (.file bytes) =>
    if keep then return (place, bytes)
    else
      Work.put place (.file [])
      return (place, [])
  | none =>
    Work.put place (.file [])
    return (place, [])

/-- Writes to the file at a path, behind the bytes that it has or in their place. -/
def write (p : Path) (keep : Bool) (encoding : Text) (c : Content) : Work Unit := do
  if encoding.contains '\x00' then throw .nullCharacter
  let (place, old) ← ready p keep
  let e ← encodingOf encoding
  let (bytes, trouble) := e.encodeAll (.opened old.isEmpty) c.texts
  Work.put place (.file (old ++ bytes))
  match trouble, c.givenUp with
  | some u, _ => throw (.unwritable u)
  | none, some f => throw f
  | none, none => return ()

end DfaTable.Files
