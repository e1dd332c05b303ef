import DfaTable.Workspace

/-!
# DfaTable.Files.Access

What can be asked of the file system and done to it by path. A question is answered with no where
nothing can be at a path; everything else that is refused is a fault.
-/

namespace DfaTable

/-- The number of bytes that a path has to stay below. -/
def Path.limit : Nat := 4096

/-- The place of a path. -/
def Workspace.locate (w : Workspace) (p : Path) : Except Files.Refusal Files.Place :=
  if Path.limit ≤ (Encoding.Utf8.encode p.write).length then .error .nameTooLong
  else w.files.walk (if p.root.isEmpty then w.home else []) p.names

namespace Files

def refuse {α : Type} (r : Refusal) (p : Path) : Work α :=
  throw (.file { refusal := r, path := p.write })

def locate (p : Path) : Work Place := do
  if p.hasNull then throw .nullByte
  match (← get).locate p with
  | .ok place => return place
  | .error r => refuse r p

/-- What is at a path. -/
def find? (p : Path) : Work (Option Entry) := do
  if p.hasNull then return none
  let w ← get
  match w.locate p with
  | .ok place => return w.files.find? place
  | .error .missing | .error .notDirectory => return none
  | .error r => refuse r p

def isThere (p : Path) : Work Bool := return (← find? p).isSome

def isDirectory (p : Path) : Work Bool := return (← find? p) == some .directory

def isFile (p : Path) : Work Bool := do
  match ← find? p with
  | some (.file _) => return true
  | _ => return false

/-- The bytes of a file. -/
def read (p : Path) : Work (List UInt8) := do
  let place ← locate p
  match (← get).files.find? place with
  | some (.file bytes) => return bytes
  | some .directory => refuse .isDirectory p
  | none => refuse .missing p

/-- Makes a directory where nothing is. -/
def makeDirectory (p : Path) : Work Unit := do
  let place ← locate p
  match (← get).files.find? place with
  | some _ => refuse .alreadyThere p
  | none => Work.put place .directory

/-- Makes a directory, or finds one. -/
def haveDirectory (p : Path) : Work Unit :=
  tryCatch (makeDirectory p) fun f => do
    match f with
    | .file t =>
      if t.refusal == .missing then throw f
      else if ← isDirectory p then return ()
      else throw f
    | _ => throw f

/-- Whether a fault is that something is missing. -/
def isMissing : Fault → Bool
  | .file t => t.refusal == .missing
  | _ => false

/-- Makes a directory, or finds one, and those above it where they are missing; the names are
given from the last one on. -/
def haveDirectoriesFrom (root : Text) : List Text → Work Unit
  | [] => haveDirectory { root }
  | n :: above =>
    let p : Path := { root, names := (n :: above).reverse }
    tryCatch (haveDirectory p) fun f => do
      if isMissing f then
        haveDirectoriesFrom root above
        haveDirectory p
      else throw f

def haveDirectories (p : Path) : Work Unit := haveDirectoriesFrom p.root p.names.reverse

/-- Makes an empty file where nothing is. -/
def touch (p : Path) : Work Unit := do
  let place ← locate p
  match (← get).files.find? place with
  | some _ => return ()
  | none => Work.put place (.file [])

/-- Takes a file away. -/
def remove (p : Path) : Work Unit := do
  let place ← locate p
  match (← get).files.find? place with
  | some (.file _) => Work.erase place
  | some .directory => refuse .isDirectory p
  | none => refuse .missing p

/-- Moves a file to a path, over the file that may be there. -/
def move (source target : Path) : Work Unit := do
  if target.hasNull then throw .nullByte
  let refuseMove := fun r : Refusal =>
    (throw (.file { refusal := r, path := source.write, target := some target.write }) : Work Unit)
  let place ← locate source
  match (← get).files.find? place, (← get).locate target with
  | some (.file bytes), .ok goal =>
    if !target.endsInName then refuseMove .busy
    else if (← get).files.find? goal == some .directory then refuseMove .isDirectory
    else
      Work.erase place
      Work.put goal (.file bytes)
  | some .directory, _ => refuseMove .isDirectory
  | none, _ => refuseMove .missing
  | _, .error r => refuseMove r

end Files
end DfaTable
