import DfaTable.Text

/-!
# DfaTable.Path

Paths are lists of names behind a root. Empty names and single dots are left out when a path is
read; double dots stay, because they lead upwards only once the file system has been asked.
-/

namespace DfaTable

open Text

structure Path where
  /-- The slashes in front: none for a relative path, and otherwise one or two. -/
  root : Text := []
  names : List Text := []
deriving DecidableEq, Repr

namespace Path

/-- The name that leads to the directory above. -/
def up : Text := ['.', '.']

/-- Three slashes and more count as one. -/
def rootOf (t : Text) : Text :=
  match t.takeWhile (· == '/') with
  | [] => []
  | ['/', '/'] => ['/', '/']
  | _ => ['/']

/-- Whether a name is kept in a path. -/
def isName (n : Text) : Bool := !n.isEmpty && n != ['.']

def ofText (t : Text) : Path := { root := rootOf t, names := (split '/' t).filter isName }

/-- The text of a path; a path without names is a single dot. -/
def write (p : Path) : Text :=
  if p.root.isEmpty && p.names.isEmpty then ['.'] else p.root ++ join ['/'] p.names

/-- The last name; empty if there is none. -/
def name (p : Path) : Text := p.names.getLastD []

/-- The path without its last name. -/
def parent (p : Path) : Path := { p with names := p.names.dropLast }

def child (p : Path) (name : Text) : Path := { p with names := p.names ++ [name] }

/-- Whether a path ends in a name of its own, and not in a way to a directory that has another
one. -/
def endsInName (p : Path) : Bool :=
  match p.names.getLast? with
  | some n => n != up
  | none => false

/-- Whether a null character keeps the path from being a path of any file. -/
def hasNull (p : Path) : Bool := p.names.any (·.contains '\x00')

/-- Goes through names and up again where they lead upwards; nothing is above the first. -/
def settle (names : List Text) : List Text :=
  names.foldl (fun place n => if n = up then place.dropLast else place ++ [n]) []

end Path
end DfaTable
