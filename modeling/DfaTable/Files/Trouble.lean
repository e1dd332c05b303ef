import DfaTable.Numeral
import DfaTable.Text.Quoted

/-!
# DfaTable.Files.Trouble

What the file system refuses to do, with its number and its words.
-/

namespace DfaTable.Files

open Text

inductive Refusal where
  | missing
  | busy
  | alreadyThere
  | notDirectory
  | isDirectory
  | nameTooLong
deriving DecidableEq, Repr

namespace Refusal

def number : Refusal → Nat
  | .missing => 2
  | .busy => 16
  | .alreadyThere => 17
  | .notDirectory => 20
  | .isDirectory => 21
  | .nameTooLong => 36

def words : Refusal → Text
  | .missing => "No such file or directory".toList
  | .busy => "Device or resource busy".toList
  | .alreadyThere => "File exists".toList
  | .notDirectory => "Not a directory".toList
  | .isDirectory => "Is a directory".toList
  | .nameTooLong => "File name too long".toList

end Refusal

/-- A refusal with the path that it concerns, and the second path where there are two. -/
structure Trouble where
  refusal : Refusal
  path : Text
  target : Option Text := none
deriving DecidableEq, Repr

def Trouble.message (t : Trouble) : Text :=
  "[Errno ".toList ++ Numeral.ofNat t.refusal.number ++ ']' :: ' ' :: t.refusal.words ++
    ':' :: ' ' :: quote t.path ++
    match t.target with
    | some target => " -> ".toList ++ quote target
    | none => []

end DfaTable.Files
