import DfaTable.Text

/-!
# DfaTable.Encoding.Plane

Tables of characters that are written with two bytes.
-/

namespace DfaTable.Encoding

/-- Runs of characters with consecutive codes, each with the code of its first character. A code is
the number that the two bytes write. -/
abbrev Plane := List (Nat × String)

namespace Plane

/-- The code of a character. -/
def code? (p : Plane) (c : Char) : Option Nat :=
  p.findSome? fun (first, run) => (run.toList.findIdx? (· == c)).map (first + ·)

/-- The two bytes of a code. -/
def bytes (code : Nat) : List UInt8 := [UInt8.ofNat (code / 256), UInt8.ofNat (code % 256)]

end Plane

/-- The code of two characters that are written as one, in planes of the first one for each second
one. This one counts by its last 16 bits. -/
def pairCode? (pairs : List (Nat × Plane)) (first second : Char) : Option Nat :=
  (pairs.lookup (second.toNat % 65536)).bind (·.code? first)

end DfaTable.Encoding
