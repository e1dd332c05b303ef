import DfaTable.Text

/-!
# DfaTable.Yaml.Binary

Bytes in base 64: each digit stands for six bits, four of them for three bytes. Characters that are
no digits are passed over, and signs that fill up the last group end the bytes.
-/

namespace DfaTable.Yaml.Binary

/-- The value of a digit. -/
def digit? (c : Char) : Option Nat :=
  if c.isUpper then some (c.toNat - 65)
  else if c.isLower then some (c.toNat - 71)
  else if c.isDigit then some (c.toNat + 4)
  else if c = '+' then some 62
  else if c = '/' then some 63
  else none

/-- What was read of a group: how many digits, the bits of them that are in no byte yet, and the
signs behind the last digit. -/
structure Group where
  digits : Nat := 0
  bits : Nat := 0
  signs : Nat := 0

/-- The group with one more digit, and the byte that it completes. -/
def Group.push (g : Group) (n : Nat) : Group × Option UInt8 :=
  let byte (scale : Nat) : Option UInt8 := some (UInt8.ofNat (g.bits * (64 / scale) + n / scale))
  match g.digits with
  | 0 => ({ digits := 1, bits := n }, none)
  | 1 => ({ digits := 2, bits := n % 16 }, byte 16)
  | 2 => ({ digits := 3, bits := n % 4 }, byte 4)
  | _ => ({}, byte 1)

/-- The bytes from here on; none if the last group is not filled up. -/
def bytesFrom? (g : Group) : Text → Option (List UInt8)
  | [] => if g.digits = 0 then some [] else none
  | c :: rest =>
    if c = '=' then
      if g.digits < 2 then bytesFrom? g rest
      else if 4 ≤ g.digits + g.signs + 1 then some []
      else bytesFrom? { g with signs := g.signs + 1 } rest
    else
      match digit? c with
      | none => bytesFrom? g rest
      | some n =>
        let (g, byte) := g.push n
        (bytesFrom? g rest).map (byte.toList ++ ·)

/-- The bytes of a text. -/
def bytes? (t : Text) : Option (List UInt8) := bytesFrom? {} t

example : bytes? "TWFu\nTQ==".toList = some [77, 97, 110, 77] := by decide
example : bytes? "TWFuT".toList = none := by decide

end DfaTable.Yaml.Binary
