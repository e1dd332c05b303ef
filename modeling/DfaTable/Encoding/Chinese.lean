import DfaTable.Encoding.Plane.Additions
import DfaTable.Encoding.Plane.HongKong
import DfaTable.Encoding.Plane.Simplified
import DfaTable.Encoding.Plane.Traditional

/-!
# DfaTable.Encoding.Chinese

The characters of Chinese: simplified ones by a plane of which the oldest standard has the middle
and the newest one goes on with four bytes, and traditional ones with two sets of additions.
-/

namespace DfaTable.Encoding.Chinese

/-! ## Simplified -/

/-- Places in the middle of the plane that were given away later. -/
def givenLater (code : Nat) : Bool :=
  code = 0xA1A4 || code = 0xA1AA || (0xA2A1 ≤ code && code ≤ 0xA2AA) ||
    (0xA6E0 ≤ code && code ≤ 0xA6F5) || (0xA8BB ≤ code && code ≤ 0xA8C0)

/-- The code of a character in the oldest standard, where two signs have other places. -/
def oldCode? (c : Char) : Option Nat :=
  if c = '・' then some 0xA1A4
  else if c = '―' then some 0xA1AA
  else
    (Plane.simplified.code? c).filter fun code =>
      0xA1 ≤ code / 256 && 0xA1 ≤ code % 256 && !givenLater code

/-- Runs of private characters that fill the places the plane leaves free: the code and the number
of the first one, and how many there are. -/
def fillings : List (Nat × Nat × Nat) :=
  [(0xA2AB, 0xE766, 6), (0xA2E4, 0xE76D, 1), (0xA2EF, 0xE76E, 2), (0xA2FD, 0xE770, 2),
   (0xA4F4, 0xE772, 11), (0xA5F7, 0xE77D, 8), (0xA6B9, 0xE785, 8), (0xA6D9, 0xE78D, 7),
   (0xA6EC, 0xE794, 2), (0xA6F3, 0xE796, 1), (0xA6F6, 0xE797, 9), (0xA7C2, 0xE7A0, 15),
   (0xA7F2, 0xE7AF, 13), (0xA896, 0xE7BC, 11), (0xA8BC, 0xE7C7, 1), (0xA8C1, 0xE7C9, 4),
   (0xA8EA, 0xE7CD, 21), (0xA958, 0xE7E2, 1), (0xA95B, 0xE7E3, 1), (0xA95D, 0xE7E4, 3),
   (0xA997, 0xE7F4, 13), (0xA9F0, 0xE801, 15), (0xD7FA, 0xE810, 5), (0xFE51, 0xE816, 3),
   (0xFE59, 0xE81E, 1), (0xFE61, 0xE826, 1), (0xFE66, 0xE82B, 2), (0xFE6C, 0xE831, 2),
   (0xFE76, 0xE83B, 1), (0xFE7E, 0xE843, 1), (0xFE90, 0xE854, 2), (0xFEA0, 0xE864, 1)]

/-- The code of a private character: rows of its own before and behind the plane, then rows of the
left half, and the places that are left. -/
def privateCode? (c : Char) : Option Nat :=
  let n := c.toNat
  if n < 0xE000 || 0xE864 < n then none
  else if n < 0xE234 then some (0xAAA1 + (n - 0xE000) / 94 * 256 + (n - 0xE000) % 94)
  else if n < 0xE4C6 then some (0xF8A1 + (n - 0xE234) / 94 * 256 + (n - 0xE234) % 94)
  else if n < 0xE766 then
    let column := (n - 0xE4C6) % 96
    some (0xA140 + (n - 0xE4C6) / 96 * 256 + if column < 63 then column else column + 1)
  else
    fillings.findSome? fun (code, first, count) =>
      if first ≤ n && n < first + count then some (code + (n - first)) else none

/-- The code of a character that the newest standard writes with two bytes. -/
def twoByteCode? (c : Char) : Option Nat :=
  Plane.simplified.code? c <|> Plane.modernSimplified.code? c <|> privateCode? c

/-- How many characters below a number are written with two bytes, private ones apart. -/
def countBelow (n : Nat) : Nat :=
  (Plane.simplified ++ Plane.modernSimplified).foldl
    (fun count run => count + run.2.toList.countP (·.toNat < n)) 0

/-- How many of the private characters below a number are written with two bytes. -/
def privateBelow (n : Nat) : Nat :=
  fillings.foldl (fun below (_, first, count) => below + min (n - first) count)
    (min n 0xE766 - 0xE000)

/-- The place of a character among those that are written with four bytes. -/
def fourByteIndex (c : Char) : Nat :=
  let n := c.toNat
  if n < 0xD800 then n - 0x80 - countBelow n
  else if n < 0x10000 then n - 0x80 - 0x800 - countBelow n - privateBelow n
  else n - 0x10000 + 189000

/-- Four bytes, of which the second and the last one are digits. -/
def fourBytes (index : Nat) : List UInt8 :=
  [UInt8.ofNat (0x81 + index / 12600), UInt8.ofNat (0x30 + index / 1260 % 10),
    UInt8.ofNat (0x81 + index / 10 % 126), UInt8.ofNat (0x30 + index % 10)]

def gb18030Bytes (c : Char) : List UInt8 :=
  match twoByteCode? c with
  | some code => Plane.bytes code
  | none => fourBytes (fourByteIndex c)

/-! ## Traditional -/

def cp950Code? (c : Char) : Option Nat :=
  Plane.vendorTraditional.code? c <|> Plane.traditional.code? c

def hongKongCode? (c : Char) : Option Nat :=
  Plane.hongKong.code? c <|> Plane.traditional.code? c

/-- The codes of letters with two accents, by the second one. -/
def hongKongPairs : List (Nat × Plane) :=
  [(0x304, [(0x8862, "Ê"), (0x88A3, "ê")]), (0x30C, [(0x8864, "Ê"), (0x88A5, "ê")])]

end DfaTable.Encoding.Chinese
