import DfaTable.Encoding.Plane.Korean

/-!
# DfaTable.Encoding.Korean

The characters of Korean. The plane has the usual syllables only; of the others, one encoding
writes the letters, one has them in rows of their own, and one has a code for every syllable by its
letters.
-/

namespace DfaTable.Encoding.Korean

/-- A syllable by the numbers of its letters; the last letter may be missing, which counts as
zero. -/
structure Syllable where
  initial : Nat
  medial : Nat
  final : Nat

def syllable? (c : Char) : Option Syllable :=
  let n := c.toNat - 0xAC00
  if 0xAC00 ≤ c.toNat && n < 11172 then some ⟨n / 588, n / 28 % 21, n % 28⟩ else none

/-! ## Letters for the syllables that the plane lacks -/

/-- The second bytes of the letters that a syllable begins with. -/
def initials : List UInt8 :=
  [0xA1, 0xA2, 0xA4, 0xA7, 0xA8, 0xA9, 0xB1, 0xB2, 0xB3, 0xB5, 0xB6, 0xB7, 0xB8, 0xB9, 0xBA, 0xBB,
   0xBC, 0xBD, 0xBE]

/-- The second bytes of the letters that a syllable ends with, that of the filler first. -/
def finals : List UInt8 :=
  [0xD4, 0xA1, 0xA2, 0xA3, 0xA4, 0xA5, 0xA6, 0xA7, 0xA9, 0xAA, 0xAB, 0xAC, 0xAD, 0xAE, 0xAF, 0xB0,
   0xB1, 0xB2, 0xB4, 0xB5, 0xB6, 0xB7, 0xB8, 0xBA, 0xBB, 0xBC, 0xBD, 0xBE]

/-- A syllable by the filler and its letters. -/
def spelled (s : Syllable) : List UInt8 :=
  [0xA4, 0xD4, 0xA4, initials.getD s.initial 0, 0xA4, UInt8.ofNat (0xBF + s.medial), 0xA4,
    finals.getD s.final 0]

def eucKrBytes? (c : Char) : Option (List UInt8) :=
  match Plane.korean.code? c with
  | some code => some (Plane.bytes code)
  | none => (syllable? c).map spelled

/-! ## Rows for the syllables that the plane lacks -/

/-- How many syllables below a number the plane has. -/
def syllablesBelow (n : Nat) : Nat :=
  Plane.korean.foldl
    (fun count run => count + run.2.toList.countP fun c => (syllable? c).isSome && c.toNat < n) 0

/-- The second byte of a place in a row of letters and of bytes from 128 on. -/
def columnByte (column : Nat) : Nat :=
  if column < 26 then 0x41 + column
  else if column < 52 then 0x61 + (column - 26)
  else 0x81 + (column - 52)

/-- The bytes of a place in the rows: the later ones end where the plane begins. -/
def rowBytes (index : Nat) : List UInt8 :=
  if index < 5696 then [UInt8.ofNat (0x81 + index / 178), UInt8.ofNat (columnByte (index % 178))]
  else
    let more := index - 5696
    [UInt8.ofNat (0xA1 + more / 84), UInt8.ofNat (columnByte (more % 84))]

def cp949Bytes? (c : Char) : Option (List UInt8) :=
  match Plane.korean.code? c with
  | some code => some (Plane.bytes code)
  | none => (syllable? c).map fun _ => rowBytes (c.toNat - 0xAC00 - syllablesBelow c.toNat)

/-! ## Codes by letters -/

/-- The five bits of each letter inside a syllable. -/
def medialBits : List Nat :=
  [3, 4, 5, 6, 7, 10, 11, 12, 13, 14, 15, 18, 19, 20, 21, 22, 23, 26, 27, 28, 29]

/-- The five bits of each letter at the end of a syllable, those of a missing one first. -/
def finalBits : List Nat :=
  [1, 2, 3, 4, 5, 6, 7, 8, 9, 10, 11, 12, 13, 14, 15, 16, 17, 19, 20, 21, 22, 23, 24, 25, 26, 27,
   28, 29]

def johabCode (s : Syllable) : Nat :=
  0x8000 + (s.initial + 2) * 1024 + medialBits.getD s.medial 0 * 32 + finalBits.getD s.final 0

/-- The codes of the letters that stand alone. -/
def letterCodes : List Nat :=
  [0x8841, 0x8C41, 0x8444, 0x9041, 0x8446, 0x8447, 0x9441, 0x9841, 0x9C41, 0x844A, 0x844B, 0x844C,
   0x844D, 0x844E, 0x844F, 0x8450, 0xA041, 0xA441, 0xA841, 0x8454, 0xAC41, 0xB041, 0xB441, 0xB841,
   0xBC41, 0xC041, 0xC441, 0xC841, 0xCC41, 0xD041, 0x8461, 0x8481, 0x84A1, 0x84C1, 0x84E1, 0x8541,
   0x8561, 0x8581, 0x85A1, 0x85C1, 0x85E1, 0x8641, 0x8661, 0x8681, 0x86A1, 0x86C1, 0x86E1, 0x8741,
   0x8761, 0x8781, 0x87A1]

/-- The bytes of a code of the plane between those of the syllables: as in the other shifted
encodings, two rows share the first byte. -/
def johabSign? (code : Nat) : Option (List UInt8) :=
  let row := code / 256 - 0xA1
  let column := code % 256 - 0xA1
  if row < 12 || (41 ≤ row && row < 93) then
    let doubled := if row < 41 then row + 0x1B2 else row + 0x197
    let place := (if doubled % 2 = 1 then 0x5E else 0) + column
    some [UInt8.ofNat (doubled / 2),
      UInt8.ofNat (if place < 0x4E then place + 0x31 else place + 0x43)]
  else none

def johabBytes? (c : Char) : Option (List UInt8) :=
  match syllable? c with
  | some s => some (Plane.bytes (johabCode s))
  | none =>
    if 0x3131 ≤ c.toNat && c.toNat ≤ 0x3163 then
      some (Plane.bytes (letterCodes.getD (c.toNat - 0x3131) 0))
    else (Plane.korean.code? c).bind johabSign?

end DfaTable.Encoding.Korean
