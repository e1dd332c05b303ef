import DfaTable.Encoding.Plane.Additions
import DfaTable.Encoding.Plane.JapaneseBasic
import DfaTable.Encoding.Plane.JapaneseExtended
import DfaTable.Encoding.Plane.JapaneseMore

/-!
# DfaTable.Encoding.Japanese

The characters of Japanese in the encodings that mark the planes with a byte of their own and in
those that shift the rows of a plane between the bytes of ASCII. The newer planes have characters
of two code points: the first one waits for what comes behind it.
-/

namespace DfaTable.Encoding.Japanese

/-- The byte that stands for a half-width letter. -/
def halfWidth? (c : Char) : Option UInt8 :=
  if 0xFF61 ≤ c.toNat && c.toNat ≤ 0xFF9F then some (UInt8.ofNat (c.toNat - 0xFF61 + 0xA1))
  else none

/-- The two signs that take the places of ASCII characters. -/
def romanSign? (c : Char) : Option UInt8 :=
  if c = '¥' then some 0x5C else if c = '‾' then some 0x7E else none

/-! ## The basic plane -/

/-- The bytes of a row and a column, both counted from zero: two rows share the first byte, and the
second one leaves out the last character of ASCII. -/
def shifted (row column : Nat) : List UInt8 :=
  let first := row / 2 + if row < 62 then 0x81 else 0xC1
  let second :=
    if row % 2 = 1 then column + 0x9F else column + if column < 63 then 0x40 else 0x41
  [UInt8.ofNat first, UInt8.ofNat second]

/-- The bytes of a code on one of the first planes where rows are shifted. -/
def shiftedCode (code : Nat) : List UInt8 := shifted (code / 256 - 0xA1) (code % 256 - 0xA1)

def shiftJisBytes? (c : Char) : Option (List UInt8) :=
  match romanSign? c <|> halfWidth? c with
  | some b => some [b]
  | none => (Plane.japaneseBasic.code? c).map shiftedCode

def eucJpBytes? (c : Char) : Option (List UInt8) :=
  match romanSign? c, halfWidth? c, Plane.japaneseBasic.code? c with
  | some b, _, _ => some [b]
  | none, some b, _ => some [0x8E, b]
  | none, none, some code => some (Plane.bytes code)
  | none, none, none => (Plane.japaneseMore.code? c).map fun code => 0x8F :: Plane.bytes code

/-- The bytes that no character had are given to a few of the private ones. -/
def spareByte? (c : Char) : Option UInt8 :=
  if c.toNat = 0x80 then some 0x80
  else if c.toNat = 0xF8F0 then some 0xA0
  else if 0xF8F1 ≤ c.toNat && c.toNat ≤ 0xF8F3 then some (UInt8.ofNat (c.toNat - 0xF8F1 + 0xFD))
  else none

/-- The rows behind the plane, which belong to the private characters. -/
def privateBytes? (c : Char) : Option (List UInt8) :=
  let n := c.toNat - 0xE000
  if 0xE000 ≤ c.toNat && n < 1880 then
    let second := n % 188
    some [UInt8.ofNat (n / 188 + 0xF0), UInt8.ofNat (second + if second < 63 then 0x40 else 0x41)]
  else none

def cp932Bytes? (c : Char) : Option (List UInt8) :=
  match spareByte? c <|> halfWidth? c with
  | some b => some [b]
  | none =>
    (Plane.vendorJapanese.code? c).map Plane.bytes <|>
      (Plane.japaneseBasic.code? c).map shiftedCode <|> privateBytes? c

/-! ## The newer planes -/

/-- The editions of the newer planes. -/
inductive Edition where
  | older
  | newer
deriving DecidableEq, Repr

namespace Edition

/-- Characters that came with the newer edition. -/
def latecomers : Text := "俱剝吞噓姸屛幷瘦繫鬜𠮟".toList

/-- Where the newer edition has one of the latecomers, the older one had its variant. -/
def variant : Char := '鬝'

/-- The code of a character on the first of the newer planes. -/
def firstCode? (e : Edition) (c : Char) : Option Nat :=
  if e = older && latecomers.contains c then none
  else Plane.japaneseThird.code? c <|> Plane.japaneseBasic.code? c

/-- The code of a character on the second of the newer planes. -/
def secondCode? (e : Edition) (c : Char) : Option Nat :=
  match e with
  | older =>
    if c = variant then Plane.japaneseFourth.code? '鬜'
    else if latecomers.contains c then none
    else Plane.japaneseFourth.code? c
  | newer => Plane.japaneseFourth.code? c

end Edition

/-- The codes of the characters of two code points, by the second one. -/
def pairs : List (Nat × Plane) :=
  [(0x309A, [(0xA4F7, "かきくけこ"), (0xA5F7, "カキクケコセツト"), (0xA6F8, "ㇷ")]),
   (0x300, [(0xABC4, "æ"), (0xABC8, "ɔ"), (0xABCA, "ʌ"), (0xABCC, "ə"), (0xABCE, "ɚ")]),
   (0x301, [(0xABC9, "ɔ"), (0xABCB, "ʌ"), (0xABCD, "ə"), (0xABCF, "ɚ")]),
   (0x2E9, [(0xABE6, "˥")]),
   (0x2E5, [(0xABE5, "˩")])]

/-- Whether a character may be the first of two. -/
def awaits (c : Char) : Bool := pairs.any fun entry => (entry.2.code? c).isSome

/-- The code of two characters that are written as one. Where the last 16 bits of the second one are
zero, the first one is taken as if it stood alone. -/
def pairCode? (e : Edition) (first second : Char) : Option Nat :=
  if second.toNat % 65536 = 0 then e.firstCode? first
  else Encoding.pairCode? pairs first second

/-- The place of the tilde on the first plane. -/
def tildeCode : Nat := 0xA2B2

/-- The place of the backslash on the first plane. -/
def backslashCode : Nat := 0xA1C0

def eucJisBytes? (e : Edition) (c : Char) : Option (List UInt8) :=
  if e = .older && Edition.latecomers.contains c then none
  else if c = '～' then some (Plane.bytes tildeCode)
  else
    match e.firstCode? c, e.secondCode? c, Plane.japaneseMore.code? c with
    | some code, _, _ => some (Plane.bytes code)
    | none, some code, _ => some (0x8F :: Plane.bytes code)
    | none, none, some code => some (0x8F :: Plane.bytes code)
    | none, none, none => (halfWidth? c).map ([0x8E, ·])

/-- The bytes of a code on the second of the newer planes where rows are shifted: only some of its
rows are in use, and these follow those of the first plane. -/
def shiftedSecond (code : Nat) : List UInt8 :=
  let first := code / 256
  let row :=
    if first ≥ 0xEE then first - 0x87
    else if first ≥ 0xAC || first = 0xA8 then first - 0x49
    else first - 0x43
  shifted row (code % 256 - 0xA1)

/-- The encodings that shift rows have no backslash and no tilde of ASCII, but those of the first
plane. -/
def shiftJisxBytes? (e : Edition) (c : Char) : Option (List UInt8) :=
  match romanSign? c <|> halfWidth? c with
  | some b => some [b]
  | none =>
    if c = '\\' then some (shiftedCode backslashCode)
    else if c = '~' then some (shiftedCode tildeCode)
    else if c = '＼' then none
    else (e.firstCode? c).map shiftedCode <|> (e.secondCode? c).map shiftedSecond

end DfaTable.Encoding.Japanese
