import DfaTable.Text.Quoted

/-!
# DfaTable.Encoding.Unicode

The encodings that write the numbers of characters: in units of 16 or of 32 bits, in base 64 and in
escapes.
-/

namespace DfaTable.Encoding

open Text

inductive ByteOrder where
  | little
  | big
deriving DecidableEq, Repr

/-- The two bytes of a number below 65536. -/
def pair (order : ByteOrder) (n : Nat) : List UInt8 :=
  match order with
  | .little => [UInt8.ofNat (n % 256), UInt8.ofNat (n / 256)]
  | .big => [UInt8.ofNat (n / 256), UInt8.ofNat (n % 256)]

/-- The 16-bit units of a character. -/
def units (c : Char) : List Nat :=
  let n := c.toNat
  if n < 0x10000 then [n]
  else [0xD800 + (n - 0x10000) / 0x400, 0xDC00 + (n - 0x10000) % 0x400]

def quad (order : ByteOrder) (n : Nat) : List UInt8 :=
  match order with
  | .little => pair .little (n % 65536) ++ pair .little (n / 65536)
  | .big => pair .big (n / 65536) ++ pair .big (n % 65536)

def utf16Bytes (order : ByteOrder) (t : Text) : List UInt8 :=
  (t.flatMap units).flatMap (pair order)

/-- The digits of base 64. -/
def sixBitDigit (n : Nat) : Char :=
  if n < 26 then Char.ofNat (65 + n)
  else if n < 52 then Char.ofNat (71 + n)
  else if n < 62 then Char.ofNat (n - 4)
  else if n = 62 then '+'
  else '/'

/-- Bytes in base 64, without filling at the end. -/
def sixBits : List UInt8 → Text
  | a :: b :: c :: rest =>
    let n := (a.toNat * 256 + b.toNat) * 256 + c.toNat
    [sixBitDigit (n / 262144), sixBitDigit (n / 4096 % 64), sixBitDigit (n / 64 % 64),
      sixBitDigit (n % 64)] ++ sixBits rest
  | [a, b] =>
    let n := (a.toNat * 256 + b.toNat) * 4
    [sixBitDigit (n / 4096), sixBitDigit (n / 64 % 64), sixBitDigit (n % 64)]
  | [a] =>
    let n := a.toNat * 16
    [sixBitDigit (n / 64), sixBitDigit (n % 64)]
  | [] => []

/-- Characters that stand for themselves in UTF-7. -/
def isDirect (c : Char) : Bool :=
  c == '\t' || c == '\n' || c == '\r' ||
    (32 ≤ c.toNat && c.toNat ≤ 125 && c != '+' && c != '\\')

def isSixBitDigit (c : Char) : Bool := c.isAlphanum || c == '+' || c == '/'

/-- A run of characters in base 64; the mark at its end is left out where the character after it
ends the run as well. -/
def shifted (run rest : Text) : Text :=
  let closing :=
    match rest with
    | [] => ['-']
    | c :: _ => if isSixBitDigit c || c == '-' then ['-'] else []
  '+' :: sixBits (utf16Bytes .big run) ++ closing

/-- The ASCII text that stands for a text in UTF-7. -/
def utf7Text : Text → Text
  | [] => []
  | c :: rest =>
    if isDirect c then c :: utf7Text rest
    else if c = '+' then '+' :: '-' :: utf7Text rest
    else
      let after := rest.dropWhile (!isDirect ·)
      shifted (c :: rest.takeWhile (!isDirect ·)) after ++ utf7Text after
termination_by t => t.length
decreasing_by
  · exact Nat.lt_succ_self _
  · exact Nat.lt_succ_self _
  · exact Nat.lt_succ_of_le (List.dropWhile_sublist _).length_le

def asciiBytes (t : Text) : List UInt8 := t.map fun c => UInt8.ofNat c.toNat

/-- What stands for a character where only ASCII may be written. -/
def escapeText (c : Char) : Text :=
  if c = '\\' then ['\\', '\\']
  else if c = '\n' then ['\\', 'n']
  else if c = '\r' then ['\\', 'r']
  else if c = '\t' then ['\\', 't']
  else if 32 ≤ c.toNat && c.toNat ≤ 126 then [c]
  else escapeByNumber c

/-- The bytes of a character where only characters of one byte stand for themselves. -/
def rawEscapeBytes (c : Char) : List UInt8 :=
  if c.toNat < 256 then [UInt8.ofNat c.toNat] else asciiBytes (escapeByNumber c)

end DfaTable.Encoding
