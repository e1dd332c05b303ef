import DfaTable.Encoding
import DfaTable.Markup.Symbol

/-!
# DfaTable.Markup.Coding

How bytes are read as symbols: all at once where they are whole, while a character that is cut off
waits for its other bytes. Only UTF-8 takes bytes that belong to no character.
-/

namespace DfaTable.Markup

open Text Encoding

/-- How bytes are read. -/
inductive Coding where
  | utf8
  | utf16 (order : ByteOrder)
  | utf32 (order : ByteOrder)
  | latin1
  | ascii
  | windows1252
  | koi8r
deriving DecidableEq, Repr

namespace Coding

def isTail (b : UInt8) : Bool := 0x80 ≤ b && b < 0xC0

/-- Whether bytes behind the first one of a character of UTF-8 are too few. -/
def isCut (first : UInt8) (rest : List UInt8) : Bool :=
  let due := if first < 0xE0 then 1 else if first < 0xF0 then 2 else 3
  let next := rest.take due
  next.length < due && next.all isTail

/-- The symbols of UTF-8, and the bytes of a character that is cut off. -/
def utf8Symbols (bytes : List UInt8) : Input × List UInt8 :=
  match bytes with
  | [] => ([], [])
  | b :: rest =>
    if b < 0x80 then
      let (more, cut) := utf8Symbols rest
      (.char (Char.ofNat b.toNat) :: more, cut)
    else if isCut b rest then ([], b :: rest)
    else
      match Utf8.first b rest with
      | .ok (c, following) =>
        let (more, cut) := utf8Symbols (rest.drop following)
        (.char c :: more, cut)
      | .error _ =>
        let (more, cut) := utf8Symbols rest
        (.stray :: more, cut)
termination_by bytes.length
decreasing_by
  · exact Nat.lt_succ_self _
  · exact Nat.lt_succ_of_le (by rw [List.length_drop]; exact Nat.sub_le ..)
  · exact Nat.lt_succ_self _

/-- The character with a number, if there is one. -/
def charOf? (n : Nat) : Option Char :=
  let c := Char.ofNat n
  if c.toNat = n then some c else none

def number (order : ByteOrder) (a b : Nat) : Nat :=
  match order with
  | .little => a + 256 * b
  | .big => 256 * a + b

/-- Puts a character before what follows it. -/
def before (c : Char) (r : Option (Input × List UInt8)) : Option (Input × List UInt8) :=
  r.map fun (more, cut) => (.char c :: more, cut)

/-- The symbols of 16-bit units, and the bytes of a character that is cut off; nothing if half a
pair stands alone. -/
def utf16Symbols? (order : ByteOrder) : List UInt8 → Option (Input × List UInt8)
  | a :: b :: c :: d :: rest =>
    let high := number order a.toNat b.toNat
    let low := number order c.toNat d.toNat
    if 0xD800 ≤ high && high < 0xDC00 then
      if 0xDC00 ≤ low && low < 0xE000 then
        before (Char.ofNat (0x10000 + (high - 0xD800) * 0x400 + (low - 0xDC00)))
          (utf16Symbols? order rest)
      else none
    else
      match charOf? high with
      | some first => before first (utf16Symbols? order (c :: d :: rest))
      | none => none
  | a :: b :: rest =>
    let n := number order a.toNat b.toNat
    if 0xD800 ≤ n && n < 0xDC00 then some ([], a :: b :: rest)
    else (charOf? n).map fun c => ([.char c], rest)
  | rest => some ([], rest)

/-- The symbols of 32-bit units, and the bytes of one that is cut off; nothing if a number stands
for no character. -/
def utf32Symbols? (order : ByteOrder) : List UInt8 → Option (Input × List UInt8)
  | a :: b :: c :: d :: rest =>
    let first := number order a.toNat b.toNat
    let second := number order c.toNat d.toNat
    let n :=
      match order with
      | .little => first + 65536 * second
      | .big => 65536 * first + second
    match charOf? n with
    | some c => before c (utf32Symbols? order rest)
    | none => none
  | rest => some ([], rest)

/-- The symbols of single bytes; nothing if one has no character. -/
def pageSymbols? (char? : UInt8 → Option Char) (bytes : List UInt8) :
    Option (Input × List UInt8) :=
  (bytes.mapM char?).map fun t => (inputOf t, [])

/-- The symbols of bytes, and the bytes of a character that is cut off; nothing if some bytes have
no meaning. -/
def symbols? (c : Coding) (bytes : List UInt8) : Option (Input × List UInt8) :=
  match c with
  | utf8 => some (utf8Symbols bytes)
  | utf16 order => utf16Symbols? order bytes
  | utf32 order => utf32Symbols? order bytes
  | latin1 => pageSymbols? (fun b => some (Char.ofNat b.toNat)) bytes
  | ascii => pageSymbols? (fun b => if b < 0x80 then some (Char.ofNat b.toNat) else none) bytes
  | windows1252 => pageSymbols? Page.cp1252.char? bytes
  | koi8r => pageSymbols? Page.koi8R.char? bytes

/-- The names of the codings but UTF-8, in lower case. -/
def names : List (Coding × List String) :=
  [(latin1,
    ["iso-8859-1", "iso_8859-1", "iso8859-1", "iso_8859-1:1987", "iso-ir-100", "iso-latin-1",
     "iso latin 1", "latin1", "l1", "cp819", "ibm819", "csisolatin1"]),
   (ascii,
    ["us-ascii", "ascii", "us", "iso646-us", "iso_646.irv:1991", "iso-ir-6", "ansi_x3.4-1968",
     "ansi_x3.4-1986", "cp367", "ibm367", "csascii"]),
   (windows1252, ["windows-1252", "cp1252", "ms-ansi"]),
   (koi8r, ["koi8-r", "cskoi8r"]),
   (utf16 .little, ["utf-16", "utf16", "utf-16le", "ucs-2", "ucs-2le", "iso-10646-ucs-2"]),
   (utf16 .big, ["utf-16be", "ucs-2be"]),
   (utf32 .little, ["utf-32", "utf-32le", "ucs-4le"]),
   (utf32 .big, ["utf-32be", "ucs-4", "ucs-4be", "iso-10646-ucs-4"])]

/-- The coding with a name; a name that is not known stands for UTF-8. -/
def named (name : Text) : Coding :=
  match names.find? fun entry => entry.2.any (·.toList == lower name) with
  | some (c, _) => c
  | none => utf8

end Coding
end DfaTable.Markup
