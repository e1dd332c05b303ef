import DfaTable.Encoding.Chinese
import DfaTable.Encoding.Japanese
import DfaTable.Encoding.Plane.Korean

/-!
# DfaTable.Encoding.Shifting

Encodings of East Asia in which all bytes are of ASCII: marks between them tell what the bytes
behind stand for. What is written for a character depends on the marks before it, so an encoder
goes from state to state.
-/

namespace DfaTable.Encoding

/-- A set of characters that bytes may stand for. -/
inductive Charset where
  | ascii
  | roman
  | halfWidth
  | basic
  | more
  | first (e : Japanese.Edition)
  | second (e : Japanese.Edition)
  | chinese
  | korean
deriving DecidableEq, Repr

namespace Charset

/-- The last byte of the escape sequence that calls the set. -/
def mark : Charset → UInt8
  | ascii | basic => 0x42
  | roman => 0x4A
  | halfWidth => 0x49
  | more => 0x44
  | first .older => 0x4F
  | first .newer => 0x51
  | second _ => 0x50
  | chinese => 0x41
  | korean => 0x43

/-- The escape sequence that calls the set. The first sets of two bytes that there were have a
shorter one. -/
def escape : Charset → List UInt8
  | ascii | roman | halfWidth => [0x1B, 0x28]
  | basic => [0x1B, 0x24]
  | _ => [0x1B, 0x24, 0x28]

/-- The two bytes of a code, both without their first bit. -/
def sevenBits (code : Nat) : List UInt8 := Plane.bytes (code - 0x8080)

/-- The bytes of a character of the set. -/
def bytes? : Charset → Char → Option (List UInt8)
  | ascii, c => if c.toNat < 128 then some [UInt8.ofNat c.toNat] else none
  | roman, c => (Japanese.romanSign? c).map ([·])
  | halfWidth, c => (Japanese.halfWidth? c).map fun b => [b - 0x80]
  | basic, c => (Plane.japaneseBasic.code? c).map sevenBits
  | more, c => (Plane.japaneseMore.code? c).map sevenBits
  | first e, c => (e.firstCode? c).map sevenBits
  | second e, c => (e.secondCode? c).map sevenBits
  | chinese, c => (Chinese.oldCode? c).map sevenBits
  | korean, c => (Plane.korean.code? c).map sevenBits

end Charset

/-- What an encoder keeps from one character to the next. -/
structure State where
  /-- Characters that wait for what comes behind them. -/
  held : Text := []
  /-- The set that was called last; nothing is known of it behind bytes that were there before. -/
  called : Option Charset := some .ascii
  /-- The set behind the shift that was called last. -/
  calledBehind : Option Charset := none
  /-- Whether bytes stand for what is behind the shift. -/
  isShifted : Bool := false
deriving DecidableEq, Repr

/-- The encodings whose marks are escape sequences. -/
inductive Escaping where
  | jp
  | jp1
  | jp2
  | jp3
  | jp2004
  | jpExt
  | kr
deriving DecidableEq, Repr

namespace Escaping

/-- The name of the encoding in a message. -/
def name : Escaping → String
  | jp => "iso2022_jp"
  | jp1 => "iso2022_jp_1"
  | jp2 => "iso2022_jp_2"
  | jp3 => "iso2022_jp_3"
  | jp2004 => "iso2022_jp_2004"
  | jpExt => "iso2022_jp_ext"
  | kr => "iso2022_kr"

/-- The sets besides ASCII, in the order in which a character is looked for. -/
def sets : Escaping → List Charset
  | jp => [.basic, .roman]
  | jp1 => [.basic, .more, .roman]
  | jp2 => [.basic, .more, .korean, .chinese, .roman]
  | jp3 => [.basic, .first .older, .second .older]
  | jp2004 => [.basic, .first .newer, .second .newer]
  | jpExt => [.basic, .more, .roman, .halfWidth]
  | kr => [.korean]

/-- The edition of the newer planes, where they are among the sets. -/
def edition? : Escaping → Option Japanese.Edition
  | jp3 => some .older
  | jp2004 => some .newer
  | _ => none

/-- The marks before a character of a set. -/
def call (s : State) (set : Charset) : List UInt8 × State :=
  let escape := if s.called = some set then [] else set.escape ++ [set.mark]
  let back := if s.isShifted then [0x0F] else []
  (escape ++ back, { s with called := some set, isShifted := false })

/-- The marks before a character of the set behind the shift. -/
def callBehind (s : State) (set : Charset) : List UInt8 × State :=
  let escape := if s.calledBehind = some set then [] else [0x1B, 0x24, 0x29, set.mark]
  let shift := if s.isShifted then [] else [0x0E]
  (escape ++ shift, { s with calledBehind := some set, isShifted := true })

/-- The marks before a character of one of the sets of the encoding. -/
def callSet (e : Escaping) (s : State) (set : Charset) : List UInt8 × State :=
  if e = kr && set != .ascii then callBehind s set else call s set

/-- The bytes of a character that stands alone, with the marks before them. -/
def put? (e : Escaping) (s : State) (c : Char) : Option (List UInt8 × State) := do
  let (set, bytes) ← (Charset.ascii :: e.sets).findSome? fun set => (set.bytes? c).map (set, ·)
  let (marks, s) := e.callSet s set
  return (marks ++ bytes, s)

def awaits (e : Escaping) (c : Char) : Bool := e.edition?.isSome && Japanese.awaits c

/-- The bytes of two characters that are written as one. -/
def putPair? (e : Escaping) (s : State) (first second : Char) : Option (List UInt8 × State) := do
  let edition ← e.edition?
  let code ← Japanese.pairCode? edition first second
  let (marks, s) := e.callSet s (.first edition)
  return (marks ++ Charset.sevenBits code, s)

end Escaping

/-! ## Tildes as marks -/

namespace Tilde

/-- The bytes of a character: braces behind tildes enclose what is not of ASCII. -/
def put? (s : State) (c : Char) : Option (List UInt8 × State) :=
  if c.toNat < 128 then
    let back := if s.isShifted then [0x7E, 0x7D] else []
    let bytes := if c = '~' then [0x7E, 0x7E] else [UInt8.ofNat c.toNat]
    some (back ++ bytes, { s with isShifted := false })
  else
    (Chinese.oldCode? c).map fun code =>
      let shift := if s.isShifted then [] else [0x7E, 0x7B]
      (shift ++ Charset.sevenBits code, { s with isShifted := true })

end Tilde
end DfaTable.Encoding
