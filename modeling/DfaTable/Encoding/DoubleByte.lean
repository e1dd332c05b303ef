import DfaTable.Encoding.Chinese
import DfaTable.Encoding.Japanese
import DfaTable.Encoding.Korean

/-!
# DfaTable.Encoding.DoubleByte

The encodings of East Asia in which ASCII is written as it is, or nearly so, and most other
characters with two bytes.
-/

namespace DfaTable.Encoding

inductive DoubleByte where
  | big5
  | big5hkscs
  | cp932
  | cp949
  | cp950
  | eucJp
  | eucJisx (e : Japanese.Edition)
  | eucKr
  | gb18030
  | gb2312
  | gbk
  | johab
  | shiftJis
  | shiftJisx (e : Japanese.Edition)
deriving DecidableEq, Repr

namespace DoubleByte

/-- The name of the encoding in a message. -/
def name : DoubleByte → String
  | big5 => "big5"
  | big5hkscs => "big5hkscs"
  | cp932 => "cp932"
  | cp949 => "cp949"
  | cp950 => "cp950"
  | eucJp => "euc_jp"
  | eucJisx .older => "euc_jisx0213"
  | eucJisx .newer => "euc_jis_2004"
  | eucKr => "euc_kr"
  | gb18030 => "gb18030"
  | gb2312 => "gb2312"
  | gbk => "gbk"
  | johab => "johab"
  | shiftJis => "shift_jis"
  | shiftJisx .older => "shift_jisx0213"
  | shiftJisx .newer => "shift_jis_2004"

/-- Whether the ASCII characters stand for themselves; two of them do not where Japanese rows are
shifted over both of the newer planes. -/
def isAscii (d : DoubleByte) (c : Char) : Bool :=
  c.toNat < 128 &&
    match d with
    | shiftJisx _ => c != '\\' && c != '~'
    | _ => true

/-- The bytes of a character that stands alone. -/
def charBytes? (d : DoubleByte) (c : Char) : Option (List UInt8) :=
  if d.isAscii c then some [UInt8.ofNat c.toNat]
  else
    match d with
    | big5 => (Plane.traditional.code? c).map Plane.bytes
    | big5hkscs => (Chinese.hongKongCode? c).map Plane.bytes
    | cp932 => Japanese.cp932Bytes? c
    | cp949 => Korean.cp949Bytes? c
    | cp950 => (Chinese.cp950Code? c).map Plane.bytes
    | eucJp => Japanese.eucJpBytes? c
    | eucJisx e => Japanese.eucJisBytes? e c
    | eucKr => Korean.eucKrBytes? c
    | gb18030 => some (Chinese.gb18030Bytes c)
    | gb2312 => (Chinese.oldCode? c).map Plane.bytes
    | gbk => (Plane.simplified.code? c).map Plane.bytes
    | johab => Korean.johabBytes? c
    | shiftJis => Japanese.shiftJisBytes? c
    | shiftJisx e => Japanese.shiftJisxBytes? e c

/-- Whether a character may be the first of two that are written as one. -/
def awaits : DoubleByte → Char → Bool
  | big5hkscs, c => c = 'Ê' || c = 'ê'
  | eucJisx _, c | shiftJisx _, c => Japanese.awaits c
  | _, _ => false

/-- The bytes of two characters that are written as one. -/
def pairBytes? (d : DoubleByte) (first second : Char) : Option (List UInt8) :=
  match d with
  | big5hkscs => (pairCode? Chinese.hongKongPairs first second).map Plane.bytes
  | eucJisx e => (Japanese.pairCode? e first second).map Plane.bytes
  | shiftJisx e => (Japanese.pairCode? e first second).map Japanese.shiftedCode
  | _ => none

end DoubleByte
end DfaTable.Encoding
