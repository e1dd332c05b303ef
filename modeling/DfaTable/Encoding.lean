import DfaTable.Encoding.Domain
import DfaTable.Encoding.DoubleByte
import DfaTable.Encoding.Page
import DfaTable.Encoding.Shifting
import DfaTable.Encoding.Unicode
import DfaTable.Encoding.Utf8
import DfaTable.Numeral

/-!
# DfaTable.Encoding

The encodings of text files. A file is written by an encoder, which takes one character after the
other and goes from state to state (`step`): it may keep a character back until it knows what comes
behind it. Two encodings write every text on its own. What an encoder still holds when a file ends
is lost.
-/

namespace DfaTable

open Text

inductive Encoding where
  | utf8 (marked : Bool)
  | utf7
  | utf16 (order : Encoding.ByteOrder) (marked : Bool)
  | utf32 (order : Encoding.ByteOrder) (marked : Bool)
  | latin1
  | ascii
  | page (p : Encoding.Page)
  | doubleByte (d : Encoding.DoubleByte)
  | escaping (e : Encoding.Escaping)
  | tilde
  /-- ASCII, with escapes for everything else. -/
  | escapes
  /-- Characters of one byte, with escapes for everything else. -/
  | rawEscapes
  | punycode
  | domain
  /-- Has a name but writes no text. -/
  | undefined
deriving DecidableEq, Repr

namespace Encoding

def below (limit : Nat) (c : Char) : Option (List UInt8) :=
  if c.toNat < limit then some [UInt8.ofNat c.toNat] else none

/-- The bytes of a character, where these are always the same. -/
def charBytes? (e : Encoding) (c : Char) : Option (List UInt8) :=
  match e with
  | .utf8 _ => some (Utf8.encodeChar c)
  | .utf16 order _ => some ((units c).flatMap (pair order))
  | .utf32 order _ => some (quad order c.toNat)
  | .latin1 => below 256 c
  | .ascii => below 128 c
  | .page p => (p.byte? c).map ([·])
  | .doubleByte d => d.charBytes? c
  | .escapes => some (asciiBytes (escapeText c))
  | .rawEscapes => some (rawEscapeBytes c)
  | .utf7 | .escaping _ | .tilde | .punycode | .domain | .undefined => none

/-- The bytes of a character that stands alone. -/
def put? (e : Encoding) (s : State) (c : Char) : Option (List UInt8 × State) :=
  match e with
  | .escaping x => x.put? s c
  | .tilde => Tilde.put? s c
  | e => (e.charBytes? c).map (·, s)

/-- Whether a character may be the first of two that are written as one. -/
def awaits : Encoding → Char → Bool
  | .doubleByte d, c => d.awaits c
  | .escaping x, c => x.awaits c
  | _, _ => false

/-- The bytes of two characters that are written as one. -/
def putPair? (e : Encoding) (s : State) (first second : Char) : Option (List UInt8 × State) :=
  match e with
  | .doubleByte d => (d.pairBytes? first second).map (·, s)
  | .escaping x => x.putPair? s first second
  | _ => none

/-- Takes in a character behind which nothing is held: it is written, or held itself. -/
def take? (e : Encoding) (s : State) (c : Char) : Option (List UInt8 × State) :=
  if e.awaits c then some ([], { s with held := [c] }) else e.put? s c

/-- Takes in a character behind the one that is held, if there is one. -/
def takeBehind? (e : Encoding) (s : State) (c : Char) : Option (List UInt8 × State) :=
  match s.held with
  | [] => e.take? s c
  | p :: _ =>
    let free := { s with held := [] }
    match e.putPair? free p c with
    | some written => some written
    | none => do
      let (bytes, s) ← e.put? free p
      let (more, s) ← e.take? s c
      return (bytes ++ more, s)

/-- Why a character is not taken in. -/
inductive Flaw where
  | character
  | label (f : Domain.Flaw)
deriving DecidableEq, Repr

/-- Takes in a character: a label of a host is held up to the dot behind it. -/
def step (e : Encoding) (s : State) (c : Char) : Except Flaw (List UInt8 × State) :=
  match e with
  | .domain =>
    if Domain.isDot c then
      match Domain.written s.held with
      | .ok label => .ok (asciiBytes (label ++ ['.']), { s with held := [] })
      | .error f => .error (.label f)
    else .ok ([], { s with held := s.held ++ [c] })
  | e =>
    match e.takeBehind? s c with
    | some written => .ok written
    | none => .error .character

/-- The name of an encoding in a message, and why it does not write a character. -/
def blame : Encoding → Text × Text
  | .latin1 => ("latin-1".toList, "ordinal not in range(256)".toList)
  | .ascii => ("ascii".toList, "ordinal not in range(128)".toList)
  | .doubleByte d => (d.name.toList, "illegal multibyte sequence".toList)
  | .escaping x => (x.name.toList, "illegal multibyte sequence".toList)
  | .tilde => ("hz".toList, "illegal multibyte sequence".toList)
  | .utf8 _ => ("utf-8".toList, "surrogates not allowed".toList)
  | _ => ("charmap".toList, "character maps to <undefined>".toList)

/-- Whether all characters of a run that cannot be written are blamed, or only its first. -/
def blamesRun : Encoding → Bool
  | .doubleByte _ | .escaping _ | .tilde => false
  | _ => true

/-- Why a text is not written. -/
inductive Unwritable where
  /-- The run of characters from a position on that an encoding has no bytes for. -/
  | characters (e : Encoding) (position : Nat) (first : Char) (count : Nat)
  | label (f : Domain.Flaw)
  | undefined
deriving DecidableEq, Repr

/-- The message about a run of code points that an encoding has no bytes for, of which the first
is `shown`. -/
def refusal (e : Encoding) (position : Nat) (shown : Text) (count : Nat) : Text :=
  let (name, reason) := e.blame
  let place :=
    if count = 1 then
      "character ".toList ++ '\x27' :: shown ++ "' in position ".toList ++ Numeral.ofNat position
    else
      "characters in position ".toList ++ Numeral.ofNat position ++ '-' ::
        Numeral.ofNat (position + count - 1)
  '\x27' :: name ++ "' codec can't encode ".toList ++ place ++ ": ".toList ++ reason

namespace Unwritable

def message : Unwritable → Text
  | .characters e position first count => e.refusal position (escapeText first) count
  | .label f => f.message
  | .undefined => "undefined encoding".toList

end Unwritable

/-- The mark at the beginning of a file. -/
def mark : Encoding → List UInt8
  | .utf8 true => [0xEF, 0xBB, 0xBF]
  | .utf16 order true => pair order 0xFEFF
  | .utf32 order true => quad order 0xFEFF
  | _ => []

/-- The bytes of a text written character by character, and the state behind it; `position` counts
what came before. -/
def encodeFrom (e : Encoding) (position : Nat) (s : State) :
    Text → Except Unwritable (List UInt8 × State)
  | [] => .ok ([], s)
  | c :: rest =>
    match e.step s c with
    | .ok (bytes, s) =>
      (encodeFrom e (position + 1) s rest).map fun (more, s) => (bytes ++ more, s)
    | .error (.label f) => .error (.label f)
    | .error .character =>
      let more := if e.blamesRun then rest.takeWhile fun c => (e.charBytes? c).isNone else []
      .error (.characters e position c (more.length + 1))

/-- The bytes of a text, without a mark, and the state behind it. -/
def encode (e : Encoding) (s : State) (t : Text) : Except Unwritable (List UInt8 × State) :=
  match e with
  | .utf7 => .ok (asciiBytes (utf7Text t), s)
  | .punycode => .ok (asciiBytes (Punycode.encode t), s)
  | .undefined => .error .undefined
  | e => e.encodeFrom s.held.length s t

/-- An encoder on its way through a file. -/
structure Stream where
  /-- Whether nothing has been written to the file yet. -/
  isBeginning : Bool
  state : State
deriving DecidableEq, Repr

/-- The encoder of a file that has just been opened at its end. -/
def Stream.opened (isEmpty : Bool) : Stream :=
  if isEmpty then ⟨true, {}⟩ else ⟨false, { called := none }⟩

/-- The bytes of a text with the mark, if it is the first one of a file. -/
def write (e : Encoding) (f : Stream) (t : Text) : Except Unwritable (List UInt8 × Stream) :=
  (e.encode f.state t).map fun (bytes, after) =>
    ((if f.isBeginning then e.mark else []) ++ bytes, ⟨false, after⟩)

/-- The bytes of texts that are written one after the other, up to the first one that cannot be
written, and why it cannot. -/
def encodeAll (e : Encoding) (f : Stream) : List Text → List UInt8 × Option Unwritable
  | [] => ([], none)
  | t :: rest =>
    match e.write f t with
    | .error u => ([], some u)
    | .ok (bytes, after) =>
      let (more, trouble) := encodeAll e after rest
      (bytes ++ more, trouble)

end Encoding
end DfaTable
