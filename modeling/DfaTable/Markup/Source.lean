import DfaTable.Markup.Coding
import DfaTable.Markup.Reader

/-!
# DfaTable.Markup.Source

Documents that are given as text or as bytes: how the coding of bytes is found, and the pieces in
which both are read.
-/

namespace DfaTable.Markup

open Text

/-- A document before it is read. -/
inductive Source where
  | text (t : Text)
  | bytes (b : List UInt8)

namespace Source

/-- The coding that a mark at the beginning of the bytes asks for, and what follows the mark. -/
def marked? : List UInt8 → Option (Coding × List UInt8)
  | 0xEF :: 0xBB :: 0xBF :: rest => some (.utf8, rest)
  | 0x00 :: 0x00 :: 0xFE :: 0xFF :: rest => some (.utf32 .big, rest)
  | 0xFF :: 0xFE :: 0x00 :: 0x00 :: rest => some (.utf32 .little, rest)
  | 0xFE :: 0xFF :: a :: b :: rest => some (.utf16 .big, a :: b :: rest)
  | 0xFF :: 0xFE :: a :: b :: rest => some (.utf16 .little, a :: b :: rest)
  | _ => none

def isBlankByte (c : Char) : Bool := isSpace c || c == '\x0b' || c == '\x0c'

def isQuote (c : Char) : Bool := c == '\x22' || c == '\x27'

/-- The encoding name in quotes at the beginning of a text, if an instruction ends behind it. -/
def quotedName? (t : Text) : Option Text :=
  match t with
  | mark :: rest =>
    if isQuote mark then
      match rest.dropWhile (!isQuote ·) with
      | _ :: after =>
        if (cutAround "?>".toList after).isSome then some (rest.takeWhile (!isQuote ·)) else none
      | [] => none
    else none
  | [] => none

/-- The last encoding name on a line. -/
def lastName? : Text → Option Text
  | [] => none
  | c :: rest =>
    match lastName? rest with
    | some name => some name
    | none =>
      let mark := "encoding=".toList
      if lower ((c :: rest).take mark.length) = mark then
        quotedName? ((c :: rest).drop mark.length)
      else none

/-- How much of a document is looked at for an encoding name. -/
def nameLimit : Nat := 1024

/-- The encoding name in an instruction at the beginning of a document, which has to stand on the
line where the instruction begins. -/
def declaredName? (bytes : List UInt8) : Option Text :=
  let t := (bytes.take nameLimit).map fun b => Char.ofNat b.toNat
  match "<?".toList.isPrefixOf? (t.dropWhile isBlankByte) with
  | some rest => lastName? (rest.takeWhile (· != '\n'))
  | none => none

/-- A mark decides before a declaration, and without either the bytes are UTF-8. -/
def codingOf (bytes : List UInt8) : Coding × List UInt8 :=
  match marked? bytes with
  | some found => found
  | none => (((declaredName? bytes).map Coding.named).getD .utf8, bytes)

/-- The size of the pieces in which documents are read. -/
def pieceSize : Nat := 512

/-- The pieces of a list, each of the given size but the last one. -/
def inPieces {α : Type} (size : Nat) (l : List α) : List (List α) :=
  if _h : l = [] ∨ size = 0 then [] else l.take size :: inPieces size (l.drop size)
termination_by l.length
decreasing_by
  have : l.length ≠ 0 := fun hl => _h (.inl (List.eq_nil_of_length_eq_zero hl))
  have : size ≠ 0 := fun hs => _h (.inr hs)
  rw [List.length_drop]
  omega

/-- A list without a last entry that has to wait for the next one, and that entry. -/
def holdBack {α : Type} (waits : α → Bool) (l : List α) : List α × List α :=
  if l.getLast?.any waits then (l.dropLast, l.getLast?.toList) else (l, [])

/-- Pieces of text; a carriage return at the end of one is read with the next one. -/
def feedText (held : Text) : List Text → Feed
  | [] => { pieces := [], last? := some (inputOf held) }
  | piece :: pieces =>
    let (now, later) := holdBack (· == '\r') (held ++ piece)
    let more := feedText later pieces
    { more with pieces := inputOf now :: more.pieces }

/-- Pieces of bytes, as far as they have a meaning. -/
def feedBytes (c : Coding) (waiting : List UInt8) : List (List UInt8) → Feed
  | [] => { pieces := [], last? := (c.symbols? waiting).map Prod.fst }
  | piece :: pieces =>
    let (now, later) := holdBack (· == 0x0D) (waiting ++ piece)
    match c.symbols? now with
    | none => { pieces := [], last? := none }
    | some (symbols, cut) =>
      let more := feedBytes c (cut ++ later) pieces
      { more with pieces := symbols :: more.pieces }

/-- A document as it is read. A mark before it is left out, and a declared encoding counts only for
bytes. -/
def feed : Source → Feed
  | .text ('\uFEFF' :: t) => feedText [] (inPieces pieceSize t)
  | .text t => feedText [] (inPieces pieceSize t)
  | .bytes b =>
    let (c, rest) := codingOf b
    feedBytes c [] (inPieces pieceSize rest)

end Source

/-- The nodes of a document. -/
def Forest.ofSource (s : Source) : Forest := .ofFeed s.feed

end DfaTable.Markup
