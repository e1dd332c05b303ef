import DfaTable.Encoding.Utf8
import DfaTable.Real

/-!
# DfaTable.Files.Reading

Text files are decoded piece by piece while their text is asked for in blocks. What is wrong in a
piece comes to light when text of it is asked for, and it is located in that piece.
-/

namespace DfaTable

/-- All ways to end a line become one. -/
def Text.unifyLineEnds : Text → Text
  | [] => []
  | '\r' :: '\n' :: rest => '\n' :: unifyLineEnds rest
  | '\r' :: rest => '\n' :: unifyLineEnds rest
  | c :: rest => c :: unifyLineEnds rest

namespace Files

/-- How many characters are asked for at once. -/
def blockSize : Nat := 4096

/-- How many bytes are decoded at once, at least. -/
def pieceSize : Nat := 8192

/-- Whether bytes are the beginning of a three-byte sequence for half of a pair. They are found
wrong when the third byte is there. -/
def isHalfBegun : List UInt8 → Bool
  | [lead, next] => lead == 0xED && 0xA0 ≤ next.toNat && next.toNat ≤ 0xBF
  | _ => false

/-- The text of a piece, and the bytes at its end that may be the beginning of a character. -/
def decodePiece (position : Nat) : List UInt8 → Except Encoding.Utf8.Broken (Text × List UInt8)
  | [] => .ok ([], [])
  | b :: rest =>
    match Encoding.Utf8.first b rest with
    | .ok (c, n) =>
      (decodePiece (position + n + 1) (rest.drop n)).map fun (t, tail) => (c :: t, tail)
    | .error (.ending, _) => .ok ([], b :: rest)
    | .error (flaw, n) =>
      if isHalfBegun (b :: rest) then .ok ([], b :: rest)
      else .error ⟨flaw, position, position + n, b⟩
termination_by bytes => bytes.length
decreasing_by exact Nat.lt_succ_of_le (List.drop_sublist _ _).length_le

/-- What is known after some pieces. -/
structure Progress where
  /-- How many characters were decoded. -/
  decoded : Nat := 0
  /-- The beginning of a character at the end of the last piece. -/
  tail : List UInt8 := []
  /-- Whether the last piece ended in a carriage return, which may belong to a line end. -/
  endsInReturn : Bool := false
  /-- The number of bytes for each character of the last piece. -/
  ratio : Float := 0

/-- The characters that are still missing in the block that is asked for. -/
def Progress.missing (p : Progress) : Nat := blockSize - p.decoded % blockSize

/-- The size of the next piece: large enough for what is missing, if its characters take as many
bytes as those of the last piece. -/
def Progress.nextSize (p : Progress) : Nat :=
  max pieceSize (p.ratio * p.missing.toFloat).toUInt64.toNat

theorem Progress.nextSize_pos (p : Progress) : 0 < p.nextSize :=
  Nat.lt_of_lt_of_le (by decide) (Nat.le_max_left pieceSize _)

/-- What a piece of `size` bytes adds: its text with line ends of one kind, without a carriage
return at its end, and the progress behind it. -/
def Progress.add (p : Progress) (size : Nat) (t : Text) (tail : List UInt8) : Progress × Text :=
  let t := if p.endsInReturn && !t.isEmpty then '\r' :: t else t
  let endsInReturn := t.getLast? == some '\r'
  let lines := Text.unifyLineEnds (if endsInReturn then t.dropLast else t)
  ({ decoded := p.decoded + lines.length
     tail
     endsInReturn := endsInReturn || (t.isEmpty && p.endsInReturn)
     ratio := if lines.isEmpty then 0 else size.toFloat / lines.length.toFloat }, lines)

/-- The text that can be read, and what is wrong behind it. -/
structure Reading where
  text : Text
  flaw : Option Encoding.Utf8.Broken
deriving Repr

/-- The text of the pieces from here on up to a flaw. A character that the end of the file cuts off
is looked at by itself. -/
def readPieces (p : Progress) : List UInt8 → Reading
  | [] =>
    match p.tail with
    | [] => { text := if p.endsInReturn then ['\n'] else [], flaw := none }
    | b :: rest =>
      match Encoding.Utf8.first b rest with
      | .error (flaw, n) => { text := [], flaw := some ⟨flaw, 0, n, b⟩ }
      | .ok _ => { text := [], flaw := none }
  | b :: rest =>
    let piece := (b :: rest).take p.nextSize
    match decodePiece 0 (p.tail ++ piece) with
    | .error flaw => { text := [], flaw := some flaw }
    | .ok (t, tail) =>
      let (p', lines) := p.add piece.length t tail
      let more := readPieces p' ((b :: rest).drop p.nextSize)
      { more with text := lines ++ more.text }
termination_by bytes => bytes.length
decreasing_by
  rw [List.length_drop]
  exact Nat.sub_lt (Nat.succ_pos _) p.nextSize_pos

/-- The text of a file. A block of it that meets a flaw is lost as a whole. -/
def readText (bytes : List UInt8) : Reading :=
  let r := readPieces {} bytes
  if r.flaw.isSome then
    { r with text := r.text.take (r.text.length / blockSize * blockSize) }
  else r

end Files
end DfaTable
