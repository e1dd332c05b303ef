import DfaTable.Yaml.Object

/-!
# DfaTable.Yaml

The objects that a YAML text stands for. A text is looked at in blocks, and a block with a
character that may not stand in a text cannot be looked into at all.
-/

namespace DfaTable.Yaml

/-- A character that may stand in a YAML text. -/
def isReadable (c : Char) : Bool :=
  let n := c.toNat
  n == 9 || n == 10 || n == 13 || (32 ≤ n && n ≤ 126) || n == 0x85 ||
    (0xA0 ≤ n && n ≤ 0xFFFD) || 0x10000 ≤ n

/-- How many characters are looked at together. -/
def blockSize : Nat := 4096

/-- The text before the first block with an unreadable character, and what is behind it. -/
def readableFrom (cut : Option Failure) : Nat → Text → Text × Option Failure
  | 0, t => (t, cut)
  | fuel + 1, t =>
    if t.isEmpty then ([], cut)
    else if !(t.take blockSize).all isReadable then ([], some .malformed)
    else
      let (more, cut) := readableFrom cut fuel (t.drop blockSize)
      (t.take blockSize ++ more, cut)

/-- A place at the beginning of a text that is cut off where `cut` says; the first two blocks are
looked at together. -/
def Cursor.ofText (t : Text) (cut : Option Failure) : Cursor :=
  let first := 2 * blockSize
  if cut.isSome && t.length < first then { rest := [], cut }
  else if !(t.take first).all isReadable then { rest := [], cut := some .malformed }
  else
    let (more, cut) := readableFrom cut t.length (t.drop first)
    { rest := t.take first ++ more, cut }

/-- The objects of a text that is cut off where `cut` says; a text without a document stands for
nothing. -/
def read (t : Text) (cut : Option Failure) : Except Failure Graph := do
  match ← Document.ofTokens? (Token.ofCursor (Cursor.ofText t cut)) with
  | none => return { objects := #[some (.leaf .null)], root := 0 }
  | some d => Graph.ofDocument? d

end DfaTable.Yaml
