import DfaTable.Markup.Name

/-!
# DfaTable.Markup.Remark

Comments and instructions, of which nothing is kept but where they end. One that holds a character
that markup cannot hold is broken off there; bytes that belong to no character are only a fault.
-/

namespace DfaTable.Markup

open Text

/-- Up to a mark of which `isSound` says whether nothing was wrong before; or to what markup cannot
hold. -/
def commentEnd (isSound : Bool) : Input → Reading Unit
  | .char '-' :: .char '-' :: .char '>' :: t => { value := (), rest := t, isSound }
  | .char '-' :: .char '-' :: t => commentEnd false (.char '-' :: t)
  | .char c :: t =>
    if isChar c then commentEnd isSound t
    else { value := (), rest := .char c :: t, isSound := false }
  | .stray :: t => commentEnd false t
  | [] => { value := (), rest := [], isSound := false }
termination_by t => t.length

/-- Whether a character of a comment is passed over as ASCII. -/
def isPlainRemark (c : Char) : Bool :=
  c == '\t' || c == '\n' || (32 ≤ c.toNat && c.toNat < 128 && c != '-')

/-- The end of a comment, of which the text holds the inside. As long as it is ASCII, two hyphens
that do not end it are passed over together. -/
def comment (isSound : Bool) : Input → Reading Unit
  | .char '-' :: .char '-' :: .char '>' :: t => { value := (), rest := t, isSound }
  | .char '-' :: .char '-' :: t => comment false t
  | .char '\r' :: .char '\n' :: t => comment isSound t
  | .char c :: t =>
    if isPlainRemark c || c = '-' then comment isSound t else commentEnd isSound (.char c :: t)
  | t => commentEnd isSound t

/-- Up to the end of an instruction. -/
def instructionEnd (isSound : Bool) : Input → Reading Unit
  | .char '?' :: .char '>' :: t => { value := (), rest := t, isSound }
  | .char c :: t =>
    if isChar c then instructionEnd isSound t
    else { value := (), rest := .char c :: t, isSound := false }
  | .stray :: t => instructionEnd false t
  | [] => { value := (), rest := [], isSound := false }

/-- Whether a name is kept for the declaration at the beginning of a document. -/
def isReserved (name : Text) : Bool := lower name == "xml".toList

/-- The end of an instruction, which begins with its name. -/
def instruction (t : Input) : Reading Unit :=
  let (name, rest) := takeName t
  if name = [] then { value := (), rest, isSound := false }
  else
    let isSound := !isReserved name && (startsWithSpace rest || startsWith "?>" rest)
    instructionEnd isSound (skipSpaces rest)

end DfaTable.Markup
