import DfaTable.Markup.Scan

/-!
# DfaTable.Markup.Declaration

The declaration at the beginning of a document, which may say that the document stands alone.
-/

namespace DfaTable.Markup.Declaration

open Text Scan

/-- Passes over `=` and an opening quotation mark. -/
def opening? : Scan (Option Char) := do
  let _ ← blanks
  if ← mark "=" then
    let _ ← blanks
    match ← quote? with
    | some q => return some q
    | none => fault; return none
  else
    fault
    return none

/-- Passes over the quotation mark that ends a value, and tells whether it stood here. -/
def closing (quote : Char) : Scan Bool := do
  let isClosed ← mark (String.singleton quote)
  require isClosed
  return isClosed

/-- A version number, which is a digit, a point and more digits. -/
def number? : Scan (Option Text) := do
  match (← get).rest with
  | .char a :: .char '.' :: rest =>
    if a.isDigit then
      let (digits, rest) := takeChars Char.isDigit rest
      modify ({ · with rest })
      return some (a :: '.' :: digits)
    else return none
  | .char a :: rest =>
    if a.isDigit then modify ({ · with rest })
    return none
  | _ => return none

/-- The version, of which only the first digit counts. -/
def version : Scan Unit := do
  if ← mark "version" then
    match ← opening? with
    | none => fault
    | some quote =>
      let n ← number?
      let _ ← closing quote
      require (n.any (·.head? == some '1'))
  else fault

def isEncodingChar (c : Char) : Bool := c.isAlphanum || c == '.' || c == '_' || c == '-'

/-- Passes over the name of an encoding, and tells whether there was a good one. -/
def encoding : Scan Bool := do
  let _ ← blanks
  if ← mark "encoding" then
    match ← opening? with
    | none => return false
    | some quote =>
      let isName := (← get).rest.head?.any (·.holds Char.isAlpha)
      require isName
      if isName then
        let _ ← taking (takeChars isEncodingChar)
      return (← closing quote) && isName
  else return false

/-- Whether the document stands alone. -/
def standalone : Scan Bool := do
  let _ ← blanks
  if ← mark "standalone" then
    match ← opening? with
    | none => return false
    | some quote =>
      let isAlone ← mark "yes"
      if !isAlone then require (← mark "no")
      let _ ← closing quote
      return isAlone
  else return false

/-- The symbols behind the next `>`. -/
def afterTag : Input → Input
  | [] => []
  | .char '>' :: t => t
  | _ :: t => afterTag t

/-- The end of the declaration. Without a question mark the next `>` ends it, wherever it is. -/
def ending : Scan Unit := do
  let _ ← blanks
  if ← mark "?>" then return
  fault
  modify fun p => { p with rest := afterTag p.rest }

/-- Whether the document stands alone, by a declaration of which the name has been read. -/
def read : Scan Bool := do
  let _ ← blanks
  version
  if ← mark "?>" then return false
  require (startsWithSpace (← get).rest)
  let hasEncoding ← encoding
  if hasEncoding then
    if ← mark "?>" then return false
    require (startsWithSpace (← get).rest)
  let isAlone ← standalone
  ending
  return isAlone

end DfaTable.Markup.Declaration
