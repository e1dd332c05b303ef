import DfaTable.Markup.Symbol

/-!
# DfaTable.Markup.Extent

Whether a part of a document has come in as a whole, so that it can be read.
-/

namespace DfaTable.Markup

/-- Whether a tag ends, outside the quotation marks in it. -/
def hasTagEnd (quote : Option Char) : Input → Bool
  | [] => false
  | s :: t =>
    match quote with
    | some q => hasTagEnd (if s = .char q then none else some q) t
    | none =>
      if s = .char '>' then true
      else if s = .char '\x22' then hasTagEnd (some '\x22') t
      else if s = .char '\x27' then hasTagEnd (some '\x27') t
      else hasTagEnd none t

/-- Where the look for the end of a subset stands. -/
inductive SubsetPart where
  | plain
  | comment
  | instruction
  | quoted (mark : Char)
  /-- Behind a closing bracket, and the blanks after it. -/
  | bracket
  | blanks
deriving DecidableEq, Repr

/-- Whether the subset of a document type ends, with a closing bracket before the end of a tag. -/
def hasSubsetEnd : SubsetPart → Input → Bool
  | _, [] => false
  | .comment, .char '-' :: .char '-' :: .char '>' :: t => hasSubsetEnd .plain t
  | .comment, _ :: t => hasSubsetEnd .comment t
  | .instruction, s :: t =>
    hasSubsetEnd (if s = .char '?' then .plain else .instruction) t
  | .quoted mark, s :: t => hasSubsetEnd (if s = .char mark then .plain else .quoted mark) t
  | _, .char '<' :: .char '!' :: .char '-' :: .char '-' :: t => hasSubsetEnd .comment t
  | _, .char '<' :: .char '?' :: t => hasSubsetEnd .instruction t
  | part, s :: t =>
    if part != .plain && s = .char '>' then true
    else if part != .plain && s.holds isSpace then hasSubsetEnd .blanks t
    else if s = .char ']' then hasSubsetEnd .bracket t
    else if s = .char '\x22' then hasSubsetEnd (.quoted '\x22') t
    else if s = .char '\x27' then hasSubsetEnd (.quoted '\x27') t
    else hasSubsetEnd .plain t

/-- So much text is read before what follows it has come in. -/
def dataLimit : Nat := 300

/-- Whether text is followed by markup or a reference, or is long enough to be read without. -/
def hasDataEnd (t : Input) : Bool :=
  dataLimit ≤ byteCount (t.take dataLimit) || t.any (·.holds fun c => c == '<' || c == '&')

end DfaTable.Markup
