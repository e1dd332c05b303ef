import DfaTable.Fault

/-!
# DfaTable.Yaml.Cursor

A place in a YAML text, and how a text is read from there: a `Reader` looks at characters ahead
(`look`) and moves over them (`skip`). A text may be cut off; whoever looks beyond a cut meets the
failure that is behind it.
-/

namespace DfaTable.Yaml

/-- Why a text is not read as a value: it is not well formed, or one of its parts breaks the run
off. -/
inductive Failure where
  | malformed
  | fault (f : Fault)
deriving Repr

/-- What is ahead, and the line, column and index of the next character. -/
structure Cursor where
  rest : Text
  /-- What is behind the rest if the text is cut off there. -/
  cut : Option Failure := none
  line : Nat := 0
  column : Nat := 0
  index : Nat := 0

/-- Stands for the end of the text, where no character is. -/
def endMark : Char := '\x00'

def isBreak (c : Char) : Bool := c == '\n' || c == '\x85' || c == '\u2028' || c == '\u2029'

def isEndOrBreak (c : Char) : Bool := c == endMark || isBreak c

def isEndOrSpace (c : Char) : Bool := c == ' ' || isEndOrBreak c

def isEndOrBlank (c : Char) : Bool := c == '\t' || isEndOrSpace c

def isTabOrSpace (c : Char) : Bool := c == ' ' || c == '\t'

def isWordChar (c : Char) : Bool := c.isAlphanum || c == '-' || c == '_'

def isHexDigit (c : Char) : Bool :=
  c.isDigit || ('a' ≤ c && c ≤ 'f') || ('A' ≤ c && c ≤ 'F')

def hexNumber (t : Text) : Nat :=
  t.foldl (fun n c =>
    n * 16 + if c.isDigit then c.toNat - 48 else c.toLower.toNat - 87) 0

namespace Cursor

/-- The place behind the next character. A byte order mark takes no column. -/
def next (c : Cursor) : Cursor :=
  match c.rest with
  | [] => c
  | ch :: rest =>
    if isBreak ch then { c with rest, line := c.line + 1, column := 0, index := c.index + 1 }
    else if ch = '\uFEFF' then { c with rest, index := c.index + 1 }
    else { c with rest, column := c.column + 1, index := c.index + 1 }

def skip (c : Cursor) : Nat → Cursor
  | 0 => c
  | n + 1 => c.next.skip n

end Cursor

/-- Reads from a place on. -/
abbrev Reader := StateT Cursor (Except Failure)

namespace Reader

def refuse {α : Type} : Reader α := throw .malformed

/-- The character `k` places ahead, or the end mark. -/
def look (k : Nat) : Reader Char := fun c =>
  match c.rest.drop k, c.cut with
  | ch :: _, _ => .ok (ch, c)
  | [], none => .ok (endMark, c)
  | [], some f => .error f

/-- Moves over characters; the one behind them is looked at. -/
def skip (n : Nat) : Reader Unit := do
  let _ ← look n
  modify (·.skip n)

def column : Reader Nat := return (← get).column

/-- How many characters are ahead, and one more: a bound for what steps over characters. -/
def bound : Reader Nat := return (← get).rest.length + 1

/-- Moves over the longest run of characters that satisfy `p`. -/
def span (p : Char → Bool) : Reader Text := do
  let run := (← get).rest.takeWhile p
  skip run.length
  return run

def skipWhile (p : Char → Bool) : Reader Unit := do
  let _ ← span p

def skipSpaces : Reader Unit := skipWhile (· == ' ')

/-- Moves over spaces, at most up to a column. -/
def skipIndent (upTo : Nat) : Reader Unit := do
  let c ← get
  skip ((c.rest.take (upTo - c.column)).takeWhile (· == ' ')).length

/-- Moves over a comment, up to the end of the line. -/
def skipComment : Reader Unit := do
  if (← look 0) == '#' then skipWhile (!isBreak ·)

/-- Moves over a line break, and gives the character that it stands for. -/
def lineBreak? : Reader (Option Char) := do
  let ch ← look 0
  if isBreak ch then
    skip 1
    return some (if ch = '\x85' then '\n' else ch)
  else return none

/-- Whether a line that separates documents starts here. -/
def atSeparator : Reader Bool := do
  let _ ← look 2
  let mark := (← get).rest.take 3
  if mark == "---".toList || mark == "...".toList then return isEndOrBlank (← look 3)
  else return false

end Reader
end DfaTable.Yaml
