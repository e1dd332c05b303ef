import DfaTable.Text.Printable
import DfaTable.Text.Wide

/-!
# DfaTable.Text.Quoted

Texts in quotes, as messages and log lines show them. A text stands between single quotes, or
between double quotes if it holds a single quote and no double one; a backslash, the quote in use,
every unprintable character and every half of a pair are written as escapes.
-/

namespace DfaTable.Text

/-- The digit of a value below 16, in lower case. -/
def hexDigit (n : Nat) : Char := Nat.digitChar (n % 16)

/-- The last `width` hexadecimal digits of a number. -/
def hex : Nat → Nat → Text
  | 0, _ => []
  | width + 1, n => hex width (n / 16) ++ [hexDigit n]

/-- The quote around a text. -/
def quoteFor (t : Text) : Char :=
  if t.contains '\x27' && !t.contains '\x22' then '\x22' else '\x27'

/-- The escape of a character by its number, in as few digits as fit. -/
def escapeByNumber (c : Char) : Text :=
  if c.toNat < 0x100 then '\\' :: 'x' :: hex 2 c.toNat
  else if c.toNat < 0x10000 then '\\' :: 'u' :: hex 4 c.toNat
  else '\\' :: 'U' :: hex 8 c.toNat

/-- A unit of 16 bits as an escape. -/
def escapeUnit (n : Nat) : Text := '\\' :: 'u' :: hex 4 n

/-- What stands for a character between two marks `mark`. -/
def quoteChar (mark c : Char) : Text :=
  if c = mark || c = '\\' then ['\\', c]
  else if c = '\n' then ['\\', 'n']
  else if c = '\r' then ['\\', 'r']
  else if c = '\t' then ['\\', 't']
  else if isPrintable c then [c]
  else escapeByNumber c

/-- The text in quotes. -/
def quote (t : Text) : Text :=
  let mark := quoteFor t
  mark :: t.flatMap (quoteChar mark) ++ [mark]

/-- The text in quotes, or the word for a missing one. -/
def quote? : Option Text → Text
  | none => "None".toList
  | some t => quote t

end Text

namespace WideText

open Text

/-- The text with its halves as escapes. -/
def escaped (t : WideText) : Text :=
  t.flatMap fun
    | .char c => [c]
    | .half h => escapeUnit (CodePoint.halfNumber h)

/-- The text in quotes. -/
def quote (t : WideText) : Text :=
  let mark := quoteFor t.shape
  mark :: t.flatMap (quotePoint mark) ++ [mark]
where
  quotePoint (mark : Char) : CodePoint → Text
    | .char c => quoteChar mark c
    | .half h => escapeUnit (CodePoint.halfNumber h)

/-- Without halves, the quotes are those of a text. -/
theorem quote_wide (t : Text) : t.wide.quote = Text.quote t := by
  unfold quote Text.quote
  dsimp only
  rw [shape_wide, wide, List.flatMap_map]
  rfl

end WideText

namespace Text

example : quote "it's".toList = "\x22it's\x22".toList := by decide
example : quote "a\tb\\".toList = "'a\\tb\\\\'".toList := by decide
example : quote ['\x7f', '\x27', '\x22'] = "'\\x7f\\'\x22'".toList := by decide

end DfaTable.Text
