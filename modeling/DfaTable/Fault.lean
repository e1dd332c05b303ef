import DfaTable.Calendar
import DfaTable.Encoding
import DfaTable.Files.Trouble
import DfaTable.Value

/-!
# DfaTable.Fault

What breaks a run off. A fault is not part of any answer; whoever started the run gets its
message.
-/

namespace DfaTable

open Text

inductive Fault where
  /-- A text with so many digits is too long to be read as a number. -/
  | tooManyDigits (digits : Nat)
  /-- A number is too long to be written. -/
  | tooLongToWrite
  /-- An infinite number stands where an integer is needed. -/
  | infinite
  /-- An integer lies beyond all real numbers. -/
  | tooLarge
  /-- A text that has to hold digits of a base does not. -/
  | badDigits (base : Nat) (found : WideText)
  /-- A text that has to hold a real number does not. -/
  | badReal (found : WideText)
  /-- A text that has to be one of some words is not. -/
  | badWord (found : WideText)
  /-- A text that has to begin with a digit is at its end. -/
  | missingDigit
  /-- A text that has to be a date is not. -/
  | noDate
  /-- Parts of a node stand where a date has to. -/
  | partsForDate
  /-- A number stands for no character. -/
  | badCharacter
  /-- The number of a character is not even one of a machine. -/
  | hugeCharacter
  /-- The text of a node is looked for in the node itself. -/
  | endless
  | calendar (p : Calendar.Problem)
  | undecodable (b : Encoding.Utf8.Broken)
  | unwritable (u : Encoding.Unwritable)
  /-- A name with halves of pairs was looked up. -/
  | halves (name : WideText)
  | unknownEncoding (name : Text)
  /-- The encoding is a transformation that files cannot be written in. -/
  | noTextEncoding (name : Text)
  /-- The undefined encoding was tried out under one of its names. -/
  | undefinedEncoding (name : Text)
  /-- A name with a null character was looked up. -/
  | nullCharacter
  /-- A path with a null character was opened. -/
  | nullByte
  | file (t : Files.Trouble)
  /-- A file could not be replaced as a whole. -/
  | replacement (path cause : Text)
  /-- Whoever wrote to a file gave up. -/
  | givenUp (message : Text)
deriving Repr

namespace Fault

def calendarMessage : Calendar.Problem → Text
  | .year n => "year ".toList ++ Numeral.ofNat n ++ " is out of range".toList
  | .month => "month must be in 1..12".toList
  | .day => "day is out of range for month".toList
  | .hour => "hour must be in 0..23".toList
  | .minute => "minute must be in 0..59".toList
  | .second => "second must be in 0..59".toList
  | .offset n =>
    "offset must be a timedelta strictly between -timedelta(hours=24) and ".toList ++
      "timedelta(hours=24), not ".toList ++ Value.quoteOffset.quoteSpan (n * 60) ++ ['.']

def limitText : Text := "Exceeds the limit (4300 digits) for integer string conversion".toList

def limitHint : Text := "; use sys.set_int_max_str_digits() to increase the limit".toList

def undecodableMessage (b : Encoding.Utf8.Broken) : Text :=
  let place :=
    if b.firstAt = b.lastAt then
      "byte 0x".toList ++ hex 2 b.byte.toNat ++ " in position ".toList ++
        Numeral.ofNat b.firstAt
    else
      "bytes in position ".toList ++ Numeral.ofNat b.firstAt ++ '-' :: Numeral.ofNat b.lastAt
  "'utf-8' codec can't decode ".toList ++ place ++ ':' :: ' ' :: b.flaw.message

/-- The halves of a name that come first are what cannot be written of it. -/
def halvesMessage (name : WideText) : Text :=
  let position := (name.takeWhile (!·.isHalf)).length
  let halves := (name.drop position).takeWhile CodePoint.isHalf
  (Encoding.utf8 false).refusal position (WideText.escaped (halves.take 1)) halves.length

/-- A quoted text that is cut to the length at which messages show it. -/
def shortQuote (t : WideText) : Text := t.quote.take 200

def message : Fault → Text
  | .tooManyDigits n =>
    limitText ++ ": value has ".toList ++ Numeral.ofNat n ++ " digits".toList ++ limitHint
  | .tooLongToWrite => limitText ++ limitHint
  | .infinite => "cannot convert float infinity to integer".toList
  | .tooLarge => "int too large to convert to float".toList
  | .badDigits base found =>
    "invalid literal for int() with base ".toList ++ Numeral.ofNat base ++ ':' :: ' ' ::
      shortQuote found
  | .badReal found => "could not convert string to float: ".toList ++ found.quote
  | .badWord found => found.quote
  | .missingDigit => "string index out of range".toList
  | .noDate => "'NoneType' object has no attribute 'groupdict'".toList
  | .partsForDate => "expected string or bytes-like object, got 'list'".toList
  | .badCharacter => "chr() arg not in range(0x110000)".toList
  | .hugeCharacter => "Python int too large to convert to C int".toList
  | .endless => "maximum recursion depth exceeded".toList
  | .calendar p => calendarMessage p
  | .undecodable b => undecodableMessage b
  | .unwritable u => u.message
  | .halves name => halvesMessage name
  | .unknownEncoding name => "unknown encoding: ".toList ++ name
  | .noTextEncoding name =>
    quote name ++ " is not a text encoding; use codecs.open() to handle arbitrary codecs".toList
  | .undefinedEncoding name =>
    "encoding with '".toList ++ name ++
      "' codec failed (UnicodeError: undefined encoding)".toList
  | .nullCharacter => "embedded null character".toList
  | .nullByte => "embedded null byte".toList
  | .file t => t.message
  | .replacement path cause =>
    "Failed to atomically write ".toList ++ path ++ ':' :: ' ' :: cause
  | .givenUp message => message

end Fault
end DfaTable
