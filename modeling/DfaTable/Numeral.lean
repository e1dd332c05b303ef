import DfaTable.Text.Blank
import DfaTable.Text.Digit

/-!
# DfaTable.Numeral

Integers in decimal notation: how they are written (`ofInt`), the strict reading that identifiers
of states need (`read`) and the loose one that settings allow (`readLoose`). Main statements:
`isDigit_of_mem_ofNat` and `ofDigitChars_ofNat`.
-/

namespace DfaTable.Numeral

open Text

/-- The decimal digits of a natural number, without leading zeros. -/
def ofNat (n : Nat) : Text := Nat.toDigits 10 n

/-- The digits of the absolute value, behind a minus sign if the integer is negative. -/
def ofInt : Int → Text
  | .ofNat n => ofNat n
  | .negSucc n => '-' :: ofNat (n + 1)

/-- The longest run of digits that is converted in either direction. -/
def digitLimit : Nat := 4300

/-- Why a text is not read as an integer. -/
inductive Refusal where
  | malformed
  | tooLong (digits : Nat)
deriving DecidableEq, Repr

/-- The integer that a sign and its digits denote. -/
def value (negative : Bool) (digits : Text) : Int :=
  let n := Nat.ofDigitChars 10 digits 0
  if negative then -n else n

/-- The value of digits, unless there are too many of them; leading zeros count. -/
def bounded (negative : Bool) (digits : Text) : Except Refusal Int :=
  if digits.length > digitLimit then .error (.tooLong digits.length)
  else .ok (value negative digits)

/-- A sign and the rest: only a minus sign is taken. -/
def takeMinus : Text → Bool × Text
  | '-' :: rest => (true, rest)
  | t => (false, t)

/-- An optional minus sign and one or more ASCII digits, between blanks. -/
def read (t : Text) : Except Refusal Int :=
  let (negative, digits) := takeMinus (strip t)
  if digits.isEmpty || !digits.all Char.isDigit then .error .malformed
  else bounded negative digits

/-- The blanks allowed around a loosely written integer: all but the information separators. -/
def isMargin (c : Char) : Bool := isBlank c && !(28 ≤ c.toNat && c.toNat ≤ 31)

/-- A sign and the rest: a plus sign is taken too. -/
def takeSign : Text → Bool × Text
  | '-' :: rest => (true, rest)
  | '+' :: rest => (false, rest)
  | t => (false, t)

def isLooseDigit (c : Char) : Bool := (digitValue? c).isSome

/-- An optional sign and decimal digits of any script, with single underscores between digits,
inside a margin. Too long a run of digits is noticed before anything that follows it. -/
def readLoose (t : Text) : Except Refusal Int :=
  let (negative, body) := takeSign (trim isMargin t)
  let isPart := fun c => isLooseDigit c || c == '_'
  let groups := split '_' (body.takeWhile isPart)
  if groups.any List.isEmpty then .error .malformed
  else
    let digits := groups.flatten.filterMap fun c => (digitValue? c).map Nat.digitChar
    match bounded negative digits with
    | .error e => .error e
    | .ok n => if (body.dropWhile isPart).isEmpty then .ok n else .error .malformed

/-- The integer in decimal notation, if it is short enough to be written. -/
def write? (n : Int) : Option Text :=
  let t := ofInt n
  if (takeMinus t).2.length > digitLimit then none else some t

theorem ofNat_ne_nil (n : Nat) : ofNat n ≠ [] := Nat.toDigits_ne_nil

theorem isDigit_of_mem_ofNat {n : Nat} {c : Char} (h : c ∈ ofNat n) : c.isDigit = true :=
  Nat.isDigit_of_mem_toDigits (by decide) (by decide) h

theorem ofDigitChars_ofNat (n : Nat) : Nat.ofDigitChars 10 (ofNat n) 0 = n := by
  simp [ofNat]

end DfaTable.Numeral
