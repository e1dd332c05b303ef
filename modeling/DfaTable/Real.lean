import DfaTable.Numeral

/-!
# DfaTable.Real

Binary floating-point numbers of 64 bits: their exact value as a fraction, the integer they are
truncated to, and their text with the fewest digits that read back.
-/

namespace DfaTable.Real

/-- What the bits of a number stand for. -/
inductive Kind where
  | finite (mantissa : Nat) (exponent : Int)
  | infinite
  | notANumber
deriving DecidableEq, Repr

/-- The sign bit. -/
def isNegative (x : Float) : Bool := Nat.pow 2 63 ≤ x.toBits.toNat

/-- The magnitude: a finite one is `mantissa * 2 ^ exponent`. -/
def kind (x : Float) : Kind :=
  let bits := x.toBits.toNat
  let fraction : Nat := bits % Nat.pow 2 52
  let biased : Nat := bits / Nat.pow 2 52 % Nat.pow 2 11
  if biased = 2047 then if fraction = 0 then .infinite else .notANumber
  else if biased = 0 then .finite fraction (-1074)
  else .finite (fraction + Nat.pow 2 52) (biased - 1075)

/-- `n * b ^ e` as a numerator and a denominator. -/
def scale (n b : Nat) : Int → Nat × Nat
  | .ofNat e => (n * Nat.pow b e, 1)
  | .negSucc e => (n, Nat.pow b (e + 1))

/-- Why a number has no integer part. -/
inductive NoInteger where
  | infinite
  | notANumber
deriving DecidableEq, Repr

/-- The integer part, toward zero. -/
def truncate (x : Float) : Except NoInteger Int :=
  match kind x with
  | .infinite => .error .infinite
  | .notANumber => .error .notANumber
  | .finite m e =>
    let (num, den) := scale m 2 e
    let n := num / den
    .ok (if isNegative x then -n else n)

/-- The integer that a number is equal to. -/
def integer? (x : Float) : Option Int :=
  match kind x with
  | .finite m e =>
    let (num, den) := scale m 2 e
    if num % den = 0 then some (if isNegative x then -(num / den : Nat) else (num / den : Nat))
    else none
  | _ => none

/-- A fraction `value / unit` with the ends of the interval of reals that round to it; the ends
belong to the interval if `closed` holds. -/
structure Rounding where
  low : Nat
  value : Nat
  high : Nat
  unit : Nat
  closed : Bool

/-- The reals nearer to `m * 2 ^ e` than to its neighbours. The gap below a power of two is half
as wide as the one above it, but at the smallest exponent both are equal. -/
def rounding (m : Nat) (e : Int) : Rounding :=
  let below := if m = Nat.pow 2 52 && e > -1074 then 1 else 2
  let (up, unit) := scale 1 2 (e - 2)
  { low := (4 * m - below) * up, value := 4 * m * up, high := (4 * m + 2) * up, unit,
    closed := m % 2 == 0 }

/-- Whether `d * 10 ^ s` rounds to the value. -/
def Rounding.holds (r : Rounding) (d : Nat) (s : Int) : Bool :=
  let (num, den) := scale d 10 s
  let x := num * r.unit
  let low := r.low * den
  let high := r.high * den
  if r.closed then low ≤ x && x ≤ high else low < x && x < high

/-- The number of digits before the point; for a value below one, minus the zeros after it. -/
def Rounding.magnitude (r : Rounding) : Int :=
  if r.unit ≤ r.value then (Nat.toDigits 10 (r.value / r.unit)).length
  else
    let leading := (List.range 400).find? fun j => r.unit ≤ r.value * Nat.pow 10 (j + 1)
    Int.negOfNat (leading.getD 0)

/-- The digits and the scale of the better neighbour of the value on the grid of numbers with
`digits` digits, if one of them rounds to it. Between two equally near ones the even one wins. -/
def Rounding.onGrid (r : Rounding) (digits : Nat) : Option (Nat × Int) :=
  let s := r.magnitude - digits
  let (up, down) := scale 1 10 s
  let d := r.value * down / (r.unit * up)
  let twice := 2 * r.value * down
  let middle := (2 * d + 1) * r.unit * up
  let nearer := if twice < middle || (twice == middle && d % 2 == 0) then d else d + 1
  let other := if nearer = d then d + 1 else d
  if r.holds nearer s then some (nearer, s)
  else if r.holds other s then some (other, s)
  else none

/-- The shortest digits that read back, and their scale. -/
def shortest (m : Nat) (e : Int) : Nat × Int :=
  let r := rounding m e
  ((List.range 17).findSome? fun n => r.onGrid (n + 1)).getD (0, 0)

/-- Digits with the point after the first `point` of them, or zeros to the left of the digits. -/
def positional (digits : Text) (point : Int) : Text :=
  match point with
  | .ofNat n =>
    if n = 0 then "0.".toList ++ digits
    else
      let whole := Text.padRight '0' n (digits.take n)
      let part := digits.drop n
      whole ++ '.' :: (if part.isEmpty then ['0'] else part)
  | .negSucc n => "0.".toList ++ List.replicate (n + 1) '0' ++ digits

/-- Digits with the point after the first one, and the power of ten: a sign and two digits at
least. -/
def scientific (digits : Text) (point : Int) : Text :=
  let mantissa :=
    match digits with
    | d :: e :: rest => d :: '.' :: e :: rest
    | t => t
  let power := point - 1
  let n := Numeral.ofNat power.natAbs
  mantissa ++ 'e' :: (if power < 0 then '-' else '+') :: List.replicate (2 - n.length) '0' ++ n

/-- The magnitude in the fewest digits that read back: positional from `0.0001` up to below
`10 ^ 16`, scientific outside. -/
def writeMagnitude (m : Nat) (e : Int) : Text :=
  if m = 0 then "0.0".toList
  else
    let (d, s) := shortest m e
    let written := Numeral.ofNat d
    let point := written.length + s
    let digits := Text.trimEnd (· == '0') written
    if -4 < point && point ≤ 16 then positional digits point else scientific digits point

/-- The text of a number. -/
def write (x : Float) : Text :=
  match kind x with
  | .notANumber => "nan".toList
  | .infinite => if isNegative x then "-inf".toList else "inf".toList
  | .finite m e => if isNegative x then '-' :: writeMagnitude m e else writeMagnitude m e

def infinity : Float := Float.ofBits 0x7FF0000000000000

def nan : Float := Float.ofBits 0x7FF8000000000000

/-- The quotient, rounded to the nearest integer; a half goes to the even neighbour. -/
def divideEven (num den : Nat) : Nat :=
  let q := num / den
  let twice := 2 * (num % den)
  if den < twice || (twice == den && q % 2 == 1) then q + 1 else q

/-- The exponent of the last bit that is kept of a fraction: 53 bits are, but none below the
smallest exponent. -/
def lastBit (num den : Nat) : Int :=
  let guess : Int := (num.log2 : Int) - den.log2 - 52
  let (up, down) := scale den 2 guess
  max (-1074) (if num * down < up * Nat.pow 2 52 then guess - 1 else guess)

/-- The number nearest to a fraction that is not negative; of two equally near ones the even one. A
fraction beyond all numbers becomes infinite. -/
def ofFraction (num den : Nat) : Float :=
  if num = 0 then 0
  else
    let e := lastBit num den
    let (up, down) := scale den 2 e
    let m := divideEven (num * down) up
    if m < Nat.pow 2 52 then Float.ofBits (UInt64.ofNat m)
    else
      let biased := e + 1075
      if biased < 2047 then
        Float.ofBits (UInt64.ofNat (biased.toNat * Nat.pow 2 52 + (m - Nat.pow 2 52)))
      else infinity

/-- The number nearest to `n * 10 ^ e`. Beyond 400 digits on either side of the point it is
infinite or zero, whatever the digits are. -/
def ofDecimal (negative : Bool) (n : Nat) (e : Int) : Float :=
  let digits := (Nat.toDigits 10 n).length
  let x :=
    if n = 0 || digits + e < -400 then 0
    else if digits + e > 400 then infinity
    else
      let (num, den) := scale n 10 e
      ofFraction num den
  if negative then -x else x

/-- A signed run of digits at the end of a number, as its power of ten. -/
def power? (t : Text) : Option Int :=
  let (negative, digits) :=
    match t with
    | '-' :: rest => (true, rest)
    | '+' :: rest => (false, rest)
    | t => (false, t)
  if digits.isEmpty || !digits.all Char.isDigit then none
  else some (Numeral.value negative digits)

/-- The magnitude that a text without a sign denotes: digits with a point and a power of ten, where
the point, the digits on one side of it and the power may be missing; or one of the words for an
infinite number and for none. -/
def readMagnitude? (t : Text) : Option Float :=
  let t := Text.lower t
  if t = "inf".toList || t = "infinity".toList then some infinity
  else if t = "nan".toList then some nan
  else
    let whole := t.takeWhile Char.isDigit
    let (part, rest) :=
      match t.dropWhile Char.isDigit with
      | '.' :: rest => (rest.takeWhile Char.isDigit, rest.dropWhile Char.isDigit)
      | rest => ([], rest)
    if whole.isEmpty && part.isEmpty then none
    else
      let n := Nat.ofDigitChars 10 (whole ++ part) 0
      match rest with
      | [] => some (ofDecimal false n (Int.negOfNat part.length))
      | 'e' :: rest => (power? rest).map fun e => ofDecimal false n (e - part.length)
      | _ => none

end DfaTable.Real
