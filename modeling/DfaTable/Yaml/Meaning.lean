import DfaTable.Text.Case
import DfaTable.Yaml.Binary
import DfaTable.Yaml.Tag

/-!
# DfaTable.Yaml.Meaning

The value of a scalar's text under a tag (`Tag.read`).
-/

namespace DfaTable.Yaml

open Text

def decimal (t : Text) : Nat := Nat.ofDigitChars 10 t 0

/-- The digits of a base at the beginning of a number may follow its mark. -/
def baseMark (base : Nat) : List Char :=
  if base = 2 then ['b', 'B'] else if base = 8 then ['o', 'O'] else ['x', 'X']

/-- The number that digits of a base denote; a text that holds anything else is refused. -/
def readBase (base : Nat) (t : WideText) : Except Failure Int :=
  let body := trim Numeral.isMargin (plainDigits t.shape)
  let digits :=
    match unsigned body with
    | '0' :: m :: rest => if (baseMark base).contains m then rest else '0' :: m :: rest
    | rest => rest
  let value? (c : Char) : Option Nat :=
    let n := if isHexDigit c then hexNumber [c] else 16
    if n < base then some n else none
  if digits.isEmpty || digits.any (fun c => (value? c).isNone) then
    .error (.fault (.badDigits base t))
  else
    let n := digits.foldl (fun n c => n * base + (value? c).getD 0) 0
    .ok (if isNegative body then -(n : Int) else n)

/-- The number that a text denotes in decimal notation. -/
def readDecimal (t : WideText) : Except Failure Int :=
  match Numeral.readLoose t.shape with
  | .ok n => .ok n
  | .error .malformed => .error (.fault (.badDigits 10 t))
  | .error (.tooLong n) => .error (.fault (.tooManyDigits n))

/-- A number whose parts between colons count in sixtieths. -/
def sixtieths (parts : List Int) : Int := parts.foldl (fun n d => n * 60 + d) 0

def withoutUnderscores (t : WideText) : WideText := t.filter (· != .char '_')

/-- What stands behind the sign. -/
def bodyOf (t : WideText) : WideText := if t.shape.head?.any isSign then t.tail else t

/-- The parts between colons. -/
def partsOf (t : WideText) : List WideText := splitP (· == .char ':') t

def readInt (t : WideText) : Except Failure Int := do
  let t := withoutUnderscores t
  if t.isEmpty then throw (.fault .missingDigit)
  let body := bodyOf t
  let sign : Int := if isNegative t.shape then -1 else 1
  match body.shape with
  | [] => throw (.fault .missingDigit)
  | ['0'] => return 0
  | '0' :: 'b' :: _ => return sign * (← readBase 2 (body.drop 2))
  | '0' :: 'x' :: _ => return sign * (← readBase 16 (body.drop 2))
  | '0' :: _ => return sign * (← readBase 8 body)
  | shape =>
    if shape.contains ':' then return sign * sixtieths (← (partsOf body).mapM readDecimal)
    else return sign * (← readDecimal body)

/-- A real number with decimal digits of any script. -/
def readRealPart (t : WideText) : Except Failure Float :=
  let body := trim Numeral.isMargin (plainDigits t.shape)
  match Real.readMagnitude? (unsigned body) with
  | some x => .ok (if isNegative body then -x else x)
  | none => .error (.fault (.badReal t))

/-- The sum of parts, the last one first, of which each weighs sixty times the one before it; a
weight that is no real number any more breaks off. -/
def realSixtieths (sum : Float) (weight : Nat) : List Float → Except Failure Float
  | [] => .ok sum
  | x :: rest =>
    let w := Real.ofFraction weight 1
    if w == Real.infinity then .error (.fault .tooLarge)
    else realSixtieths (sum + x * w) (weight * 60) rest

/-- A real number without underscores and capital letters. -/
def plainReal (t : WideText) : WideText := (withoutUnderscores t).mapRuns lowercase

/-- Whether a text is the word for no number. -/
def isNanWord (t : WideText) : Bool := (bodyOf (plainReal t)).shape = ".nan".toList

def readReal (t : WideText) : Except Failure Float := do
  let t := plainReal t
  if t.isEmpty then throw (.fault .missingDigit)
  let body := bodyOf t
  let signed := fun x : Float => if isNegative t.shape then -x else x
  if body.shape = ".inf".toList then return signed Real.infinity
  else if body.shape = ".nan".toList then return Real.nan
  else if body.shape.contains ':' then
    let parts ← (partsOf body).mapM readRealPart
    return signed (← realSixtieths 0 1 parts.reverse)
  else return signed (← readRealPart body)

def readBool (t : WideText) : Except Failure Bool :=
  let t := t.mapRuns lowercase
  if isWord ["yes", "true", "on"] t.shape then .ok true
  else if isWord ["no", "false", "off"] t.shape then .ok false
  else .error (.fault (.badWord t))

def readDate (t : Text) : Except Failure Value :=
  match date? (withoutLineEnd t) with
  | none => .error (.fault .noDate)
  | some d =>
    let day : Calendar.Day :=
      { year := decimal d.year, month := decimal d.month, day := decimal d.day }
    match d.time with
    | none =>
      match day.problem? with
      | some p => .error (.fault (.calendar p))
      | none => .ok (.day day)
    | some (hour, minute, second) =>
      let m : Calendar.Moment :=
        { day, hour := decimal hour, minute := decimal minute, second := decimal second
          microsecond := decimal (padRight '0' 6 (d.fraction.take 6)), offset := d.offset }
      match m.problem? with
      | some p => .error (.fault (.calendar p))
      | none => .ok (.moment m)

/-- The bytes of a text in base 64, which has to be ASCII. -/
def readBinary (t : Text) : Except Failure (List UInt8) :=
  if t.any fun c => 128 ≤ c.toNat then .error .malformed
  else
    match Binary.bytes? t with
    | some bytes => .ok bytes
    | none => .error .malformed

/-- The value of a scalar under a tag. -/
def Tag.read (tag : Tag) (t : WideText) : Except Failure Value :=
  match tag with
  | .null => .ok .null
  | .bool => (readBool t).map .bool
  | .int => (readInt t).map .int
  | .float => (readReal t).map .real
  | .text => .ok (.ofWide t)
  | .binary => (readBinary t.shape).map .bytes
  | .timestamp => readDate t.shape
  | _ => .error .malformed

end DfaTable.Yaml
