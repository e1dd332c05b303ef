import DfaTable.Yaml.Cursor

/-!
# DfaTable.Yaml.Tag

The tags of nodes, and the forms of text by which a scalar without a tag gets one
(`Tag.ofPlain`).
-/

namespace DfaTable.Yaml

open Text

/-- The meaning that a node is tagged with. -/
inductive Tag where
  | null
  | bool
  | int
  | float
  | text
  | binary
  | timestamp
  | sequence
  | mapping
  | orderedMap
  | pairs
  | set
  | merge
  | value
  | unknown
deriving DecidableEq, Repr

/-- The part that all known tags begin with. -/
def tagRoot : Text := "tag:yaml.org,2002:".toList

def tagNames : List (String × Tag) :=
  [("null", .null), ("bool", .bool), ("int", .int), ("float", .float), ("str", .text),
   ("binary", .binary), ("timestamp", .timestamp), ("seq", .sequence), ("map", .mapping),
   ("omap", .orderedMap), ("pairs", .pairs), ("set", .set), ("merge", .merge),
   ("value", .value)]

def Tag.ofText (t : Text) : Tag :=
  match tagRoot.isPrefixOf? t with
  | some name => ((tagNames.find? fun p => p.1.toList == name).map Prod.snd).getD .unknown
  | none => .unknown

def nullWords : List String := ["~", "null", "Null", "NULL"]

def boolWords : List String :=
  ["yes", "Yes", "YES", "no", "No", "NO", "true", "True", "TRUE", "false", "False", "FALSE",
   "on", "On", "ON", "off", "Off", "OFF"]

def isWord (words : List String) (t : Text) : Bool := words.any fun w => w.toList == t

def isSign (c : Char) : Bool := c == '-' || c == '+'

/-- The text without a sign at its beginning. -/
def unsigned : Text → Text
  | c :: rest => if isSign c then rest else c :: rest
  | [] => []

def isNegative (t : Text) : Bool := t.head? == some '-'

def isDigitOr (c d : Char) : Bool := d.isDigit || d == c

/-- A digit, and then digits and underscores. -/
def isRun : Text → Bool
  | c :: rest => c.isDigit && rest.all (isDigitOr '_')
  | [] => false

/-- One of the groups behind a colon: a number below 60. -/
def isSixty : Text → Bool
  | [a] => a.isDigit
  | [a, b] => '0' ≤ a && a ≤ '5' && b.isDigit
  | _ => false

/-- Groups of sixtieths behind a first number. -/
def isSixties (first : Text → Bool) (t : Text) : Bool :=
  match split ':' t with
  | head :: group :: groups => first head && (group :: groups).all isSixty
  | _ => false

/-- Integers: in base 2, 8, 10 and 16, and in base 60 between colons. -/
def isInt (t : Text) : Bool :=
  match unsigned t with
  | '0' :: 'b' :: c :: rest => (c :: rest).all fun d => d == '0' || d == '1' || d == '_'
  | '0' :: 'x' :: c :: rest => (c :: rest).all fun d => isHexDigit d || d == '_'
  | ['0'] => true
  | '0' :: rest => rest.all fun d => ('0' ≤ d && d ≤ '7') || d == '_'
  | body => isRun body || isSixties isRun body

/-- The power of ten at the end of a real number, with its sign; it may be missing. -/
def isExponent : Text → Bool
  | [] => true
  | e :: s :: c :: rest => (e == 'e' || e == 'E') && isSign s && (c :: rest).all Char.isDigit
  | _ => false

/-- Real numbers: they have a point, and a power of ten has a sign. -/
def isFloat (t : Text) : Bool :=
  let body := unsigned t
  isWord [".inf", ".Inf", ".INF"] body || isWord [".nan", ".NaN", ".NAN"] t ||
    match cutAt '.' body with
    | none => false
    | some ([], part) =>
      body == t && part.head?.any Char.isDigit && isExponent (part.dropWhile (isDigitOr '_'))
    | some (whole, part) =>
      (isRun whole && isExponent (part.dropWhile (isDigitOr '_'))) ||
        (isSixties isRun whole && part.all (isDigitOr '_'))

/-- The parts of a date as they are written. -/
structure DateText where
  year : Text
  month : Text
  day : Text
  /-- Hour, minute and second. -/
  time : Option (Text × Text × Text)
  fraction : Text
  offset : Option Int

/-- Some digits at the beginning of a text, at least `least` and at most `most`. -/
def digits? (least most : Nat) (t : Text) : Option (Text × Text) :=
  let run := (t.take most).takeWhile Char.isDigit
  if run.length < least then none else some (run, t.drop run.length)

def expect? (c : Char) : Text → Option Text
  | d :: rest => if c = d then some rest else none
  | [] => none

/-- The offset at the end of a time, in minutes: none, `Z`, or hours and perhaps minutes. -/
def offset? (t : Text) : Option (Option Int) :=
  match t with
  | [] => some none
  | t =>
    match t.dropWhile isTabOrSpace with
    | ['Z'] => some (some 0)
    | s :: rest => do
      if !isSign s then none
      let (hours, rest) ← digits? 1 2 rest
      let minutes ←
        match rest with
        | [] => some []
        | ':' :: rest => do
          let (minutes, rest) ← digits? 2 2 rest
          if rest.isEmpty then some minutes else none
        | _ => none
      let n : Int := Nat.ofDigitChars 10 hours 0 * 60 + Nat.ofDigitChars 10 minutes 0
      return some (if s = '-' then -n else n)
    | [] => none

/-- The time behind a date. -/
def time? (d : DateText) (t : Text) : Option DateText := do
  let t ←
    match t with
    | c :: rest =>
      if c = 'T' || c = 't' then some rest
      else if isTabOrSpace c then some (rest.dropWhile isTabOrSpace)
      else none
    | [] => none
  let (hour, t) ← digits? 1 2 t
  let (minute, t) ← digits? 2 2 (← expect? ':' t)
  let (second, t) ← digits? 2 2 (← expect? ':' t)
  let (fraction, t) :=
    match t with
    | '.' :: rest => (rest.takeWhile Char.isDigit, rest.dropWhile Char.isDigit)
    | t => ([], t)
  let offset ← offset? t
  return { d with time := some (hour, minute, second), fraction, offset }

/-- The parts of a date, with or without a time. -/
def date? (t : Text) : Option DateText := do
  let (year, t) ← digits? 4 4 t
  let (month, t) ← digits? 1 2 (← expect? '-' t)
  let (day, t) ← digits? 1 2 (← expect? '-' t)
  let d : DateText := { year, month, day, time := none, fraction := [], offset := none }
  if t.isEmpty then return d else time? d t

/-- Whether an untagged text is a date: without a time all its parts have full width. -/
def isDate (t : Text) : Bool :=
  match date? t with
  | some d => d.time.isSome || (d.month.length == 2 && d.day.length == 2)
  | none => false

/-- The text without the line end that may stand behind any form of a scalar. -/
def withoutLineEnd (t : Text) : Text := if t.getLast? == some '\n' then t.dropLast else t

/-- The tag of a scalar that is told by its text. A text that begins with a line end is only
that. -/
def Tag.ofPlain (t : Text) : Tag :=
  let body := withoutLineEnd t
  if body.isEmpty then if t.isEmpty then .null else .text
  else if isWord boolWords body then .bool
  else if isFloat body then .float
  else if isInt body then .int
  else if body = "<<".toList then .merge
  else if isWord nullWords body then .null
  else if isDate body then .timestamp
  else if body = ['='] then .value
  else .text

end DfaTable.Yaml
