import DfaTable.Calendar
import DfaTable.Real
import DfaTable.Text.Quoted

/-!
# DfaTable.Value

Values without a fixed type, as settings files and log fields hold them, and their texts: `quoted`
shows a value so that texts stand in quotes, `plain` shows a text as it is.
-/

namespace DfaTable

open Text

inductive Value where
  | null
  | bool (b : Bool)
  | int (n : Int)
  | real (x : Float)
  | text (t : Text)
  /-- A text that holds halves of pairs. -/
  | torn (t : WideText)
  | bytes (b : List UInt8)
  | day (d : Calendar.Day)
  | moment (m : Calendar.Moment)
  | list (items : List Value)
  | tuple (items : List Value)
  | set (items : List Value)
  | map (entries : List (Value × Value))
  /-- Stands for a list or a mapping inside itself. -/
  | inner (mapping : Bool)

namespace Value

/-- A text, of which it is told whether it holds halves. -/
def ofWide (t : WideText) : Value :=
  match t.text? with
  | some t => text t
  | none => torn t

/-- The name of the kind of a value. -/
def kindName : Value → Text
  | null => "NoneType".toList
  | bool _ => "bool".toList
  | int _ => "int".toList
  | real _ => "float".toList
  | text _ | torn _ => "str".toList
  | bytes _ => "bytes".toList
  | day _ => "datetime.date".toList
  | moment _ => "datetime.datetime".toList
  | list _ => "list".toList
  | tuple _ => "tuple".toList
  | set _ => "set".toList
  | map _ => "dict".toList
  | inner mapping => if mapping then "dict".toList else "list".toList

/-- Nothing, zero and whatever holds nothing count as absent. -/
def isAbsent : Value → Bool
  | null => true
  | bool b => !b
  | int n => n == 0
  | real x => x == 0
  | text t => t.isEmpty
  | torn t => t.isEmpty
  | bytes b => b.isEmpty
  | list items | tuple items | set items => items.isEmpty
  | map entries => entries.isEmpty
  | day _ | moment _ | inner _ => false

def ofBool (b : Bool) : Text := if b then "True".toList else "False".toList

/-- What stands for a byte between two marks `mark`. -/
def quoteByte (mark : Char) (b : UInt8) : Text :=
  let c := Char.ofNat b.toNat
  if b < 128 then if c = '\x7f' then "\\x7f".toList else quoteChar mark c
  else '\\' :: 'x' :: hex 2 b.toNat

def quoteBytes (bytes : List UInt8) : Text :=
  let mark := quoteFor (bytes.map fun b => Char.ofNat b.toNat)
  'b' :: mark :: bytes.flatMap (quoteByte mark) ++ [mark]

def commaSeparated (items : List Text) : Text := join [',', ' '] items

def inParens (name : String) (items : List Text) : Text :=
  name.toList ++ '(' :: commaSeparated items ++ [')']

/-- The parts of an offset in minutes as whole days and the seconds that are left. -/
def quoteOffset (o : Int) : Text :=
  if o = 0 then "datetime.timezone.utc".toList
  else inParens "datetime.timezone" [quoteSpan (o * 60)]
where
  quoteSpan (seconds : Int) : Text :=
    let days := seconds.fdiv 86400
    let rest := seconds.fmod 86400
    let dayPart := if days = 0 then [] else ["days=".toList ++ Numeral.ofInt days]
    let restPart := if rest = 0 then [] else ["seconds=".toList ++ Numeral.ofInt rest]
    inParens "datetime.timedelta" (dayPart ++ restPart)

def quoteDay (d : Calendar.Day) : Text :=
  inParens "datetime.date" [Numeral.ofNat d.year, Numeral.ofNat d.month, Numeral.ofNat d.day]

def quoteMoment (m : Calendar.Moment) : Text :=
  let small :=
    if m.microsecond ≠ 0 then [m.second, m.microsecond]
    else if m.second ≠ 0 then [m.second]
    else []
  let parts := [m.day.year, m.day.month, m.day.day, m.hour, m.minute] ++ small
  let zone :=
    match m.offset with
    | none => []
    | some o => ["tzinfo=".toList ++ quoteOffset o]
  inParens "datetime.datetime" (parts.map Numeral.ofNat ++ zone)

def openBrace : Char := '\x7b'

def closeBrace : Char := '\x7d'

mutual

/-- The text of a value with its texts in quotes; `none` if it holds an integer that is too long
to be written. -/
def quoted? : Value → Option Text
  | null => some "None".toList
  | bool b => some (ofBool b)
  | int n => Numeral.write? n
  | real x => some (Real.write x)
  | text t => some (quote t)
  | torn t => some t.quote
  | bytes b => some (quoteBytes b)
  | day d => some (quoteDay d)
  | moment m => some (quoteMoment m)
  | list items => (quotedAll? items).map fun ts => '[' :: commaSeparated ts ++ [']']
  | tuple items =>
    (quotedAll? items).map fun ts =>
      match ts with
      | [t] => '(' :: t ++ [',', ')']
      | _ => '(' :: commaSeparated ts ++ [')']
  | set items =>
    (quotedAll? items).map fun ts =>
      if ts.isEmpty then "set()".toList else openBrace :: commaSeparated ts ++ [closeBrace]
  | map entries =>
    (quotedEntries? entries).map fun ts => openBrace :: commaSeparated ts ++ [closeBrace]
  | inner mapping =>
    some (if mapping then openBrace :: "...".toList ++ [closeBrace] else "[...]".toList)

def quotedAll? : List Value → Option (List Text)
  | [] => some []
  | v :: rest =>
    match quoted? v, quotedAll? rest with
    | some t, some ts => some (t :: ts)
    | _, _ => none

def quotedEntries? : List (Value × Value) → Option (List Text)
  | [] => some []
  | (k, v) :: rest =>
    match quoted? k, quoted? v, quotedEntries? rest with
    | some a, some b, some ts => some ((a ++ ':' :: ' ' :: b) :: ts)
    | _, _, _ => none

end

/-- The text of a value: texts and dates as they are, everything else as in `quoted?`. -/
def wide? : Value → Option WideText
  | text t => some t.wide
  | torn t => some t
  | day d => some d.write.wide
  | moment m => some m.write.wide
  | v => v.quoted?.map wide

/-- The text of a value as it is shown, with halves of pairs as escapes. -/
def plain? : Value → Option Text
  | text t => some t
  | torn t => some t.escaped
  | day d => some d.write
  | moment m => some m.write
  | v => v.quoted?

/-- The value under a text key of a mapping. -/
def get? (key : Text) : List (Value × Value) → Option Value
  | [] => none
  | (text k, v) :: rest => if k = key then some v else get? key rest
  | _ :: rest => get? key rest

end Value
end DfaTable
