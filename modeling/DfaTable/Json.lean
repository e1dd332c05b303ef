import DfaTable.Value

/-!
# DfaTable.Json

JSON documents and their text in ASCII: on one line (`compact`) or indented (`indented`).
-/

namespace DfaTable

open Text

inductive Json where
  | null
  | bool (b : Bool)
  | number (t : Text)
  | text (t : Text)
  | torn (t : WideText)
  | array (items : List Json)
  | object (members : List (Text × Json))
deriving Inhabited

namespace Json

def int (n : Int) : Json := number (Numeral.ofInt n)

/-- What stands for a character between double quotes. -/
def escapeChar (c : Char) : Text :=
  if c = '\x22' then ['\\', '\x22']
  else if c = '\\' then ['\\', '\\']
  else if c = '\n' then ['\\', 'n']
  else if c = '\r' then ['\\', 'r']
  else if c = '\t' then ['\\', 't']
  else if c = '\x0c' then ['\\', 'f']
  else if c = '\x08' then ['\\', 'b']
  else if 32 ≤ c.toNat && c.toNat ≤ 126 then [c]
  else if c.toNat < 0x10000 then escapeUnit c.toNat
  else
    let n := c.toNat - 0x10000
    escapeUnit (0xD800 + n / 0x400) ++ escapeUnit (0xDC00 + n % 0x400)

def quoteText (t : Text) : Text := '\x22' :: t.flatMap escapeChar ++ ['\x22']

def quoteWide (t : WideText) : Text := '\x22' :: t.flatMap escapePoint ++ ['\x22']
where
  escapePoint : CodePoint → Text
    | .char c => escapeChar c
    | .half h => escapeUnit (CodePoint.halfNumber h)

mutual

def compact : Json → Text
  | null => "null".toList
  | bool b => if b then "true".toList else "false".toList
  | number t => t
  | text t => quoteText t
  | torn t => quoteWide t
  | array items => '[' :: join [',', ' '] (compactAll items) ++ [']']
  | object members =>
    Value.openBrace :: join [',', ' '] (compactMembers members) ++ [Value.closeBrace]

def compactAll : List Json → List Text
  | [] => []
  | v :: rest => compact v :: compactAll rest

def compactMembers : List (Text × Json) → List Text
  | [] => []
  | (k, v) :: rest => (quoteText k ++ ':' :: ' ' :: compact v) :: compactMembers rest

end

/-- A line end and two spaces for each level. -/
def newline (level : Nat) : Text := '\n' :: List.replicate (2 * level) ' '

/-- Items on lines of their own, one level deeper than the marks around them. -/
def block (level : Nat) (first last : Char) (items : List Text) : Text :=
  if items.isEmpty then [first, last]
  else
    first :: newline (level + 1) ++ join (',' :: newline (level + 1)) items ++ newline level ++
      [last]

mutual

def indented (level : Nat) : Json → Text
  | array items => block level '[' ']' (indentedAll (level + 1) items)
  | object members =>
    block level Value.openBrace Value.closeBrace (indentedMembers (level + 1) members)
  | null => "null".toList
  | bool b => if b then "true".toList else "false".toList
  | number t => t
  | text t => quoteText t
  | torn t => quoteWide t

def indentedAll (level : Nat) : List Json → List Text
  | [] => []
  | v :: rest => indented level v :: indentedAll level rest

def indentedMembers (level : Nat) : List (Text × Json) → List Text
  | [] => []
  | (k, v) :: rest =>
    (quoteText k ++ ':' :: ' ' :: indented level v) :: indentedMembers level rest

end

/-- The text of a number in JSON. -/
def realText (x : Float) : Text :=
  match Real.kind x with
  | .notANumber => "NaN".toList
  | .infinite => if Real.isNegative x then "-Infinity".toList else "Infinity".toList
  | .finite .. => Real.write x

/-- The text of a value that is not a text, where a text is needed as a member name. -/
def memberName : Value → Text
  | .text t => t
  | .null => "null".toList
  | .bool b => if b then "true".toList else "false".toList
  | .real x => realText x
  | v => v.plain?.getD []

mutual

/-- A value as JSON; what JSON has no form for is shown as quoted text. -/
def ofValue : Value → Json
  | .null => null
  | .bool b => bool b
  | .int n => int n
  | .real x => number (realText x)
  | .text t => text t
  | .torn t => torn t
  | .list items => array (ofValues items)
  | .tuple items => array (ofValues items)
  | .map entries => object (ofEntries entries)
  | v => text (v.quoted?.getD [])

def ofValues : List Value → List Json
  | [] => []
  | v :: rest => ofValue v :: ofValues rest

def ofEntries : List (Value × Value) → List (Text × Json)
  | [] => []
  | (k, v) :: rest => (memberName k, ofValue v) :: ofEntries rest

end

end Json
end DfaTable
