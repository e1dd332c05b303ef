import DfaTable.Markup.Remark
import DfaTable.Markup.Scan

/-!
# DfaTable.Markup.Doctype

The document type. Of all that it declares only the attributes count that are lists of words, and
those that have a value without being written; an entity that is declared ends the reading of the
document.
-/

namespace DfaTable.Markup

open Text Scan

/-- What is declared of an attribute of an element. -/
structure AttributeRule where
  element : Text
  name : Text
  isWords : Bool
  value : Option Text
deriving Repr

/-- The rules of a document; of two for the same attribute the first counts. -/
structure Rules where
  found : List AttributeRule := []
  /-- Whether more may be declared outside the document. -/
  isOpen : Bool := false
  /-- Whether reading ends here. -/
  isHalted : Bool := false

namespace Rules

def rule? (r : Rules) (element name : Text) : Option AttributeRule :=
  r.found.find? fun a => a.element == element && a.name == name

def add (r : Rules) (a : AttributeRule) : Rules :=
  if (r.rule? a.element a.name).isSome then r else { r with found := r.found ++ [a] }

def isWords (r : Rules) (element name : Text) : Bool :=
  (r.rule? element name).any (·.isWords)

/-- The attributes of an element that have a value without being written. -/
def usual (r : Rules) (element : Text) : Written :=
  (r.found.filter (·.element == element)).filterMap fun a => a.value.map fun v => (a.name, v)

end Rules

namespace Doctype

def isPublicChar (c : Char) : Bool :=
  c == ' ' || c == '\r' || c == '\n' || c.isAlphanum || "-'()+,./:=?;!*#@$_%".toList.contains c

/-- What stands outside the document: its address, and whether it is named at all. -/
structure External where
  address : Option Text := none
  isNamed : Bool := false

def systemExternal : Scan External := do
  require (← blanks)
  let address ← literal? isChar
  return { address, isNamed := address.isSome }

/-- A public name and an address, which may be left out in a notation. -/
def publicExternal (isNotation : Bool) : Scan External := do
  require (← blanks)
  let known ← literal? isPublicChar
  let isSpaced ← blanks
  let isQuoted := (← get).rest.head?.any (·.holds fun c => c == '\x22' || c == '\x27')
  if isNotation && !(isSpaced && isQuoted) then return { isNamed := known.isSome }
  require isSpaced
  let address ← literal? isChar
  return { address, isNamed := known.isSome || address.isSome }

def external (isNotation : Bool) : Scan External := do
  if ← mark "SYSTEM" then systemExternal
  else if ← mark "PUBLIC" then publicExternal isNotation
  else return {}

/-- Passes over the sign that says how often something may stand. -/
def occurrence : Scan Unit := taking fun t =>
  match t with
  | .char c :: rest => ((), if c == '?' || c == '*' || c == '+' then rest else t)
  | _ => ((), t)

mutual

/-- One part of a group: a name or a group; whether it is a good one. -/
def particle : Nat → Scan Bool
  | 0 => return false
  | fuel + 1 => do
    if ← mark "(" then group fuel
    else
      let n ← name
      require (!n.isEmpty)
      occurrence
      return !n.isEmpty

/-- A group behind its opening parenthesis. -/
def group : Nat → Scan Bool
  | 0 => return false
  | fuel + 1 => do
    let _ ← blanks
    if ← particle fuel then
      let _ ← blanks
      groupEnd fuel none
    else return false

/-- The parts of a group behind its first one, all after the same sign. -/
def groupEnd : Nat → Option Char → Scan Bool
  | 0, _ => return false
  | fuel + 1, sign => do
    if ← mark ")" then
      occurrence
      return true
    match (← get).rest with
    | .char c :: _ =>
      if (c == ',' || c == '|') && sign.all (· == c) then
        skip
        let _ ← blanks
        if ← particle fuel then
          let _ ← blanks
          groupEnd fuel (some c)
        else return false
      else
        fault
        return false
    | _ => fault; return false

end

/-- The names that may stand between text. -/
def mixedNames : Nat → Scan Bool
  | 0 => return false
  | fuel + 1 => do
    if ← mark "|" then
      let _ ← blanks
      let n ← name
      require (!n.isEmpty)
      if n.isEmpty then return false
      let _ ← blanks
      mixedNames fuel
    else
      let isClosed ← mark ")*"
      require isClosed
      return isClosed

/-- Content that is text, maybe with elements. -/
def mixed (fuel : Nat) : Scan Bool := do
  let _ ← blanks
  if ← mark ")" then
    let _ ← mark "*"
    return true
  mixedNames fuel

/-- What an element may hold. -/
def contentModel (fuel : Nat) : Scan Bool := do
  if ← mark "EMPTY" then return true
  if ← mark "ANY" then return true
  if ← mark "(" then
    let _ ← blanks
    if ← mark "#PCDATA" then mixed fuel else group fuel
  else
    fault
    return false

/-- Passes over the end of a declaration. -/
def declarationEnd : Scan Unit := do
  let _ ← blanks
  require (← mark ">")

def elementRule (fuel : Nat) : Scan Unit := do
  if !(← mark "ELEMENT") then return
  let isSpaced ← blanks
  require isSpaced
  if !isSpaced then return
  let n ← name
  require (!n.isEmpty)
  if n.isEmpty then return
  require (← blanks)
  if ← contentModel fuel then declarationEnd

def notationRule : Scan Unit := do
  if !(← mark "NOTATION") then return
  let isSpaced ← blanks
  require isSpaced
  if !isSpaced then return
  let n ← plainName
  require (!n.isEmpty)
  if n.isEmpty then return
  let isSpaced ← blanks
  require isSpaced
  if !isSpaced then return
  let e ← external true
  let _ ← blanks
  let isEnded ← mark ">"
  require (isEnded && e.isNamed)

/-- The words of a list in parentheses. -/
def wordList (word : Scan Text) : Nat → Scan Bool
  | 0 => return false
  | fuel + 1 => do
    let _ ← blanks
    let w ← word
    require (!w.isEmpty)
    if w.isEmpty then return false
    let _ ← blanks
    if ← mark "|" then wordList word fuel
    else
      let isClosed ← mark ")"
      require isClosed
      return isClosed

/-- The types of attributes that have a name, of which all but the first are lists of words. -/
def typeNames : List String :=
  ["CDATA", "IDREFS", "IDREF", "ID", "ENTITY", "ENTITIES", "NMTOKENS", "NMTOKEN"]

/-- The name of a type, if one stands here. -/
def typeName? : List String → Scan (Option String)
  | [] => return none
  | n :: names => do if ← mark n then return some n else typeName? names

/-- Whether an attribute is a list of words; nothing where no type stands. -/
def attributeType (fuel : Nat) : Scan (Option Bool) := do
  match ← typeName? typeNames with
  | some n => return some (n != "CDATA")
  | none =>
    let isNotation ← mark "NOTATION"
    let isSpaced ← if isNotation then blanks else pure true
    require isSpaced
    if !isSpaced then return none
    let isOpened ← mark "("
    require isOpened
    if !isOpened then return none
    let word := if isNotation then name else taking (takeChars isNameChar)
    if ← wordList word fuel then return some true else return none

/-- The value that an attribute has without being written. -/
def usualValue (isLax : Bool) : Scan (Option Text) := do
  if ← mark "#REQUIRED" then return none
  if ← mark "#IMPLIED" then return none
  if ← mark "#FIXED" then require (← blanks)
  reading (takeValue isLax)

/-- What is declared of the attributes of an element. -/
def attributeRules (isLax : Bool) (element : Text) : Nat → Scan (List AttributeRule)
  | 0 => return []
  | fuel + 1 => do
    if ← mark ">" then return []
    let n ← name
    require (!n.isEmpty)
    if n.isEmpty then return []
    let isSpaced ← blanks
    require isSpaced
    if !isSpaced then return []
    match ← attributeType fuel with
    | none => return []
    | some isWords =>
      let isSpaced ← blanks
      require isSpaced
      if !isSpaced then return []
      let value ← usualValue isLax
      let isSpaced ← blanks
      let isLast ← sees ">"
      require (isSpaced || isLast)
      if !(isSpaced || isLast) then return []
      let value := if isWords then value.map asWords else value
      return { element, name := n, isWords, value } :: (← attributeRules isLax element fuel)

def attributeList (isLax : Bool) (fuel : Nat) : Scan (List AttributeRule) := do
  if !(← mark "ATTLIST") then return []
  require (← blanks)
  let element ← name
  require (!element.isEmpty)
  if element.isEmpty then return []
  let _ ← blanks
  attributeRules isLax element fuel

/-- Whether an entity is declared. -/
def entityRule : Scan Bool := do
  if !(← mark "ENTITY") then return false
  require (← blanks)
  let isParameter ← mark "%"
  if isParameter then require (← blanks)
  let n ← plainName
  require (!n.isEmpty)
  if n.isEmpty then return false
  require (← blanks)
  if !isParameter then return true
  match ← quote? with
  | some quote =>
    let inside ← taking fun t =>
      (t.dropWhile (· != .char quote), t.dropWhile (· != .char quote))
    require (!inside.isEmpty)
    return !inside.isEmpty
  | none =>
    let e ← external false
    require e.isNamed
    let isEntity := e.address.any fun a => !a.contains '#'
    require (isEntity || e.address.isNone)
    if !isEntity then declarationEnd
    return isEntity

/-- A reference to a parameter, behind its sign; whether it is a good one. -/
def parameter : Scan Bool := do
  let n ← plainName
  require (!n.isEmpty)
  if n.isEmpty then return false
  let isEnded ← mark ";"
  require isEnded
  return isEnded

/-- One declaration, comment or instruction. -/
def rule (isAlone : Bool) (fuel : Nat) (r : Rules) : Scan Rules := do
  if ← mark "<?" then
    reading instruction
    return r
  if ← mark "<!--" then
    reading (comment true)
    return r
  if ← sees "<!EN" then
    let _ ← mark "<!"
    return { r with isHalted := ← entityRule }
  if ← sees "<!A" then
    let _ ← mark "<!"
    return (← attributeList (r.isOpen && !isAlone) fuel).foldl Rules.add r
  let isKnown := (← sees "<!E") || (← sees "<!N") || (← sees "<!-")
  let _ ← mark "<!"
  require isKnown
  if ← sees "EL" then elementRule fuel
  else if ← sees "N" then notationRule
  return r

/-- The declarations up to the end of the subset. -/
def rules (isAlone : Bool) : Nat → Rules → Scan Rules
  | 0, r => return r
  | fuel + 1, r => do
    if r.isHalted || (← sees "]") || (← get).rest.isEmpty then return r
    if (← sees "<!") || (← sees "<?") then
      let r ← rule isAlone fuel r
      let _ ← blanks
      rules isAlone fuel r
    else if ← mark "%" then
      let isGood ← parameter
      require (!(isGood && isAlone))
      let _ ← blanks
      rules isAlone fuel { r with isOpen := r.isOpen || isGood }
    else
      fault
      return r

/-- The subset from its opening bracket to the end of the document type. -/
def subset (isAlone : Bool) (r : Rules) : Scan Rules := do
  let _ ← mark "["
  let _ ← blanks
  let r ← rules isAlone (← get).rest.length r
  if ← mark "]" then
    let _ ← blanks
  if (← get).isSound && !(← sees ">") then fault else skip
  return r

/-- A document type behind its mark, up to its subset or its end; whether there is a subset. -/
def opening (r : Rules) : Scan (Rules × Bool) := do
  require (← blanks)
  let n ← name
  require (!n.isEmpty)
  let _ ← blanks
  let e ← external false
  let _ ← blanks
  let hasSubset ← sees "["
  if !hasSubset then require (← mark ">")
  return ({ r with isOpen := r.isOpen || e.isNamed }, hasSubset)

end Doctype
end DfaTable.Markup
