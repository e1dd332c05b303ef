import DfaTable.Yaml.Scalar
import DfaTable.Yaml.Token

/-!
# DfaTable.Yaml.Tokens

The tokens of a YAML text. Blocks are told by indentation, and a key is told only by the colon
behind it: where one may start, a slot is left among the tokens, which the colon fills.
-/

namespace DfaTable.Yaml

/-- A token, or the place of a key that is not known to be one yet. -/
inductive Item where
  | token (t : Token)
  | slot (n : Nat)

/-- A place where a key may have started: its slot, whether nothing else may stand there, and its
position. -/
structure Candidate where
  slot : Nat
  isRequired : Bool
  line : Nat
  column : Nat
  index : Nat

/-- The state of reading tokens. -/
structure Scan where
  cursor : Cursor
  /-- The column of the innermost block; -1 outside of all. -/
  indent : Int := -1
  indents : List Int := []
  /-- One entry for each flow collection around, and one for the block they are in: the possible
  key of that level. -/
  candidate : Option Candidate := none
  outer : List (Option Candidate) := []
  allowsKey : Bool := true
  /-- The items read so far, the last one first. -/
  items : List Item := []
  slots : Nat := 0
  /-- The tokens of the slots that hold keys. -/
  filled : List (Nat × List Token) := []

open Reader

namespace Scan

abbrev Next := Except Failure Scan

def inFlow (s : Scan) : Bool := !s.outer.isEmpty

def emit (t : Token) (s : Scan) : Scan := { s with items := .token t :: s.items }

/-- Reads from the place of the scan. -/
def reading {α : Type} (r : Reader α) (s : Scan) : Except Failure (α × Scan) :=
  (r.run s.cursor).map fun (a, cursor) => (a, { s with cursor })

/-- A key on one line is no longer than this. -/
def keyLimit : Nat := 1024

def isStale (c : Cursor) (k : Candidate) : Bool :=
  k.line != c.line || k.index + keyLimit < c.index

/-- Drops the possible keys that are too far away; a required one must not be. -/
def dropStale (s : Scan) : Next :=
  let stale := isStale s.cursor
  let isLost := fun k : Option Candidate => k.any fun k => stale k && k.isRequired
  let keep := fun k : Option Candidate => k.filter (!stale ·)
  if isLost s.candidate || s.outer.any isLost then .error .malformed
  else .ok { s with candidate := keep s.candidate, outer := s.outer.map keep }

/-- Gives up the possible key of this level. -/
def dropKey (s : Scan) : Next :=
  if s.candidate.any (·.isRequired) then .error .malformed else .ok { s with candidate := none }

/-- Notes that a key may start here. -/
def markKey (s : Scan) : Next :=
  if !s.allowsKey then .ok s
  else
    s.dropKey.map fun s =>
      let c := s.cursor
      { s with
        candidate := some
          { slot := s.slots, isRequired := !s.inFlow && s.indent == c.column, line := c.line,
            column := c.column, index := c.index }
        items := .slot s.slots :: s.items
        slots := s.slots + 1 }

/-- Ends the blocks that are indented deeper than a column. -/
def unwindFrom (column indent : Int) (items : List Item) : List Int → Int × List Int × List Item
  | [] => (indent, [], items)
  | i :: rest =>
    if indent > column then unwindFrom column i (.token .blockEnd :: items) rest
    else (indent, i :: rest, items)

def unwind (column : Int) (s : Scan) : Scan :=
  if s.inFlow then s
  else
    let (indent, indents, items) := unwindFrom column s.indent s.items s.indents
    { s with indent, indents, items }

/-- Begins a block at a column that is deeper than the one around it. -/
def deepen (column : Nat) (s : Scan) : Scan :=
  { s with indents := s.indent :: s.indents, indent := column }

/-- A token of some characters. -/
def advance (n : Nat) (t : Token) (s : Scan) : Next :=
  (s.reading (Reader.skip n)).map fun (_, s) => s.emit t

/-- Moves over spaces, comments and line ends, and tells whether a line was ended. -/
def toNextToken : Nat → Reader Bool
  | 0 => return false
  | fuel + 1 => do
    skipSpaces
    skipComment
    match ← lineBreak? with
    | some _ =>
      let _ ← toNextToken fuel
      return true
    | none => return false

/-- Moves over a byte order mark at the beginning of the text. -/
def skipByteOrderMark : Reader Unit := do
  let ch ← look 0
  if (← get).index == 0 && ch == '\uFEFF' then skip 1

/-- Moves to the next token. A new line lets a key start, except inside a flow collection. -/
def toToken (fuel : Nat) (s : Scan) : Next := do
  let (isBroken, s) ← s.reading do
    skipByteOrderMark
    toNextToken fuel
  return { s with allowsKey := s.allowsKey || (isBroken && !s.inFlow) }

/-- A token of some characters behind which no key may start before the next line. -/
def separator (n : Nat) (t : Token) (s : Scan) : Next := do
  let s ← (s.unwind (-1)).dropKey
  advance n t { s with allowsKey := false }

def flowStart (t : Token) (s : Scan) : Next := do
  let s ← s.markKey
  advance 1 t { s with outer := s.candidate :: s.outer, candidate := none, allowsKey := true }

def flowEnd (t : Token) (s : Scan) : Next :=
  match s.outer with
  | [] => .error .malformed
  | k :: outer => do
    let s ← s.dropKey
    advance 1 t { s with candidate := k, outer, allowsKey := false }

def flowEntry (s : Scan) : Next := do
  let s ← s.dropKey
  advance 1 .flowEntry { s with allowsKey := true }

/-- Begins a block with the given token if the column asks for one; only where a key may
start. -/
def startBlock (t : Token) (s : Scan) : Next :=
  if s.inFlow then .ok s
  else if !s.allowsKey then .error .malformed
  else if s.indent < s.cursor.column then .ok ((s.deepen s.cursor.column).emit t)
  else .ok s

/-- An indicator of one character in front of a node. -/
def indicator (start : Token) (allowsKey : Bool) (t : Token) (s : Scan) : Next := do
  let s ← s.startBlock start
  let s ← dropKey { s with allowsKey }
  s.advance 1 t

def blockEntry (s : Scan) : Next := s.indicator .blockSequenceStart true .blockEntry

def explicitKey (s : Scan) : Next := s.indicator .blockMappingStart (!s.inFlow) .key

/-- A colon: it makes the possible key of this level a key. -/
def valueMark (s : Scan) : Next :=
  match s.candidate with
  | some k =>
    let startsBlock := !s.inFlow && s.indent < k.column
    let tokens := if startsBlock then [Token.blockMappingStart, .key] else [.key]
    let s := if startsBlock then s.deepen k.column else s
    advance 1 .value
      { s with candidate := none, allowsKey := false, filled := (k.slot, tokens) :: s.filled }
  | none => s.indicator .blockMappingStart (!s.inFlow) .value

/-- A token that may be, or begin, a key. -/
def node (s : Scan) (read : Reader Token) : Next := do
  let s ← s.markKey
  let (t, s) ← s.reading read
  return { s with allowsKey := false }.emit t

/-- The name of an anchor, behind its mark. -/
def anchorName : Reader Text := do
  skip 1
  let name ← span isWordChar
  let after ← look 0
  let mayFollow := isEndOrBlank after || ['?', ':', ',', ']', Value.closeBrace, '%', '@',
    '\x60'].contains after
  if name.isEmpty || !mayFollow then refuse
  return name

def isUriChar (c : Char) : Bool :=
  c.isAlphanum || "-;/?:@&=+$,_.!~*()[]".toList.contains c || c == '\x27'

/-- The bytes of escapes in a tag. -/
def uriEscapes : Nat → Reader (List UInt8)
  | 0 => return []
  | fuel + 1 => do
    if (← look 0) != '%' then return []
    skip 1
    let digits ← hexDigits [] 2
    skip 2
    return UInt8.ofNat (hexNumber digits) :: (← uriEscapes fuel)

def uriParts : Nat → Reader Text
  | 0 => return []
  | fuel + 1 => do
    let run ← span isUriChar
    if (← look 0) != '%' then return run
    match Encoding.Utf8.decode (← uriEscapes fuel) with
    | .error _ => refuse
    | .ok t => return run ++ t ++ (← uriParts fuel)

/-- The address that a tag is made of; it is not empty. -/
def uri : Reader Text := do
  let start ← look 0
  if isUriChar start || start == '%' then uriParts (← bound) else refuse

/-- A handle between two exclamation marks, or one mark alone before a space. -/
def tagHandle : Reader Text := do
  if (← look 0) != '!' then refuse
  if (← look 1) == ' ' then
    skip 1
    return ['!']
  else
    let word := ((← get).rest.drop 1).takeWhile isWordChar
    if (← look (word.length + 1)) != '!' then refuse
    skip (word.length + 2)
    return '!' :: word ++ ['!']

/-- Whether another exclamation mark follows before the tag ends; the characters up to there are
looked at. -/
def hasHandle : Reader Bool := do
  let word := ((← get).rest.drop 1).takeWhile fun ch => ch != '!' && !isEndOrSpace ch
  return (← look (word.length + 1)) == '!'

def tagBody : Reader TagText := do
  let ch ← look 1
  if ch == '<' then
    skip 2
    let suffix ← uri
    if (← look 0) != '>' then refuse
    skip 1
    return ⟨none, suffix⟩
  else if isEndOrBlank ch then
    skip 1
    return ⟨none, ['!']⟩
  else if ← hasHandle then
    let handle ← tagHandle
    return ⟨some handle, ← uri⟩
  else
    skip 1
    return ⟨some ['!'], ← uri⟩

def tagText : Reader Token := do
  let t ← tagBody
  if !isEndOrSpace (← look 0) then refuse
  return .tag t

/-- The number of a version, up to its point or its end. -/
def versionPart : Reader Int := do
  if !(← look 0).isDigit then refuse
  match Numeral.bounded false (← span Char.isDigit) with
  | .ok n => return n
  | .error (.tooLong n) => throw (.fault (.tooManyDigits n))
  | .error .malformed => refuse

def versionText : Reader Directive := do
  skipSpaces
  let major ← versionPart
  if (← look 0) != '.' then refuse
  skip 1
  let _ ← versionPart
  if !isEndOrSpace (← look 0) then refuse
  return .version major

def handleText : Reader Directive := do
  skipSpaces
  let handle ← tagHandle
  if (← look 0) != ' ' then refuse
  skipSpaces
  let replacement ← uri
  if !isEndOrSpace (← look 0) then refuse
  return .handle handle replacement

def directiveText : Reader Token := do
  skip 1
  let name ← span isWordChar
  if name.isEmpty || !isEndOrSpace (← look 0) then refuse
  let d ←
    if name = "YAML".toList then versionText
    else if name = "TAG".toList then handleText
    else
      skipWhile (!isBreak ·)
      pure .other
  skipSpaces
  skipComment
  if !isEndOrBreak (← look 0) then refuse
  let _ ← lineBreak?
  return .directive d

def directive (s : Scan) : Next := do
  let s ← (s.unwind (-1)).dropKey
  let (t, s) ← reading directiveText { s with allowsKey := false }
  return s.emit t

def block (isFolded : Bool) (s : Scan) : Next := do
  let s ← s.dropKey
  let (t, s) ← reading (blockScalar isFolded s.indent) { s with allowsKey := true }
  return s.emit (.scalar t.wide false)

def quoted (mark : Char) (s : Scan) : Next :=
  s.node do return .scalar (← quotedScalar mark) false

def plain (s : Scan) : Next := do
  let s ← s.markKey
  let (p, s) ← s.reading (plainScalar s.inFlow (s.indent + 1))
  return { s with allowsKey := p.isBroken }.emit (.scalar p.text.wide true)

/-- The characters that mean something at the start of a token. -/
def marks : Text :=
  ['-', '?', ':', ',', '[', ']', Value.openBrace, Value.closeBrace, '#', '&', '*', '!', '|', '>',
   '\x27', '\x22', '%', '@', '\x60']

/-- What a token begins with: its first character, whether a separator of documents starts there,
and whether a blank or the end follows a mark that asks for it. -/
structure Start where
  mark : Char
  isSeparator : Bool
  isApart : Bool

/-- What stands at the next place; more characters than one are looked at only behind marks that
depend on them. -/
def start : Reader Start := do
  let mark ← look 0
  let isSeparator ←
    if (mark == '-' || mark == '.') && (← column) == 0 then atSeparator else pure false
  let isApart ←
    if mark == '-' || mark == '?' || mark == ':' then pure (isEndOrBlank (← look 1))
    else pure false
  return { mark, isSeparator, isApart }

/-- Whether a plain scalar may start there. -/
def Start.isPlain (inFlow : Bool) (b : Start) : Bool :=
  (!isEndOrBlank b.mark && !marks.contains b.mark) ||
    (!b.isApart && (b.mark == '-' || (!inFlow && (b.mark == '?' || b.mark == ':'))))

/-- Reads one token, at a place that is not the end. -/
def token (b : Start) (s : Scan) : Next :=
  let ch := b.mark
  if ch = '%' && s.cursor.column == 0 then s.directive
  else if b.isSeparator then
    s.separator 3 (if ch = '-' then .documentStart else .documentEnd)
  else if ch = '[' then s.flowStart .flowSequenceStart
  else if ch = Value.openBrace then s.flowStart .flowMappingStart
  else if ch = ']' then s.flowEnd .flowSequenceEnd
  else if ch = Value.closeBrace then s.flowEnd .flowMappingEnd
  else if ch = ',' then s.flowEntry
  else if ch = '-' && b.isApart then s.blockEntry
  else if ch = '?' && (s.inFlow || b.isApart) then s.explicitKey
  else if ch = ':' && (s.inFlow || b.isApart) then s.valueMark
  else if ch = '*' then s.node do return .alias (← anchorName)
  else if ch = '&' then s.node do return .anchor (← anchorName)
  else if ch = '!' then s.node tagText
  else if ch = '|' && !s.inFlow then s.block false
  else if ch = '>' && !s.inFlow then s.block true
  else if ch = '\x27' || ch = '\x22' then s.quoted ch
  else if b.isPlain s.inFlow then s.plain
  else .error .malformed

/-- The tokens among the items, with the keys in their slots. -/
def tokensOf (s : Scan) (items : List Item) : List Token :=
  items.flatMap fun
    | .token t => [t]
    | .slot n => (s.filled.lookup n).getD []

def tokens (s : Scan) : List Token := s.tokensOf s.items.reverse

/-- What was read before reading failed: nothing from the first place on where a key is still
possible, as what stands there is not known. -/
def broken (f : Failure) (s : Scan) : List Token :=
  let open? := (s.candidate :: s.outer).filterMap fun k => k.map Candidate.slot
  let isKnown : Item → Bool
    | .token _ => true
    | .slot n => !open?.contains n
  s.tokensOf (s.items.reverse.takeWhile isKnown) ++ [.broken f]

/-- The next token with all that it ends, or none at the end of the text. -/
def step (fuel : Nat) (s : Scan) : Except Failure (Scan × Bool) := do
  let s ← s.toToken fuel
  let s ← s.dropStale
  let (b, s) ← s.reading start
  if b.mark == endMark then return (← (s.unwind (-1)).dropKey, false)
  else return (← token b (s.unwind s.cursor.column), true)

/-- All tokens from here on; every token takes a character at least. -/
def run : Nat → Scan → List Token
  | 0, s => s.tokens
  | fuel + 1, s =>
    match s.dropStale with
    | .error f => s.broken f
    | .ok s =>
      match s.step (fuel + 1) with
      | .error f => s.broken f
      | .ok (s, true) => run fuel s
      | .ok (s, false) => s.tokens

end Scan

/-- The tokens of a text that may be cut off; every token takes a character at least. -/
def Token.ofCursor (c : Cursor) : List Token := Scan.run (c.rest.length + 1) { cursor := c }

end DfaTable.Yaml
