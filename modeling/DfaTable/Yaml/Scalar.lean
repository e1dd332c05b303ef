import DfaTable.Yaml.Cursor

/-!
# DfaTable.Yaml.Scalar

The scalars of a YAML text: plain, in quotes and in blocks. Each reader begins where the scalar
starts and ends behind it. Lines are folded: one line break between two lines is a space, and of
more than one the first is left out.
-/

namespace DfaTable.Yaml

open Text Reader

/-- What a break and the empty lines behind it stand for where lines are folded. -/
def folded (first : Char) (more : Text) : Text :=
  if first != '\n' then first :: more else if more.isEmpty then [' '] else more

/-- The characters that stand for others behind a backslash. -/
def escapes : List (Char × Char) :=
  [('0', '\x00'), ('a', '\x07'), ('b', '\x08'), ('t', '\t'), ('\t', '\t'), ('n', '\n'),
   ('v', '\x0b'), ('f', '\x0c'), ('r', '\r'), ('e', '\x1b'), (' ', ' '), ('\x22', '\x22'),
   ('\\', '\\'), ('/', '/'), ('N', '\x85'), ('_', '\xa0'), ('L', '\u2028'), ('P', '\u2029')]

/-- How many digits follow the letter of an escape by number. -/
def escapeWidths : List (Char × Nat) := [('x', 2), ('u', 4), ('U', 8)]

/-- The code point of a number. -/
def codePointOf (n : Nat) : Reader CodePoint :=
  if n < 0x110000 then return .ofNat n
  else if n < 0x80000000 then throw (.fault .badCharacter)
  else throw (.fault .hugeCharacter)

/-- A number of hexadecimal digits, each of them looked at in turn. -/
def hexDigits (found : Text) : Nat → Reader Text
  | 0 => return found.reverse
  | width + 1 => do
    let ch ← look found.length
    if isHexDigit ch then hexDigits (ch :: found) width else refuse

/-- The line breaks from here on, with the blanks around them left out; a line that separates
documents must not start inside a scalar. -/
def quotedBreaks : Nat → Reader Text
  | 0 => return []
  | fuel + 1 => do
    if ← atSeparator then refuse
    skipWhile isTabOrSpace
    match ← lineBreak? with
    | some b => return b :: (← quotedBreaks fuel)
    | none => return []

/-- The escape whose backslash stands here; `fuel` bounds the line breaks behind it. -/
def escapeSequence (fuel : Nat) : Reader WideText := do
  skip 1
  let letter ← look 0
  match escapes.lookup letter, escapeWidths.lookup letter with
  | some ch, _ =>
    skip 1
    return [.char ch]
  | none, some width =>
    skip 1
    let p ← codePointOf (hexNumber (← hexDigits [] width))
    skip width
    return [p]
  | none, none =>
    match ← lineBreak? with
    | some _ => return wide (← quotedBreaks fuel)
    | none => refuse

/-- What blanks, with or without line breaks among them, stand for inside quotes. -/
def quotedGap (fuel : Nat) : Reader Text := do
  let blanks ← span isTabOrSpace
  if (← look 0) == endMark then refuse
  match ← lineBreak? with
  | some b => return folded b (← quotedBreaks fuel)
  | none => return blanks

/-- The inside of quotes from here on, and the closing mark. Each step takes a character, so that
the fuel that is left is enough for the line breaks ahead. -/
def quotedFrom (mark : Char) : Nat → Reader WideText
  | 0 => refuse
  | fuel + 1 => do
    let special := fun ch => isEndOrBlank ch || ch == '\x27' || ch == '\x22' || ch == '\\'
    let run ← span (!special ·)
    let ch ← look 0
    if isEndOrBlank ch then
      let gap ← quotedGap fuel
      return wide (run ++ gap) ++ (← quotedFrom mark fuel)
    else if ch == '\\' && mark == '\x22' then
      let t ← escapeSequence fuel
      return wide run ++ t ++ (← quotedFrom mark fuel)
    else if ch != mark then
      skip 1
      return wide (run ++ [ch]) ++ (← quotedFrom mark fuel)
    else
      let after ← look 1
      if mark == '\x27' && after == mark then
        skip 2
        return wide (run ++ [mark]) ++ (← quotedFrom mark fuel)
      else
        skip 1
        return wide run

/-- A scalar in quotes of the given kind. -/
def quotedScalar (mark : Char) : Reader WideText := do
  skip 1
  quotedFrom mark (2 * (← bound))

/-- What is between two lines of a plain scalar, and whether a line was ended; no text where a
separator of documents ends the scalar. -/
structure PlainGap where
  text : Option Text
  isBroken : Bool

/-- The further breaks and spaces behind the first break of a plain scalar. -/
def plainBreaks : Nat → Reader (Option Text)
  | 0 => return some []
  | fuel + 1 => do
    if ← atSeparator then return none
    skipSpaces
    match ← lineBreak? with
    | some b => return (← plainBreaks fuel).map (b :: ·)
    | none => return some []

def plainGap (fuel : Nat) : Reader PlainGap := do
  let spaces ← span (· == ' ')
  match ← lineBreak? with
  | some b =>
    let more ← plainBreaks fuel
    return { text := more.map (folded b), isBroken := true }
  | none => return { text := some spaces, isBroken := false }

/-- Whether a plain scalar ends before a character, given the one behind it. -/
def endsPlain (inFlow : Bool) (ch after : Char) : Bool :=
  let isFlowMark := fun c => c == ',' || c == '[' || c == ']' || c == Value.openBrace ||
    c == Value.closeBrace
  isEndOrBlank ch ||
    (ch == ':' && (isEndOrBlank after || (inFlow && isFlowMark after))) ||
    (inFlow && (isFlowMark ch || ch == '?'))

/-- The characters of one line of a plain scalar. -/
def plainLine (inFlow : Bool) : Text → Text
  | [] => []
  | ch :: rest =>
    if endsPlain inFlow ch (rest.headD endMark) then [] else ch :: plainLine inFlow rest

/-- Moves over one line of a plain scalar; behind a colon one more character is looked at. -/
def plainRun (inFlow : Bool) : Reader Text := do
  let run := plainLine inFlow (← get).rest
  if (← look run.length) == ':' then
    let _ ← look (run.length + 1)
  skip run.length
  return run

/-- A plain scalar, and whether a new line was begun behind its last character. -/
structure Plain where
  text : Text
  isBroken : Bool

def plainFrom (inFlow : Bool) (indent : Int) : Nat → Reader Plain
  | 0 => return { text := [], isBroken := false }
  | fuel + 1 => do
    let run ← if (← look 0) == '#' then pure [] else plainRun inFlow
    if run.isEmpty then return { text := [], isBroken := false }
    let gap ← plainGap fuel
    let between := gap.text.getD []
    let isOutside := !inFlow && ((← column) : Int) < indent
    if between.isEmpty || (← look 0) == '#' || isOutside then
      return { text := run, isBroken := gap.isBroken }
    let more ← plainFrom inFlow indent fuel
    if more.text.isEmpty then return { text := run, isBroken := gap.isBroken || more.isBroken }
    else return { text := run ++ between ++ more.text, isBroken := more.isBroken }

/-- A plain scalar whose lines are indented at least by `indent`. -/
def plainScalar (inFlow : Bool) (indent : Int) : Reader Plain := do
  plainFrom inFlow indent (← bound)

/-- What happens to the line breaks at the end of a block. -/
inductive Chomping where
  | strip
  | clip
  | keep
deriving DecidableEq, Repr

/-- A sign in the header of a block. -/
def chomping? : Reader (Option Chomping) := do
  let ch ← look 0
  if ch == '+' || ch == '-' then
    skip 1
    return some (if ch = '+' then .keep else .strip)
  else return none

/-- A digit in the header of a block. -/
def indentation? : Reader (Option Nat) := do
  let ch ← look 0
  if ch.isDigit then
    if ch = '0' then refuse
    skip 1
    return some (ch.toNat - 48)
  else return none

/-- The header of a block: its chomping, and its indentation if it is given. -/
def blockHeader : Reader (Chomping × Option Nat) := do
  let first ← chomping?
  let indent ← indentation?
  let second ← if first.isNone && indent.isSome then chomping? else pure none
  if !isEndOrSpace (← look 0) then refuse
  skipSpaces
  skipComment
  if !isEndOrBreak (← look 0) then refuse
  let _ ← lineBreak?
  return ((first.or second).getD .clip, indent)

/-- The line breaks before the next line that is indented up to a column. -/
def blockBreaks (column : Nat) : Nat → Reader Text
  | 0 => return []
  | fuel + 1 => do
    skipIndent column
    match ← lineBreak? with
    | some b => return b :: (← blockBreaks column fuel)
    | none => return []

/-- The line breaks before the first line of a block, and the largest indentation met. -/
def blockStart (deepest : Nat) : Nat → Reader (Text × Nat)
  | 0 => return ([], deepest)
  | fuel + 1 => do
    skipSpaces
    let deepest := max deepest (← column)
    match ← lineBreak? with
    | some b =>
      let (more, deepest) ← blockStart deepest fuel
      return (b :: more, deepest)
    | none => return ([], deepest)

/-- The lines of a block from here on, behind the breaks before them. -/
def blockLines (isFolded : Bool) (chomping : Chomping) (indent : Nat) :
    Nat → Text → Reader Text
  | 0, _ => return []
  | fuel + 1, breaks => do
    let isInside : Reader Bool := do
      let ch ← look 0
      return (← column) == indent && ch != endMark
    if !(← isInside) then return if chomping = .keep then breaks else []
    let startsBlank := isTabOrSpace (← look 0)
    let run ← span (!isBreak ·)
    let ending := (← lineBreak?).toList
    let after ← blockBreaks indent fuel
    if ← isInside then
      let isJoined := isFolded && ending == ['\n'] && !startsBlank && !isTabOrSpace (← look 0)
      let joint := if !isJoined then ending else if after.isEmpty then [' '] else []
      return breaks ++ run ++ joint ++ (← blockLines isFolded chomping indent fuel after)
    else
      match chomping with
      | .strip => return breaks ++ run
      | .clip => return breaks ++ run ++ ending
      | .keep => return breaks ++ run ++ ending ++ after

/-- A block scalar inside a block of the given indentation. -/
def blockScalar (isFolded : Bool) (indent : Int) : Reader Text := do
  skip 1
  let (chomping, given) ← blockHeader
  let least := (indent + 1).toNat.max 1
  let fuel ← bound
  match given with
  | some n =>
    let indent := least + n - 1
    blockLines isFolded chomping indent fuel (← blockBreaks indent fuel)
  | none =>
    let (breaks, deepest) ← blockStart 0 fuel
    blockLines isFolded chomping (max least deepest) fuel breaks

end DfaTable.Yaml
