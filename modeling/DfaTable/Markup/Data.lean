import DfaTable.Markup.Symbol

/-!
# DfaTable.Markup.Data

The text between tags. Plain text goes as far as ASCII does; behind any other character text is
read one character after the other. `]]>` is a fault in both: plain text loses what it holds since
its last line end of two characters, other text keeps it. A section is lost as a whole if markup
cannot hold one of its characters.
-/

namespace DfaTable.Markup

/-- Whether a character belongs to plain text. -/
def isPlain (c : Char) : Bool :=
  c == '\t' || c == '\n' ||
    (32 ≤ c.toNat && c.toNat < 128 && c != '<' && c != '&' && c != ']')

/-- Text of all characters, up to markup, a reference or what markup cannot hold, of which one
character is passed over. Where more may follow, `]` waits for it. -/
def mixedData (isPartial : Bool) : Input → Reading Text
  | [] => { value := [], rest := [] }
  | .stray :: t => (mixedData isPartial t).cons replacement false
  | .char '\r' :: .char '\n' :: t => (mixedData isPartial t).cons '\n' true
  | .char c :: t =>
    if c = '<' || c = '&' then { value := [], rest := .char c :: t }
    else if !isChar c then { value := [], rest := t, isSound := false }
    else if c = ']' && isPartial && (t = [] || t = [.char ']']) then
      { value := [], rest := .char c :: t }
    else
      let isEnd := c = ']' && startsWith "]>" t
      (mixedData isPartial t).cons (if c = '\r' then '\n' else c) !isEnd

/-- Text that begins plain; `run` is what was read of it last, from its end. -/
def plainData (isPartial : Bool) (run : Text) : Input → Reading Text
  | .char ']' :: .char ']' :: .char '>' :: t =>
    { value := [], rest := .char ']' :: .char '>' :: t, isSound := false }
  | .char '\r' :: .char '\n' :: t =>
    let more :=
      if t.head?.any (·.holds fun c => isPlain c || c == '<' || c == '&' || c == ']') then
        plainData isPartial ['\n'] t
      else (mixedData isPartial t).cons '\n' true
    { more with value := run.reverse ++ more.value }
  | .char c :: t =>
    if c = '<' || c = '&' then { value := run.reverse, rest := .char c :: t }
    else if c = ']' && isPartial && (t = [] || t = [.char ']']) then
      { value := run.reverse, rest := .char c :: t }
    else if isPlain c || c = ']' then plainData isPartial (c :: run) t
    else
      let more := mixedData isPartial (.char c :: t)
      { more with value := run.reverse ++ more.value }
  | t =>
    let more := mixedData isPartial t
    { more with value := run.reverse ++ more.value }

/-- The text up to the next markup, of which more may follow. -/
def characterData (isPartial : Bool) (t : Input) : Reading Text := plainData isPartial [] t

/-- The text of a section, which the input follows. -/
def sectionData : Input → Reading (Option Text)
  | .char ']' :: .char ']' :: .char '>' :: t => { value := some [], rest := t }
  | .char '\r' :: .char '\n' :: t => (sectionData t).push '\n' true
  | .char c :: t =>
    if isChar c then (sectionData t).push (if c = '\r' then '\n' else c) true
    else { value := none, rest := .char c :: t, isSound := false }
  | .stray :: t => (sectionData t).push replacement false
  | [] => { value := none, rest := [], isSound := false }

end DfaTable.Markup
