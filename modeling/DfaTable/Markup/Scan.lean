import DfaTable.Markup.StartTag

/-!
# DfaTable.Markup.Scan

Reading what stands before the first tag, one piece after the other. A fault is noted and reading
goes on.
-/

namespace DfaTable.Markup

/-- The place in a document, and whether all before it keeps the rules of markup. -/
structure Place where
  rest : Input
  isSound : Bool := true

abbrev Scan := StateM Place

namespace Scan

def fault : Scan Unit := modify fun p => { p with isSound := false }

/-- Notes a fault unless a condition holds. -/
def require (isMet : Bool) : Scan Unit := if isMet then pure () else fault

/-- Goes on with what a reader leaves. -/
def reading {α : Type} (read : Input → Reading α) : Scan α := fun p =>
  let r := read p.rest
  (r.value, { rest := r.rest, isSound := p.isSound && r.isSound })

/-- Takes what a function finds at this place. -/
def taking {α : Type} (take : Input → α × Input) : Scan α := fun p =>
  let (found, rest) := take p.rest
  (found, { p with rest })

/-- Passes over blanks, and tells whether there were any. -/
def blanks : Scan Bool := taking fun t => (startsWithSpace t, skipSpaces t)

/-- Whether a mark stands here. -/
def sees (mark : String) : Scan Bool := return startsWith mark (← get).rest

/-- Passes over a mark, if it stands here. -/
def mark (m : String) : Scan Bool := taking fun t =>
  match after? m.toList t with
  | some rest => (true, rest)
  | none => (false, t)

/-- Passes over one symbol. -/
def skip : Scan Unit := modify fun p => { p with rest := p.rest.tail }

/-- Passes over a quotation mark, if one stands here. -/
def quote? : Scan (Option Char) := taking fun t =>
  match t with
  | .char c :: rest => if c = '\x22' || c = '\x27' then (some c, rest) else (none, t)
  | _ => (none, t)

/-- The allowed characters up to a quotation mark. -/
def literalText (isAllowed : Char → Bool) (quote : Char) : Input → Reading Text
  | [] => { value := [], rest := [] }
  | .stray :: t =>
    if isAllowed replacement then (literalText isAllowed quote t).cons replacement false
    else { value := [], rest := .stray :: t }
  | .char c :: t =>
    if isAllowed c && c != quote then (literalText isAllowed quote t).cons c true
    else { value := [], rest := .char c :: t }

/-- The characters up to a quotation mark, which is passed over. -/
def upTo (isAllowed : Char → Bool) (quote : Char) : Scan Text := do
  let t ← reading (literalText isAllowed quote)
  require (← mark (String.singleton quote))
  return t

/-- A text in quotes, all of whose characters are allowed. -/
def literal? (isAllowed : Char → Bool) : Scan (Option Text) := do
  match ← quote? with
  | some quote => return some (← upTo isAllowed quote)
  | none => fault; return none

def name : Scan Text := taking takeName

def plainName : Scan Text := taking takePlainName

end Scan
end DfaTable.Markup
