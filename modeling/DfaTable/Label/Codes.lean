import DfaTable.Label

/-!
# DfaTable.Label.Codes

The symbol codes that a label accepts. Nothing in a label is an error: an escape that is not known
stands for code 0, pieces of an `any but` list that name no character are dropped, and malformed
ranges and clauses accept nothing. Main statement: `codes?_isOk` (every classified label has
codes), which makes `expand` total.
-/

namespace DfaTable.Label

/-- The code for the end of the input. -/
def endOfInputCode : Int := -1

/-- The codes of the visible ASCII characters; the space is not one of them. -/
def visible : List Int := (List.range' 33 94).map Int.ofNat

/-- The code of an escape, by the character after the backslash. The two-letter names `\vln` and
`\bs` count only as the whole text; in any other text the letter stands for itself. -/
def escapeCode (text : Text) (selector : Char) : Int :=
  if selector = '\\' then 92
  else if selector = 'n' then 10
  else if selector = 't' then 9
  else if selector = 'r' then 13
  else if selector = 'v' then if text = ['\\', 'v', 'l', 'n'] then 124 else 118
  else if selector = 'b' then if text = ['\\', 'b', 's'] then 32 else 98
  else 0

/-- Why the codes of a classification that was not made by `classify` cannot be told. -/
inductive Misuse where
  | notOneCharacter (length : Nat)
  | noSelector
  | tooFewBounds (found : Nat)
  | tooManyBounds
deriving DecidableEq, Repr

def Misuse.message : Misuse → Text
  | .notOneCharacter n =>
    "ord() expected a character, but string of length ".toList ++ (Nat.toDigits 10 n) ++
      " found".toList
  | .noSelector => "string index out of range".toList
  | .tooFewBounds n =>
    "not enough values to unpack (expected 2, got ".toList ++ (Nat.toDigits 10 n) ++ ")".toList
  | .tooManyBounds => "too many values to unpack (expected 2)".toList

/-- The code of an escape; its first character is not looked at. -/
def decodeEscape : Text → Except Misuse Int
  | first :: selector :: rest => .ok (escapeCode (first :: selector :: rest) selector)
  | _ => .error .noSelector

/-- The code of a text of one character. -/
def codeOf : Text → Except Misuse Int
  | [c] => .ok c.toNat
  | t => .error (.notOneCharacter t.length)

/-- The code that a piece of an `any but` list names, if it names one. -/
def exclusionCode? (piece : Text) : Option Int :=
  match piece with
  | [c] => some c.toNat
  | '\\' :: selector :: rest => some (escapeCode ('\\' :: selector :: rest) selector)
  | _ => none

def anyButCodes : Option (List Text) → List Int
  | none => []
  | some pieces =>
    let excluded := pieces.filterMap exclusionCode?
    visible.filter fun code => !excluded.contains code

/-- The codes from `first` to `last`, both included; none if they are in reverse order. -/
def between (first last : Int) : List Int :=
  (List.range (last + 1 - first).toNat).map fun k : Nat => first + (k : Int)

def rangeCodes : Option (List Text) → Except Misuse (List Int)
  | none => .ok []
  | some [first, last] =>
    match codeOf first, codeOf last with
    | .ok a, .ok b => .ok (between a b)
    | .error e, _ => .error e
    | _, .error e => .error e
  | some texts =>
    if texts.length < 2 then .error (.tooFewBounds texts.length) else .error .tooManyBounds

/-- The codes of a classification, in ascending order. -/
def Classified.codes? (c : Classified) : Except Misuse (List Int) :=
  match c.shape with
  | .literal => (codeOf c.label).map ([·])
  | .escape => (decodeEscape c.label).map ([·])
  | .endOfInput => .ok [endOfInputCode]
  | .any => .ok visible
  | .anyBut => .ok (anyButCodes c.exclusions)
  | .range => rangeCodes c.bounds
  | .empty | .unrecognized => .ok []

/-- The codes of a label, and whether the label is reported. -/
structure Expansion where
  label : Text
  shape : Shape
  codes : List Int
deriving DecidableEq, Repr

/-- The report on a label that no rule recognizes. -/
def warningText (label : Text) : Text := "failed to parse: ".toList ++ label

def Expansion.isReported (x : Expansion) : Bool := x.shape.isDiagnosed

/-- The report, if there is one. -/
def Expansion.warning? (x : Expansion) : Option Text :=
  if x.isReported then some (warningText x.label) else none

def Classified.expand? (c : Classified) : Except Misuse Expansion :=
  c.codes?.map fun codes => { label := c.label, shape := c.shape, codes }

theorem codes?_isOk {c : Classified} (h : c.WellFormed) : ∃ codes, c.codes? = .ok codes := by
  obtain ⟨label, shape, exclusions, bounds⟩ := c
  cases shape with
  | literal =>
    obtain ⟨x, rfl⟩ := List.length_eq_one_iff.1 (h : label.length = 1)
    exact ⟨_, rfl⟩
  | escape =>
    match label, (h : 2 ≤ label.length) with
    | _ :: _ :: _, _ => exact ⟨_, rfl⟩
  | range =>
    match bounds, h with
    | none, _ => exact ⟨_, rfl⟩
    | some texts, h =>
      obtain ⟨first, last, rfl⟩ := h texts rfl
      exact ⟨_, rfl⟩
  | _ => exact ⟨_, rfl⟩

theorem expand?_isOk {c : Classified} (h : c.WellFormed) : ∃ x, c.expand? = .ok x := by
  obtain ⟨codes, hc⟩ := codes?_isOk h
  exact ⟨_, by rw [Classified.expand?, hc]; rfl⟩

/-- The codes of a label, with its shape. -/
def expand (label : Text) : Expansion :=
  match h : (classify label).expand? with
  | .ok x => x
  | .error _ => absurd (expand?_isOk (wellFormed_classify label)) (by simp [h])

theorem expand_eq {label : Text} {x : Expansion} (h : (classify label).expand? = .ok x) :
    expand label = x := by
  unfold expand
  split <;> simp_all

/-- The codes that a label accepts. -/
def codes (label : Text) : List Int := (expand label).codes

end DfaTable.Label
