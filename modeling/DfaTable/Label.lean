import DfaTable.Text

/-!
# DfaTable.Label

The shapes of edge labels. A label is classified once: the rules are tried in a fixed order and
the first that applies decides its shape, so `\vln` is an escape and not unrecognized, and
`any but a~b` is not a range. Main statements: `label_classify` and `wellFormed_classify`.
-/

namespace DfaTable.Label

open Text

/-- The shapes, in the order in which they are tried. -/
inductive Shape where
  | empty
  | literal
  | escape
  | endOfInput
  | any
  | anyBut
  | range
  | unrecognized
deriving DecidableEq, Repr

namespace Shape

def all : List Shape :=
  [.empty, .literal, .escape, .endOfInput, .any, .anyBut, .range, .unrecognized]

def name : Shape → Text
  | .empty => "empty".toList
  | .literal => "literal".toList
  | .escape => "escape".toList
  | .endOfInput => "eof".toList
  | .any => "any".toList
  | .anyBut => "any_but".toList
  | .range => "range".toList
  | .unrecognized => "unrecognized".toList

def ofName? (t : Text) : Option Shape := all.find? (·.name == t)

/-- Labels of this shape are reported. -/
def isDiagnosed (s : Shape) : Bool := s == .unrecognized

end Shape

/-- A label with its shape and the parts found in it. Only an `any but` clause has exclusions and
only a range has bounds, and neither if it is malformed. -/
structure Classified where
  label : Text
  shape : Shape
  exclusions : Option (List Text) := none
  bounds : Option (List Text) := none
deriving DecidableEq, Repr

def endOfInputWord : Text := ['e', 'o', 'f']

def anyWord : Text := ['a', 'n', 'y']

def butWord : Text := ['b', 'u', 't']

/-- A backslash and at least one character. -/
def isEscape : Text → Bool
  | '\\' :: _ :: _ => true
  | _ => false

/-- The pieces of the third of the words between single spaces, if the second is `but`. -/
def exclusions? (label : Text) : Option (List Text) :=
  match split ' ' label with
  | _ :: second :: third :: _ => if second = butWord then some (split '|' third) else none
  | _ => none

/-- The two characters around the only tilde, if there is nothing else. -/
def bounds? (label : Text) : Option (List Text) :=
  match split '~' label with
  | [[first], [last]] => some [[first], [last]]
  | _ => none

def classify (label : Text) : Classified :=
  if label = [] then { label, shape := .empty }
  else if label.length = 1 then { label, shape := .literal }
  else if isEscape label then { label, shape := .escape }
  else if label = endOfInputWord then { label, shape := .endOfInput }
  else if label = anyWord then { label, shape := .any }
  else if anyWord.isPrefixOf label then
    { label, shape := .anyBut, exclusions := exclusions? label }
  else if label.contains '~' then { label, shape := .range, bounds := bounds? label }
  else { label, shape := .unrecognized }

/-- What a classification needs so that its codes can be told: one character under a literal, two
or more under an escape, and two single characters as the bounds of a range. -/
def Classified.WellFormed (c : Classified) : Prop :=
  match c.shape with
  | .literal => c.label.length = 1
  | .escape => 2 ≤ c.label.length
  | .range => ∀ texts, c.bounds = some texts → ∃ first last, texts = [[first], [last]]
  | _ => True

theorem label_classify (label : Text) : (classify label).label = label := by
  unfold classify
  repeat' split
  all_goals rfl

theorem two_le_length_of_isEscape {t : Text} (h : isEscape t = true) : 2 ≤ t.length := by
  unfold isEscape at h
  split at h
  · simp
  · simp at h

theorem eq_of_bounds? {label : Text} {texts : List Text} (h : bounds? label = some texts) :
    ∃ first last, texts = [[first], [last]] := by
  unfold bounds? at h
  split at h
  · exact ⟨_, _, (Option.some.inj h).symm⟩
  · simp at h

/-- Classifying a label leaves nothing to go wrong in telling its codes. -/
theorem wellFormed_classify (label : Text) : (classify label).WellFormed := by
  unfold classify
  split
  · exact True.intro
  split
  · exact (by assumption : label.length = 1)
  split
  · exact two_le_length_of_isEscape (by assumption : isEscape label = true)
  split
  · exact True.intro
  split
  · exact True.intro
  split
  · exact True.intro
  split
  · exact fun _ h => eq_of_bounds? h
  · exact True.intro

end DfaTable.Label
