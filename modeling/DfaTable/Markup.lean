import DfaTable.Text

/-!
# DfaTable.Markup

Trees of tagged elements, read and searched in document order. An element is matched by the local
part of its tag, an attribute by its full name.
-/

namespace DfaTable.Markup

/-- The name of an element, with the prefix of its name space if it has one. -/
structure Tag where
  space : Option Text
  name : Text
deriving DecidableEq, Repr

/-- Full names and values, in the order in which they are written. -/
abbrev Attributes := List (Text × Text)

/-- Sibling nodes in document order. -/
inductive Forest where
  | nil
  | text (t : Text) (rest : Forest)
  /-- A comment or a processing instruction. -/
  | remark (rest : Forest)
  | element (tag : Tag) (attributes : Attributes) (inner rest : Forest)
deriving Inhabited

/-- An element without its tag. -/
structure Element where
  attributes : Attributes
  inner : Forest

namespace Forest

/-- All elements with a local name, each before the elements inside it. -/
def elements (name : Text) : Forest → List Element
  | nil => []
  | text _ rest => elements name rest
  | remark rest => elements name rest
  | element tag attributes inner rest =>
    let below := elements name inner ++ elements name rest
    if tag.name = name then { attributes, inner } :: below else below

/-- The first element with a local name. -/
def first? (name : Text) (f : Forest) : Option Element := (f.elements name).head?

/-- The texts of all nodes, one after the other. -/
def content : Forest → Text
  | nil => []
  | text t rest => t ++ content rest
  | remark rest => content rest
  | element _ _ inner rest => content inner ++ content rest

/-- The first element of all. -/
def root? : Forest → Option Element
  | nil => none
  | text _ rest => root? rest
  | remark rest => root? rest
  | element _ attributes inner _ => some { attributes, inner }

end Forest

namespace Element

/-- The value of an attribute; the last one counts. -/
def attribute? (e : Element) (name : Text) : Option Text :=
  (e.attributes.reverse.find? fun a => a.1 == name).map Prod.snd

/-- Whether an element with the local name is inside this one, at any depth. -/
def holds (e : Element) (name : Text) : Bool := (e.inner.first? name).isSome

end Element
end DfaTable.Markup
