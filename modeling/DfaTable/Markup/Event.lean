import DfaTable.Markup.Space
import DfaTable.Markup.Token

/-!
# DfaTable.Markup.Event

What happens while a document is read, and the tokens that it comes to. Every name gets the prefix
that its name space goes by at that place. The end of an element also ends those inside it, but
nothing if no element of its name is open.
-/

namespace DfaTable.Markup

open Text

inductive Event where
  /-- The bindings are those that the tag itself declares. -/
  | opening (name : Name) (attributes : List (Name × Text)) (bindings : Bindings)
  | closing (name : Name)
  | text (t : Text)
  | remark
deriving DecidableEq, Repr

def Tag.fullName (t : Tag) : Text :=
  match t.space with
  | some space => space ++ ':' :: t.name
  | none => t.name

/-- What is known of the elements around a place: their tags and the bindings of each, from the
inside out. Elements outside the first declaration count as one. -/
structure Around where
  tags : List Tag := []
  bindings : List Bindings := [reservedBindings]

namespace Around

/-- The prefix that a name space goes by. -/
def prefixOf? (a : Around) (space : Text) : Option Text :=
  (a.bindings.findSome? (prefixIn? · space)).join

/-- A name whose name space is cut at its first closing brace. -/
def cutName (n : Name) : Name :=
  match n.space with
  | none => n
  | some space =>
    match cutAt '\x7d' (space ++ '\x7d' :: n.name) with
    | some (space, name) => { space := some space, name }
    | none => n

/-- The tag of a name. -/
def tagOf (a : Around) (n : Name) : Tag :=
  let n := cutName n
  { space := n.space.bind a.prefixOf?, name := n.name }

/-- Gives a name a value, in the place of an older one. -/
def putValue (name : Name) (value : Text) : List (Name × Text) → List (Name × Text)
  | [] => [(name, value)]
  | (other, old) :: more =>
    if other = name then (name, value) :: more else (other, old) :: putValue name value more

/-- The attributes under their full names. -/
def attributesOf (a : Around) (attributes : List (Name × Text)) : Attributes :=
  (attributes.foldl (fun found (name, value) => putValue name value found) []).map
    fun (name, value) => ((a.tagOf name).fullName, value)

/-- Goes into an element. -/
def enter (a : Around) (bindings : Bindings) : Around :=
  if bindings = [] && a.bindings.length = 1 then a
  else { a with bindings := bindings :: a.bindings }

/-- How many elements the end of one with a tag ends, and what is left open. -/
def endOf (tag : Tag) : List Tag → Nat × List Tag
  | [] => (0, [])
  | t :: tags =>
    if (t :: tags).all (·.name != tag.name) then (0, t :: tags)
    else if t = tag then (1, tags)
    else
      let (count, tags) := endOf tag tags
      (count + 1, tags)

def leaveBindings (bindings : List Bindings) : List Bindings :=
  if bindings.length = 1 then bindings else bindings.tail

/-- The tokens of an event, and what is around after it. -/
def step (a : Around) : Event → Around × List Token
  | .opening name attributes bindings =>
    let a := a.enter bindings
    let tag := a.tagOf name
    ({ a with tags := tag :: a.tags }, [.opening tag (a.attributesOf attributes)])
  | .closing name =>
    let (count, tags) := endOf (a.tagOf name) a.tags
    ({ tags, bindings := leaveBindings a.bindings }, List.replicate count .closing)
  | .text t => (a, [.text t])
  | .remark => (a, [.remark])

/-- The tokens of events. -/
def tokens (a : Around) : List Event → List Token
  | [] => []
  | e :: events =>
    let (a, found) := a.step e
    found ++ tokens a events

end Around

/-- The forest that events describe. -/
def Forest.ofEvents (events : List Event) : Forest := .ofTokens (Around.tokens {} events)

end DfaTable.Markup
