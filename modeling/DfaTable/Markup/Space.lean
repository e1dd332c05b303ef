import DfaTable.Markup.StartTag

/-!
# DfaTable.Markup.Space

Name spaces: which ones a tag declares, what a prefix stands for, and which prefix a name space
goes by. A declaration that misuses the two reserved name spaces is passed over.
-/

namespace DfaTable.Markup

open Text

/-- A prefix, or none for names without one, and its name space. -/
abbrev Binding := Option Text × Text

/-- The bindings that hold somewhere, the innermost first. -/
abbrev Bindings := List Binding

/-- A name in a name space. -/
structure Name where
  space : Option Text
  name : Text
deriving DecidableEq, Repr

def xmlSpace : Text := "http://www.w3.org/XML/1998/namespace".toList

/-- The name space of declarations. -/
def bindingSpace : Text := "http://www.w3.org/2000/xmlns/".toList

def xmlPrefix : Text := "xml".toList

def bindingPrefix : Text := "xmlns".toList

/-- The bindings that need no declaration. -/
def reservedBindings : Bindings := [(some xmlPrefix, xmlSpace)]

/-- Whether an attribute is a declaration. -/
def isBinding (name : Text) : Bool :=
  name == bindingPrefix || (splitName name).1 == some bindingPrefix

/-- What an attribute declares, if it does and may. The empty name space can only be declared for
names without a prefix. -/
def binding? (a : Text × Text) : Option Binding :=
  let mayBind := a.2 != xmlSpace && a.2 != bindingSpace
  if a.1 == bindingPrefix then if mayBind then some (none, a.2) else none
  else
    match splitName a.1 with
    | (some mark, name) =>
      if mark == bindingPrefix && name != xmlPrefix && name != bindingPrefix && !a.2.isEmpty &&
          mayBind then
        some (some name, a.2)
      else none
    | (none, _) => none

/-- Adds a binding unless its prefix is bound already. -/
def addBinding (bs : Bindings) (b : Binding) : Bindings :=
  if bs.any (·.1 == b.1) then bs else bs ++ [b]

/-- What attributes declare, in their order; of two declarations of a prefix the first counts. -/
def bindingsOf (attributes : Written) : Bindings :=
  (attributes.filterMap binding?).foldl addBinding []

/-- The name space of a prefix. -/
def spaceOf? (bs : Bindings) (mark : Option Text) : Option Text :=
  match bs.find? (·.1 == mark) with
  | some (_, space) => if space.isEmpty then none else some space
  | none => none

/-- The name of an element. A prefix that is bound to nothing is left out. -/
def elementName (bs : Bindings) (written : Text) : Name :=
  let (mark, name) := splitName written
  { space := spaceOf? bs mark, name }

/-- The name of an attribute, which is in no name space without a prefix. -/
def attributeName (bs : Bindings) (written : Text) : Name :=
  match splitName written with
  | (none, name) => { space := none, name }
  | (some mark, name) => { space := spaceOf? bs (some mark), name }

/-- The last prefix that some bindings have for a name space. -/
def prefixIn? (bs : Bindings) (space : Text) : Option (Option Text) :=
  (bs.reverse.find? (·.2 == space)).map Prod.fst

end DfaTable.Markup
