import DfaTable.Automaton
import DfaTable.Markup.Source
import DfaTable.Numeral
import DfaTable.Outcome
import DfaTable.Text.Blank
import DfaTable.Text.Quoted

/-!
# DfaTable.Automaton.Loading

The automaton that a document describes. All states are read before any transition; each kind is
read to its end, so that every defect of that kind is reported. A number with too many digits is
no defect: it breaks the loading off.
-/

namespace DfaTable

open Text Markup

/-- Breaks loading off: a number of so many digits. -/
structure Oversized where
  digits : Nat
deriving DecidableEq, Repr

/-- What keeps an element from being read, with the text that was found instead of a number. -/
inductive Defect where
  | id (found : Option Text)
  | source (found : Option Text)
  | target (found : Option Text)
deriving DecidableEq, Repr

def Defect.message : Defect → Text
  | .id found => "state has no numeric id: ".toList ++ quote? found
  | .source found => "transition has no numeric <from>: ".toList ++ quote? found
  | .target found => "transition has no numeric <to>: ".toList ++ quote? found

/-- Reads a number, or reports the defect of there being none. -/
def readNumber (defect : Defect) (found : Option Text) : Except Oversized (Except Defect Int) :=
  match found with
  | none => .ok (.error defect)
  | some t =>
    match Numeral.read t with
    | .ok n => .ok (.ok n)
    | .error .malformed => .ok (.error defect)
    | .error (.tooLong digits) => .error ⟨digits⟩

/-- The collapsed text of the first element with a name inside another. -/
def textInside (name : String) (f : Forest) : Option Text :=
  (f.first? name.toList).map fun e => collapse e.inner.content

/-- The state of an element; a flag is set by an element of its name anywhere inside. -/
def State.ofElement (e : Element) : Except Oversized (Except Defect State) :=
  let found := e.attribute? "id".toList
  (readNumber (.id found) found).map fun id =>
    id.map fun id =>
      { id
        isFinal := e.holds "final".toList
        isInitial := e.holds "initial".toList
        name := e.attribute? "name".toList }

/-- The transition of an element; without a label it has the empty one. -/
def Transition.ofElement (e : Element) : Except Oversized (Except Defect Transition) :=
  let from? := textInside "from" e.inner
  let to? := textInside "to" e.inner
  match readNumber (.source from?) from? with
  | .error o => .error o
  | .ok (.error d) => .ok (.error d)
  | .ok (.ok source) =>
    (readNumber (.target to?) to?).map fun target =>
      target.map fun target =>
        { source, target, label := (textInside "read" e.inner).getD [] }

/-- Why a document describes no automaton. -/
inductive LoadProblem where
  | noRoot
  | defects (found : List Defect)
deriving DecidableEq, Repr

def LoadProblem.message : LoadProblem → Text
  | .noRoot => "no XML root element".toList
  | .defects found => join [';', ' '] (found.map Defect.message)

/-- What the elements of a forest with some name are, or all their defects. -/
def readAll {α : Type} (read : Element → Except Oversized (Except Defect α)) (name : String)
    (f : Forest) : Except Oversized (Except (List Defect) (List α)) :=
  ((f.elements name.toList).mapM read).map Outcome.collect

namespace Automaton

def ofForest (f : Forest) : Except Oversized (Except LoadProblem Automaton) :=
  if f.root?.isNone then .ok (.error .noRoot)
  else
    match readAll State.ofElement "state" f with
    | .error o => .error o
    | .ok (.error defects) => .ok (.error (.defects defects))
    | .ok (.ok states) =>
      match readAll Transition.ofElement "transition" f with
      | .error o => .error o
      | .ok (.error defects) => .ok (.error (.defects defects))
      | .ok (.ok transitions) =>
        .ok (.ok { states, transitions, kind := textInside "type" f })

/-- The automaton of a document. -/
def ofSource (s : Source) : Except Oversized (Except LoadProblem Automaton) :=
  ofForest (.ofSource s)

end Automaton

/-- The report that a document could not be loaded. -/
structure LoadError where
  path : Text
  message : Text
  /-- The text of an underlying failure. -/
  cause : Option Text := none
deriving DecidableEq, Repr

/-- The report as one text. -/
def LoadError.write (e : LoadError) : Text :=
  "failed to parse jff file: ".toList ++ e.path ++ ':' :: ' ' :: e.message ++
    match e.cause with
    | some cause => ' ' :: '(' :: cause ++ [')']
    | none => []

/-- The automaton of a document that goes by a path in reports. -/
def loadSource (path : Text) (s : Source) : Except Oversized (Except LoadError Automaton) :=
  (Automaton.ofSource s).map fun a => a.mapError fun p => { path, message := p.message }

end DfaTable
