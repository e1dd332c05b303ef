import DfaTable.Attempt
import DfaTable.Path
import DfaTable.Text.Likeness

/-!
# DfaTable.Command.Arguments

The arguments of the command line: options with and without values, and words. Options may stand
anywhere before a double dash. The first argument that cannot be understood decides the problem;
among those that can, help and version come first, and the others in the order in which they are
given for the first time.
-/

namespace DfaTable.Command

open Text

inductive Switch where
  | config
  | logLevel
  | logFormat
  | dryRun
  | version
  | help
deriving DecidableEq, Repr

namespace Switch

def all : List Switch := [config, logLevel, logFormat, dryRun, version, help]

def name : Switch → Text
  | config => "--config".toList
  | logLevel => "--log-level".toList
  | logFormat => "--log-format".toList
  | dryRun => "--dry-run".toList
  | version => "--version".toList
  | help => "--help".toList

def named? (n : Text) : Option Switch := all.find? (·.name == n)

def takesValue : Switch → Bool
  | config | logLevel | logFormat => true
  | dryRun | version | help => false

/-- The words that the value of an option has to be one of. -/
def choices : Switch → List Text
  | logLevel => ["debug".toList, "info".toList, "warn".toList, "error".toList]
  | logFormat => ["json".toList, "text".toList]
  | _ => []

end Switch

inductive UsageProblem where
  | noSuchOption (name : Text) (meant : List Text)
  | needsValue (s : Switch)
  | takesNoValue (s : Switch)
  | badChoice (s : Switch) (found : Text)
  | extraWords (words : List Text)
deriving DecidableEq, Repr

namespace UsageProblem

def quoteAll (ts : List Text) : Text := join [',', ' '] (ts.map quote)

def message : UsageProblem → Text
  | noSuchOption name meant =>
    "No such option ".toList ++ quote name ++ '.' ::
      match meant with
      | [] => []
      | [one] => " Did you mean ".toList ++ quote one ++ ['?']
      | several => " (Possible options: ".toList ++ quoteAll several ++ [')']
  | needsValue s => "Option ".toList ++ quote s.name ++ " requires an argument.".toList
  | takesNoValue s => "Option ".toList ++ quote s.name ++ " does not take a value.".toList
  | badChoice s found =>
    "Invalid value for ".toList ++ quote s.name ++ ": ".toList ++ quote found ++
      " is not one of ".toList ++ quoteAll s.choices ++ ['.']
  | extraWords words =>
    "Got unexpected extra argument".toList ++ (if words.length = 1 then [] else ['s']) ++
      ' ' :: '(' :: join [' '] words ++ [')']

/-- Whether the usage is shown along with the problem. -/
def showsUsage : UsageProblem → Bool
  | needsValue _ | takesNoValue _ => false
  | _ => true

end UsageProblem

/-- What the arguments are: the options in their order, with their values, and the words. -/
structure Given where
  switches : List (Switch × Text) := []
  words : List Text := []
deriving DecidableEq, Repr

namespace Given

def addSwitch (s : Switch) (value : Text) (g : Given) : Given :=
  { g with switches := (s, value) :: g.switches }

def addWord (w : Text) (g : Given) : Given := { g with words := w :: g.words }

/-- Whether an argument is an option. -/
def isOption : Text → Bool
  | '-' :: _ :: _ => true
  | _ => false

/-- The name of an option and the value that is joined to it. -/
def cutValue (a : Text) : Text × Option Text :=
  match cutAt '=' a with
  | some (name, value) => (name, some value)
  | none => (a, none)

/-- The problem with an option that there is not. -/
def unknown (a name : Text) : UsageProblem :=
  if "--".toList.isPrefixOf a then .noSuchOption name (alike name (Switch.all.map Switch.name))
  else .noSuchOption (a.take 2) []

def ofArguments : List Text → Except UsageProblem Given
  | [] => .ok {}
  | a :: rest =>
    if a = "--".toList then .ok { words := rest }
    else if !isOption a then (ofArguments rest).map (addWord a)
    else
      let (name, value?) := cutValue a
      match Switch.named? name, value? with
      | none, _ => .error (unknown a name)
      | some s, some value =>
        if s.takesValue then (ofArguments rest).map (addSwitch s value)
        else .error (.takesNoValue s)
      | some s, none =>
        if s.takesValue then
          match rest with
          | [] => .error (.needsValue s)
          | value :: rest => (ofArguments rest).map (addSwitch s value)
        else (ofArguments rest).map (addSwitch s [])

/-- The value of an option; the last one counts. -/
def value? (g : Given) (s : Switch) : Option Text :=
  (g.switches.reverse.find? (·.1 == s)).map Prod.snd

/-- The options that are given, each once, in their order. -/
def order (g : Given) : List Switch := (g.switches.map Prod.fst).eraseDups

end Given

/-- What a run is asked to do. -/
structure Options where
  config : Option Path := none
  level : Option Text := none
  format : Option Text := none
  isDry : Bool := false
  input : Option Path := none
  output : Option Path := none
deriving DecidableEq, Repr

inductive Request where
  | help
  | version
  | run (o : Options)
deriving DecidableEq, Repr

namespace Request

abbrev Check := Attempt UsageProblem

/-- Letters that differ in case only become the same. -/
def foldCase (c : Char) : Char :=
  if c = '\u017F' then 's' else if c = '\u212A' then 'k' else c.toLower

def choose (s : Switch) (found : Text) : Check Text :=
  match s.choices.find? (· == found.map foldCase) with
  | some choice => return choice
  | none => throw (.badChoice s found)

/-- The path of a text. -/
def pathOf (t : Text) : Check Path :=
  if t.contains '\x00' then Attempt.breakOff .nullByte else return Path.ofText t

/-- The options with one more taken into account. -/
def addSwitch (g : Given) (o : Options) (s : Switch) : Check Options := do
  let value := (g.value? s).getD []
  match s with
  | .config => return { o with config := some (← pathOf value) }
  | .logLevel => return { o with level := some (← choose s value) }
  | .logFormat => return { o with format := some (← choose s value) }
  | .dryRun => return { o with isDry := true }
  | .version | .help => return o

/-- The options with the words taken into account. -/
def addWords (o : Options) : List Text → Check Options
  | [] => return o
  | [input] => return { o with input := some (← pathOf input) }
  | input :: output :: extra => do
    let o := { o with input := some (← pathOf input), output := some (← pathOf output) }
    if extra.isEmpty then return o else throw (.extraWords extra)

/-- The request that some arguments make. -/
def ofGiven (g : Given) : Check Request :=
  match g.order.find? fun s => s == .version || s == .help with
  | some .version => return .version
  | some _ => return .help
  | none => do
    let o ← g.order.foldlM (addSwitch g) {}
    return .run (← addWords o g.words)

def ofArguments (arguments : List Text) : Check Request :=
  match Given.ofArguments arguments with
  | .error problem => throw problem
  | .ok g => ofGiven g

end Request
end DfaTable.Command
