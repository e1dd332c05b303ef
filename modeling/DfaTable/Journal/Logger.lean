import DfaTable.Journal

/-!
# DfaTable.Journal.Logger

Loggers. A part of the program asks for one by the name of its source, often long before the journal
is configured for the run, and reports through it from then on. Only when it is used does a logger
find out how the journal is written. It would stay with what it has found out if the journal was
told to keep that (`keepsBindings`), but whoever configures the journal tells it not to.
-/

namespace DfaTable.Journal

/-! ## Calls one by one -/

/-- What a call writes. -/
def Call.outcome (j : Journal) : Call → Except Misplaced Text
  | report e => j.linesOf e
  | configure .. | setDocument _ | clearDocument => .ok []

/-- The journal after a call, also if it could not write. -/
def Call.next (j : Journal) : Call → Journal
  | configure level format => j.configure level format
  | setDocument document => j.setDocument document
  | clearDocument => j.clearDocument
  | report e => j.report e

theorem Call.run_eq (j : Journal) (c : Call) :
    c.run j = (c.outcome j).map fun t => (t, c.next j) := by
  cases c <;> rfl

/-! ## Loggers -/

/-- How the journal is written: from which severity on, and in which form. -/
structure Binding where
  threshold : Severity
  isJson : Bool

def binding (j : Journal) : Binding := { threshold := j.threshold, isJson := j.isJson }

def boundTo (b : Binding) (j : Journal) : Journal :=
  { j with threshold := b.threshold, isJson := b.isJson }

structure Logger where
  /-- The part of the program that asked for it; the name may be left empty. -/
  source : Text
  /-- What it has stayed with since its first use. -/
  kept : Option Binding := none

namespace Logger

/-- The journal that a logger writes to, where another one stands. -/
def target (l : Logger) (j : Journal) : Journal :=
  match l.kept with
  | some b => j.boundTo b
  | none => j

def event (l : Logger) (severity : Severity) (name : Text) (fields : Fields) : Event :=
  { severity, source := l.source, name, fields }

/-- The logger after its use. -/
def used (keeps : Bool) (j : Journal) (l : Logger) : Logger :=
  if keeps then { l with kept := some (l.target j).binding } else l

end Logger

/-- The journal with all loggers that were asked for, in order. -/
structure Registry where
  journal : Journal
  /-- Whether a logger stays with what it finds out at its first use. -/
  keepsBindings : Bool := false
  loggers : List Logger := []

/-- A step of the program: a call that needs no logger of its own, the request for a logger, or a
report through one that was asked for. -/
inductive Step where
  | call (c : Call)
  | ask (source : Text)
  | log (logger : Nat) (severity : Severity) (name : Text) (fields : Fields)

namespace Registry

def configure (level format : Text) (g : Registry) : Registry :=
  { g with journal := g.journal.configure level format, keepsBindings := false }

/-- Before the first step, the journal is configured as usual. -/
def start (now : Text) : Registry :=
  configure "info".toList "text".toList { journal := { now } }

/-- What a step writes. -/
def outcome (g : Registry) : Step → Except Misplaced Text
  | .call c => c.outcome g.journal
  | .ask _ => .ok []
  | .log i severity name fields =>
    match g.loggers[i]? with
    | some l => (l.target g.journal).linesOf (l.event severity name fields)
    | none => .ok []

/-- What is left after a report through a logger. -/
def report (i : Nat) (l : Logger) (e : Event) (g : Registry) : Registry :=
  { g with
    journal := ((l.target g.journal).report e).boundTo g.journal.binding
    loggers := g.loggers.set i (l.used g.keepsBindings g.journal) }

/-- What a step leaves. -/
def next (g : Registry) : Step → Registry
  | .call (.configure level format) => g.configure level format
  | .call c => { g with journal := c.next g.journal }
  | .ask source => { g with loggers := g.loggers ++ [{ source }] }
  | .log i severity name fields =>
    match g.loggers[i]? with
    | some l => g.report i l (l.event severity name fields)
    | none => g

/-- What each of some steps writes. -/
def outcomes (g : Registry) : List Step → List (Except Misplaced Text)
  | [] => []
  | s :: steps => g.outcome s :: (g.next s).outcomes steps

/-- What some steps leave. -/
def after (g : Registry) (steps : List Step) : Registry := steps.foldl next g

end Registry
end DfaTable.Journal
