import DfaTable.Journal.Event
import DfaTable.Json
import DfaTable.Text.Likeness

/-!
# DfaTable.Journal

The journal of a run: which events are written (`threshold`), in which form (`isJson`), and the
document that every written event names. What is reported is kept whether or not it is written. Two
fields of a plain line have lines of their own, and only a text can stand there (`Misplaced`).
-/

namespace DfaTable

open Text

/-- The state of the journal. -/
structure Journal where
  threshold : Journal.Severity := .info
  isJson : Bool := false
  /-- The document at work; empty if there is none. -/
  document : Text := []
  /-- The time at which the run stands. -/
  now : Text := []
  /-- All events that were reported, the last one first. -/
  events : List Journal.Event := []
  /-- The text that was written. -/
  written : Text := []

namespace Journal

/-- The least severity that a level lets through. The case of the level does not matter, and one
that is not known counts as `info`. -/
def thresholdOf (level : Text) : Severity :=
  let level := lower level
  if level = "debug".toList then .debug
  else if level = "warn".toList || level = "warning".toList then .warning
  else if level = "error".toList then .error
  else .info

/-- Only this word, in lower case, selects the form of one JSON object per line. -/
def jsonWord : Text := "json".toList

def configure (level format : Text) (j : Journal) : Journal :=
  { j with threshold := thresholdOf level, isJson := format == jsonWord }

def setDocument (document : Text) (j : Journal) : Journal := { j with document }

def clearDocument (j : Journal) : Journal := { j with document := [] }

abbrev Fields := List (Text × Value)

/-- Gives a field a value: in its place if it is there, and otherwise at the end. -/
def put (name : Text) (v : Value) : Fields → Fields
  | [] => [(name, v)]
  | (k, w) :: rest => if k = name then (k, v) :: rest else (k, w) :: put name v rest

def putText (name : String) (t : Text) (fs : Fields) : Fields := put name.toList (.text t) fs

/-- Fields with a meaning to the writer that ask for nothing more: the one asks for the failure that
is being handled, of which there is none, the other for something only if it is set. -/
def isSpent (f : Text × Value) : Bool :=
  f.1 == "exc_info".toList || (f.1 == "stack_info".toList && f.2.isAbsent)

/-- All fields of a written event, in the order of a JSON line. -/
def allFields (document now : Text) (e : Event) : Fields :=
  let source := if e.source.isEmpty then [] else [("logger_name".toList, Value.text e.source)]
  let given := e.fields.foldl (fun fs f => put f.1 f.2 fs) source
  let fs :=
    putText "timestamp" now (putText "level" e.severity.name (putText "event" e.name given))
  let fs := if document.isEmpty then fs else putText "document" document fs
  fs.filter (!isSpent ·)

def jsonLine (fs : Fields) : Text :=
  (Json.object (fs.map fun (k, v) => (k, Json.ofValue v))).compact

/-- Characters that let a text stand in quotes as the value of a field. -/
def needsQuotes (c : Char) : Bool :=
  c == ' ' || c == '\t' || c == '=' || c == '\r' || c == '\n' || c == '\x22' || c == '\x27'

def fieldText (v : Value) : Text :=
  match v with
  | .text t => if t.any needsQuotes then quote t else t
  | v => v.quoted?.getD []

/-- The names of the columns before the other fields. A field without a name comes first of all. -/
def columnNames : List Text :=
  [[], "timestamp".toList, "level".toList, "event".toList, "logger".toList, "logger_name".toList]

/-- The names of the fields with lines of their own. -/
def stackName : Text := "stack".toList

def failureName : Text := "exception".toList

/-- The text of a column. -/
def column (fs : Fields) (name : String) (form : Text → Text) : List Text :=
  match fs.lookup name.toList with
  | some v => [form (v.plain?.getD [])]
  | none => []

def bracketed (t : Text) : Text := '[' :: t ++ [']']

def namedField (f : Text × Value) : Text := f.1 ++ '=' :: fieldText f.2

/-- A line with the time, the level, the event and its source in columns, and behind them the
other fields by name. -/
def firstLine (fs : Fields) : Text :=
  let others := fs.filter fun f =>
    !columnNames.contains f.1 && f.1 != stackName && f.1 != failureName
  let columns :=
    (fs.filter (·.1.isEmpty)).map namedField ++ column fs "timestamp" id ++
      column fs "level" (fun t => bracketed (padRight ' ' 9 t)) ++
      column fs "event" (padRight ' ' 30) ++ column fs "logger" bracketed ++
      column fs "logger_name" bracketed
  let fields := (others.mergeSort fun f g => notAfter f.1 g.1).map namedField
  trimEnd (· == ' ') (join [' '] ((columns ++ fields).filter (!·.isEmpty)))

/-- A value that is no text stands where only a text can be written. -/
structure Misplaced where
  value : Value

def Misplaced.message (m : Misplaced) : Text :=
  "can only concatenate str (not \"".toList ++ m.value.kindName ++ "\") to str".toList

/-- The text of a field with lines of its own, if it is set. -/
def ownLines? (fs : Fields) (name : Text) : Except Misplaced (Option Text) :=
  match fs.lookup name with
  | none | some .null => .ok none
  | some (.text t) => .ok (some t)
  | some value => .error { value }

/-- What divides the two fields with lines of their own. -/
def divider : Text := '\n' :: '\n' :: List.replicate 79 '=' ++ ['\n']

def plainLines (fs : Fields) : Except Misplaced Text := do
  let stack? ← ownLines? fs stackName
  let failure? ← ownLines? fs failureName
  let stack := (stack?.map ('\n' :: ·)).getD []
  let between := if stack?.isSome && failure?.isSome then divider else []
  let failure := (failure?.map ('\n' :: ·)).getD []
  return firstLine fs ++ stack ++ between ++ failure

/-- The lines of an event. -/
def lines (isJson : Bool) (document now : Text) (e : Event) : Except Misplaced Text :=
  let fs := allFields document now e
  if isJson then .ok (jsonLine fs) else plainLines fs

/-- Whether an event is written. -/
def passes (threshold : Severity) (e : Event) : Bool := threshold.rank ≤ e.severity.rank

/-- What an event adds to the written text. -/
def linesOf (j : Journal) (e : Event) : Except Misplaced Text :=
  if passes j.threshold e then (lines j.isJson j.document j.now e).map (· ++ ['\n']) else .ok []

/-- Keeps an event and writes it, if it can be written. -/
def report (e : Event) (j : Journal) : Journal :=
  { j with events := e :: j.events, written := j.written ++ (j.linesOf e).toOption.getD [] }

/-- A call that changes the journal. -/
inductive Call where
  | configure (level format : Text)
  | setDocument (document : Text)
  | clearDocument
  | report (e : Event)

/-- What a call writes, and the journal after it. -/
def Call.run (j : Journal) : Call → Except Misplaced (Text × Journal)
  | configure level format => .ok ([], j.configure level format)
  | setDocument document => .ok ([], j.setDocument document)
  | clearDocument => .ok ([], j.clearDocument)
  | report e => (j.linesOf e).map fun t => (t, j.report e)

/-- The text that each of some calls writes. -/
def texts (j : Journal) : List Call → Except Misplaced (List Text)
  | [] => .ok []
  | c :: calls => do
    let (t, j) ← c.run j
    return t :: (← texts j calls)

end Journal
end DfaTable
