import DfaTable.Automaton
import DfaTable.Journal.Event
import DfaTable.Label.Codes
import DfaTable.Record

/-!
# DfaTable.Table

The table of an automaton: the states in document order, then for every edge one record per symbol
code, then the sentinel. An edge whose label accepts nothing adds no record and stops nothing.
-/

namespace DfaTable

open Journal

/-- The record of a state; its name is not part of a table. -/
def State.record (s : State) : Record := .state s.id s.isFinal s.isInitial

/-- The records of an edge whose label accepts the given codes. -/
def Transition.records (t : Transition) (codes : List Int) : List Record :=
  codes.map fun code => .trans t.source t.target code

/-- The records of an automaton, the labels to be reported, and what was reported and counted on the
way. -/
structure Table where
  records : List Record
  reported : List Transition
  events : List Event
  stateCount : Nat
  transitionCount : Nat
  /-- The number of edges whose labels accept nothing. -/
  emptyCount : Nat

namespace Table

/-- The source of the events of a conversion. -/
def eventSource : Text := "pipeline.converter".toList

def statesEvent (count : Nat) : Event where
  severity := .info
  source := eventSource
  name := "states_processed".toList
  fields := [countField "states" count]

def reportEvent (e : Transition) : Event where
  severity := .warning
  source := eventSource
  name := "label_unrecognized".toList
  fields :=
    [textField "label" e.label, countField "source" e.source, countField "target" e.target]

def transitionsEvent (count emptyCount : Nat) : Event where
  severity := .info
  source := eventSource
  name := "transitions_processed".toList
  fields := [countField "transitions" count, countField "empty_transitions" emptyCount]

/-- The part of a table that comes from the edges, with the sentinel. An edge that is reported is so
while its records are made. -/
def ofTransitions : List Transition → Table
  | [] =>
    { records := [.sentinel], reported := [], events := [], stateCount := 0, transitionCount := 0,
      emptyCount := 0 }
  | t :: rest =>
    let expansion := Label.expand t.label
    let table := ofTransitions rest
    { records := t.records expansion.codes ++ table.records
      reported := if expansion.isReported then t :: table.reported else table.reported
      events := if expansion.isReported then reportEvent t :: table.events else table.events
      stateCount := 0
      transitionCount := table.transitionCount + 1
      emptyCount := if expansion.codes.isEmpty then table.emptyCount + 1 else table.emptyCount }

/-- The table of an automaton: what is reported of the edges stands between the two counts. -/
def ofAutomaton (a : Automaton) : Table :=
  let table := ofTransitions a.transitions
  { table with
    records := a.states.map State.record ++ table.records
    events := statesEvent a.states.length :: table.events ++
      [transitionsEvent table.transitionCount table.emptyCount]
    stateCount := a.states.length }

/-- The lines of a table, without their ends, unless a number in them is too long to be written. -/
def lines? (t : Table) : Option (List Text) := t.records.mapM Record.render?

/-- One warning for each reported edge. -/
def warnings (t : Table) : List Text := t.reported.map fun e => Label.warningText e.label

end Table
end DfaTable
