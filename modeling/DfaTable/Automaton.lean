import DfaTable.Text

/-!
# DfaTable.Automaton

A finite automaton as it was drawn: its states and its labelled edges, both in document order.
Nothing ties the ends of an edge to the states.
-/

namespace DfaTable

structure State where
  id : Int
  isFinal : Bool := false
  isInitial : Bool := false
  name : Option Text := none
deriving DecidableEq, Repr

structure Transition where
  source : Int
  target : Int
  label : Text
deriving DecidableEq, Repr

structure Automaton where
  states : List State
  transitions : List Transition
  /-- What the document calls this sort of machine. -/
  kind : Option Text
deriving DecidableEq, Repr

end DfaTable
