import DfaTable.Proofs.Table.Lines
import Mathlib.Algebra.GroupWithZero.Nat

/-!
# DfaTable.Proofs.Table.Accounting

What is counted and reported while an automaton is compiled, against the automaton itself. Two
things are looked at for every edge, apart from each other: whether its label has codes, and whether
it is reported.

* `codes_of_isReported`: a label that is reported has no codes, so no more edges are reported than
  are empty.
* `length_records_ofAutomaton`, `emptyCount_ofTransitions`: the counts of a table.
* `events_ofTransitions`: the events, which come one after the other as the edges do.
* `accounts_ofAutomaton`: all of it, with the events in their order.
-/

namespace DfaTable

open Journal

namespace Label

theorem warning?_expand (label : Text) :
    (expand label).warning? =
      if (expand label).isReported then some (warningText label) else none := by
  rw [Expansion.warning?, label_expand]

/-- What is reported stands for nothing. -/
theorem codes_of_isReported {label : Text} (h : (expand label).isReported = true) :
    (expand label).codes = [] := by
  have hu : (classify label).shape = .unrecognized := by
    rw [← shape_expand]
    exact beq_iff_eq.1 h
  exact codes_eq (by rw [Classified.codes?, hu])

end Label

namespace Table

/-- The codes of the label of an edge. -/
def codesOf (e : Transition) : List Int := (Label.expand e.label).codes

/-- What the label of an edge is reported for, if it is. -/
def warningOf? (e : Transition) : Option Text := (Label.expand e.label).warning?

/-- A table accounts for an automaton. -/
structure Accounts (a : Automaton) (t : Table) : Prop where
  stateCount_eq : t.stateCount = a.states.length
  transitionCount_eq : t.transitionCount = a.transitions.length
  /-- There is one record for each state, one for each code of each edge, and the end. -/
  length_records : t.records.length =
    t.stateCount + (a.transitions.map fun e => (codesOf e).length).sum + 1
  emptyCount_eq : t.emptyCount = a.transitions.countP fun e => (codesOf e).isEmpty
  /-- There is a warning for each edge that has one, in their order. -/
  warnings_eq : t.warnings = a.transitions.filterMap warningOf?
  labels_eq : t.reported.map (·.label) =
    (a.transitions.filter fun e => (warningOf? e).isSome).map (·.label)
  length_warnings_le : t.warnings.length ≤ t.emptyCount
  emptyCount_le : t.emptyCount ≤ t.transitionCount
  /-- The events are one for the states, one for each warning, and one for the edges. -/
  events_eq : t.events =
    [{ severity := .info, source := eventSource, name := "states_processed".toList
       fields := [countField "states" a.states.length] }] ++
    ((a.transitions.filter fun e => (warningOf? e).isSome).map fun e =>
      { severity := .warning, source := eventSource, name := "label_unrecognized".toList
        fields := [textField "label" e.label, countField "source" e.source,
          countField "target" e.target] }) ++
    [{ severity := .info, source := eventSource, name := "transitions_processed".toList
       fields := [countField "transitions" a.transitions.length,
         countField "empty_transitions" (a.transitions.countP fun e => (codesOf e).isEmpty)] }]

variable {edges : List Transition}

/-! ## The edges one after the other -/

theorem isSome_warningOf? (e : Transition) :
    (warningOf? e).isSome = (Label.expand e.label).isReported := by
  rw [warningOf?, Label.warning?_expand]
  split <;> simp_all

theorem transitionCount_ofTransitions (edges : List Transition) :
    (ofTransitions edges).transitionCount = edges.length := by
  induction edges with
  | nil => rfl
  | cons e edges ih => simp [ofTransitions, ih]

theorem emptyCount_ofTransitions (edges : List Transition) :
    (ofTransitions edges).emptyCount = edges.countP fun e => (codesOf e).isEmpty := by
  induction edges with
  | nil => rfl
  | cons e edges ih =>
    rw [List.countP_cons, ← ih]
    cases hc : codesOf e with
    | nil => simp [ofTransitions, show (Label.expand e.label).codes = [] from hc]
    | cons code codes =>
      simp [ofTransitions, show (Label.expand e.label).codes = code :: codes from hc]

theorem reported_eq_filter (edges : List Transition) :
    (ofTransitions edges).reported = edges.filter fun e => (warningOf? e).isSome := by
  rw [reported_ofTransitions]
  exact List.filter_congr fun e _ => (isSome_warningOf? e).symm

theorem warnings_eq_filterMap (a : Automaton) :
    (ofAutomaton a).warnings = a.transitions.filterMap warningOf? := by
  rw [warnings_ofAutomaton]
  induction a.transitions with
  | nil => rfl
  | cons e edges ih =>
    rw [List.filterMap_cons, List.filter_cons, warningOf?, Label.warning?_expand]
    split <;> simp_all

/-- Each edge that is reported adds its event where its turn comes, and no other one does. -/
theorem events_ofTransitions (edges : List Transition) :
    (ofTransitions edges).events =
      (edges.filter fun e => (warningOf? e).isSome).map reportEvent := by
  induction edges with
  | nil => rfl
  | cons e edges ih =>
    simp only [ofTransitions, List.filter_cons, isSome_warningOf?]
    simp only [isSome_warningOf?] at ih
    split
    · rw [ih, List.map_cons]
    · exact ih

/-- Of each edge that is reported the label has no codes, so that it is empty. -/
theorem countP_warningOf?_le (edges : List Transition) :
    (edges.filter fun e => (warningOf? e).isSome).length ≤
      edges.countP fun e => (codesOf e).isEmpty := by
  rw [← List.countP_eq_length_filter]
  refine List.countP_mono_left fun e _ h => ?_
  rw [isSome_warningOf?] at h
  exact List.isEmpty_iff.2 (Label.codes_of_isReported h)

theorem length_records_ofAutomaton (a : Automaton) :
    (ofAutomaton a).records.length =
      a.states.length + (a.transitions.map fun e => (codesOf e).length).sum + 1 := by
  have hblock : ∀ e : Transition, (block e).length = (codesOf e).length := fun e =>
    List.length_map _
  rw [records_ofAutomaton, List.length_append, List.length_append, List.length_map,
    List.length_flatMap]
  simp only [hblock, List.length_singleton]
  omega

/-! ## The whole table -/

/-- The counts, the warnings and the events of a table are those that its automaton asks for. -/
theorem accounts_ofAutomaton (a : Automaton) : Accounts a (ofAutomaton a) where
  stateCount_eq := rfl
  transitionCount_eq := transitionCount_ofTransitions a.transitions
  length_records := length_records_ofAutomaton a
  emptyCount_eq := emptyCount_ofTransitions a.transitions
  warnings_eq := warnings_eq_filterMap a
  labels_eq := congrArg (List.map (·.label)) (reported_eq_filter a.transitions)
  length_warnings_le := by
    have hw : (ofAutomaton a).warnings.length = (ofTransitions a.transitions).reported.length :=
      List.length_map _
    have he : (ofAutomaton a).emptyCount = _ := emptyCount_ofTransitions a.transitions
    rw [hw, he, reported_eq_filter]
    exact countP_warningOf?_le a.transitions
  emptyCount_le := by
    have he : (ofAutomaton a).emptyCount = _ := emptyCount_ofTransitions a.transitions
    have ht : (ofAutomaton a).transitionCount = _ := transitionCount_ofTransitions a.transitions
    rw [he, ht]
    exact List.countP_le_length
  events_eq := by
    have he : (ofAutomaton a).emptyCount = _ := emptyCount_ofTransitions a.transitions
    have ht : (ofAutomaton a).transitionCount = _ := transitionCount_ofTransitions a.transitions
    have hr : (ofTransitions a.transitions).events = _ := events_ofTransitions a.transitions
    show statesEvent a.states.length :: (ofTransitions a.transitions).events ++
      [transitionsEvent (ofAutomaton a).transitionCount (ofAutomaton a).emptyCount] = _
    rw [he, ht, hr]
    rfl

end Table
end DfaTable
