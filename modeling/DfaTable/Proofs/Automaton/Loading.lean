import DfaTable.Proofs.Automaton.Elements
import DfaTable.Proofs.Markup.Running

/-!
# DfaTable.Proofs.Automaton.Loading

What loading a document comes to. `Loads` has one rule for each outcome, told by the elements of the
document alone; `loads_iff` says that these are the outcomes, each where its rule holds.
-/

namespace DfaTable

open Text Markup

namespace Markup.Forest

/-- A forest has no first element just where it has none of any name. -/
theorem root?_eq_none_iff {f : Forest} : f.root? = none ↔ ∀ name, f.elements name = [] := by
  induction f with
  | nil => simp [root?, elements]
  | text t rest ih => simpa [root?, elements] using ih
  | remark rest ih => simpa [root?, elements] using ih
  | element tag attributes inner rest =>
    simp only [root?, reduceCtorEq, false_iff, not_forall]
    exact ⟨tag.name, by simp [elements]⟩

end Markup.Forest

namespace Markup.Source

/-- The states of a document, also those inside other elements, in document order. -/
def states (s : Source) : List Element := (Forest.ofSource s).elements "state".toList

/-- The transitions of a document, also those inside other elements, in document order. -/
def transitions (s : Source) : List Element := (Forest.ofSource s).elements "transition".toList

/-- The document is blank, or no element starts in it. -/
def IsRootless (s : Source) : Prop :=
  s.IsBlank ∨ ∀ name, (Forest.ofSource s).elements name = []

theorem isRootless_iff {s : Source} : s.IsRootless ↔ (Forest.ofSource s).root? = none := by
  rw [IsRootless, ← Forest.root?_eq_none_iff]
  exact or_iff_right_of_imp root?_ofSource_of_isBlank

end Markup.Source

/-- The reports of some elements as one message. -/
def reports (defect : Element → Defect) (es : List Element) : Text :=
  join [';', ' '] (es.map fun e => (defect e).message)

/-- What loading a document comes to. Where two things are wrong, the rule that comes first holds:
of the states before the transitions, and of long numbers before all that is reported. -/
inductive Loads (path : Text) (s : Source) :
    Except Oversized (Except LoadError Automaton) → Prop where
  | noRoot : s.IsRootless →
      Loads path s (.ok (.error { path, message := "no XML root element".toList }))
  | longState {before after : List Element} {e : Element} {k : Nat} : ¬ s.IsRootless →
      s.states = before ++ e :: after →
      (∀ x ∈ before, ∀ j, ¬ IsTooLong (State.idIn x) j) → IsTooLong (State.idIn e) k →
      Loads path s (.error ⟨k⟩)
  | faultyStates : ¬ s.IsRootless →
      (∀ e ∈ s.states, ∀ k, ¬ IsTooLong (State.idIn e) k) →
      (∃ e ∈ s.states, IsNoNumber (State.idIn e)) →
      Loads path s (.ok (.error {
        path
        message := reports (fun e => .id (State.idIn e))
          (s.states.filter fun e => IsNoNumber (State.idIn e)) }))
  | longTransition {before after : List Element} {e : Element} {k : Nat} : ¬ s.IsRootless →
      (∀ e ∈ s.states, ∃ n, Denotes (State.idIn e) n) →
      s.transitions = before ++ e :: after →
      (∀ x ∈ before, ∀ j, ¬ Transition.BreaksOff x j) → Transition.BreaksOff e k →
      Loads path s (.error ⟨k⟩)
  | faultyTransitions : ¬ s.IsRootless →
      (∀ e ∈ s.states, ∃ n, Denotes (State.idIn e) n) →
      (∀ e ∈ s.transitions, ∀ k, ¬ Transition.BreaksOff e k) →
      (∃ e ∈ s.transitions, Transition.IsFaulty e) →
      Loads path s (.ok (.error {
        path
        message := reports Transition.defectIn
          (s.transitions.filter fun e => Transition.IsFaulty e) }))
  | loaded {states : List State} {transitions : List Transition} : ¬ s.IsRootless →
      List.Forall₂ State.IsOf s.states states →
      List.Forall₂ Transition.IsOf s.transitions transitions →
      Loads path s (.ok (.ok {
        states, transitions, kind := textInside "type" (Forest.ofSource s) }))

section
variable {path : Text} {s : Source}

/-- Every state has a number just where all states can be read. -/
theorem forall_denotes_iff : (∀ e ∈ s.states, ∃ n, Denotes (State.idIn e) n) ↔
    ∃ states, List.Forall₂ State.IsOf s.states states := by
  generalize s.states = es
  induction es with
  | nil => exact ⟨fun _ => ⟨[], .nil⟩, by simp⟩
  | cons e es ih =>
    rw [List.forall_mem_cons, ih]
    constructor
    · rintro ⟨⟨n, hn⟩, states, hs⟩
      exact ⟨_, .cons (State.isOf_iff.2 ⟨n, hn, rfl⟩) hs⟩
    · rintro ⟨states, hs⟩
      cases hs with
      | cons he hs => exact ⟨⟨_, he.id⟩, _, hs⟩

theorem message_defects {defect : Element → Defect} {es : List Element} :
    (LoadProblem.defects (es.map defect)).message = reports defect es := by
  show join [';', ' '] ((es.map defect).map Defect.message) = _
  rw [List.map_map]
  rfl

/-! The outcomes of loading, from those of reading the states and the transitions. -/

theorem loadSource_of_isRootless (h : s.IsRootless) :
    loadSource path s = .ok (.error { path, message := "no XML root element".toList }) := by
  have hr := Source.isRootless_iff.1 h
  simp only [loadSource, Automaton.ofSource, Automaton.ofForest, hr]
  rfl

theorem isNone_root? (h : ¬ s.IsRootless) : (Forest.ofSource s).root?.isNone = false := by
  rw [Source.isRootless_iff] at h
  cases hr : (Forest.ofSource s).root? with
  | none => exact absurd hr h
  | some e => rfl

theorem loadSource_of_states_error (h : ¬ s.IsRootless) {k : Nat}
    (hs : readAll State.ofElement "state" (Forest.ofSource s) = .error ⟨k⟩) :
    loadSource path s = .error ⟨k⟩ := by
  simp only [loadSource, Automaton.ofSource, Automaton.ofForest, isNone_root? h, hs]
  rfl

theorem loadSource_of_states_defects (h : ¬ s.IsRootless) {ds : List Defect}
    (hs : readAll State.ofElement "state" (Forest.ofSource s) = .ok (.error ds)) :
    loadSource path s = .ok (.error { path, message := (LoadProblem.defects ds).message }) := by
  simp only [loadSource, Automaton.ofSource, Automaton.ofForest, isNone_root? h, hs]
  rfl

theorem loadSource_of_states_ok (h : ¬ s.IsRootless) {states : List State}
    (hs : readAll State.ofElement "state" (Forest.ofSource s) = .ok (.ok states)) :
    loadSource path s =
      (readAll Transition.ofElement "transition" (Forest.ofSource s)).map fun
        | .error ds => .error { path, message := (LoadProblem.defects ds).message }
        | .ok transitions =>
          .ok { states, transitions, kind := textInside "type" (Forest.ofSource s) } := by
  simp only [loadSource, Automaton.ofSource, Automaton.ofForest, isNone_root? h, hs]
  rcases readAll Transition.ofElement "transition" (Forest.ofSource s) with o | ds | ts <;> rfl

/-- The outcome that a rule names is the one that loading comes to. -/
theorem Loads.eq {r : Except Oversized (Except LoadError Automaton)} (h : Loads path s r) :
    loadSource path s = r := by
  have states_ok : (∀ e ∈ s.states, ∃ n, Denotes (State.idIn e) n) →
      ∃ states, readAll State.ofElement "state" (Forest.ofSource s) = .ok (.ok states) := by
    intro hd
    obtain ⟨states, hs⟩ := forall_denotes_iff.1 hd
    exact ⟨states, (readAll_eq_ok_iff State.readsBy).2 hs⟩
  cases h with
  | noRoot h => exact loadSource_of_isRootless h
  | longState h hs hb he =>
    exact loadSource_of_states_error h
      ((readAll_eq_error_iff State.readsBy).2 ⟨_, _, _, hs, hb, he⟩)
  | faultyStates h hb hf =>
    rw [loadSource_of_states_defects h
      ((readAll_eq_defects_iff State.readsBy).2 ⟨hb, hf, rfl⟩), message_defects]
    rfl
  | longTransition h hd ht hb he =>
    obtain ⟨states, hs⟩ := states_ok hd
    rw [loadSource_of_states_ok h hs,
      (readAll_eq_error_iff Transition.readsBy).2 ⟨_, _, _, ht, hb, he⟩]
    rfl
  | faultyTransitions h hd hb hf =>
    obtain ⟨states, hs⟩ := states_ok hd
    rw [loadSource_of_states_ok h hs,
      (readAll_eq_defects_iff Transition.readsBy).2 ⟨hb, hf, rfl⟩]
    simp only [Except.map, message_defects]
    rfl
  | loaded h hs ht =>
    rw [loadSource_of_states_ok h ((readAll_eq_ok_iff State.readsBy).2 hs),
      (readAll_eq_ok_iff Transition.readsBy).2 ht]
    rfl

/-- Some rule holds of every document. -/
theorem exists_loads (path : Text) (s : Source) : ∃ r, Loads path s r := by
  by_cases h : s.IsRootless
  · exact ⟨_, .noRoot h⟩
  rcases hs : readAll State.ofElement "state" (Forest.ofSource s) with o | ds | states
  · obtain ⟨before, e, after, he, hb, hk⟩ := (readAll_eq_error_iff State.readsBy).1 hs
    exact ⟨_, .longState h he hb hk⟩
  · obtain ⟨hb, hf, -⟩ := (readAll_eq_defects_iff State.readsBy).1 hs
    exact ⟨_, .faultyStates h hb hf⟩
  · have hf := (readAll_eq_ok_iff State.readsBy).1 hs
    have hd := forall_denotes_iff.2 ⟨states, hf⟩
    rcases ht : readAll Transition.ofElement "transition" (Forest.ofSource s) with o | ds | ts
    · obtain ⟨before, e, after, he, hb, hk⟩ := (readAll_eq_error_iff Transition.readsBy).1 ht
      exact ⟨_, .longTransition h hd he hb hk⟩
    · obtain ⟨hb, hf, -⟩ := (readAll_eq_defects_iff Transition.readsBy).1 ht
      exact ⟨_, .faultyTransitions h hd hb hf⟩
    · exact ⟨_, .loaded h hf ((readAll_eq_ok_iff Transition.readsBy).1 ht)⟩

end

/-- What loading comes to has a rule. -/
theorem loads_loadSource (path : Text) (s : Source) : Loads path s (loadSource path s) := by
  obtain ⟨r, hr⟩ := exists_loads path s
  rw [hr.eq]
  exact hr

/-- Loading comes to what the rules say, and to nothing else; so just one outcome has a rule. -/
theorem loads_iff {path : Text} {s : Source} {r : Except Oversized (Except LoadError Automaton)} :
    Loads path s r ↔ loadSource path s = r := by
  constructor
  · exact Loads.eq
  · rintro rfl
    exact loads_loadSource path s

end DfaTable
