import DfaTable.Proofs.Automaton.Elements
import DfaTable.Proofs.Markup.Ways

/-!
# DfaTable.Proofs.Automaton.Flags

Which marks in a document set the flags of which states. A mark belongs to the nearest state around
it; it sets the flag of that state and of all states around that one.

* `FlagsAt`: a flag of a state is set if the state, or one inside it, owns a mark; the exact condition
  under which the flags of a state are its own.
* `State.exists_ofElement_putAt`: what one mark more does to the states of a document.
* `flags_of_owners`: both, for each element and for the states of a document.
-/

namespace DfaTable

open Text Markup

inductive Flag where
  | final
  | initial
deriving DecidableEq, Repr

namespace Flag

/-- The name of the elements that set the flag. -/
def name : Flag → Text
  | final => "final".toList
  | initial => "initial".toList

/-- An element that sets the flag. -/
def mark (m : Flag) : Forest := .element ⟨none, m.name⟩ [] .nil .nil

theorem elements_mark_ne_nil_iff {m k : Flag} : m.mark.elements k.name ≠ [] ↔ k = m := by
  cases m <;> cases k <;> decide +kernel

end Flag

namespace State

def flag (s : State) : Flag → Bool
  | .final => s.isFinal
  | .initial => s.isInitial

/-- The state with a flag set. -/
def raise (s : State) : Flag → State
  | .final => { s with isFinal := true }
  | .initial => { s with isInitial := true }

theorem flag_raise (s : State) (m k : Flag) :
    (s.raise m).flag k = true ↔ s.flag k = true ∨ k = m := by
  cases m <;> cases k <;> simp [raise, flag]

@[simp] theorem id_raise (s : State) (m : Flag) : (s.raise m).id = s.id := by cases m <;> rfl

@[simp] theorem name_raise (s : State) (m : Flag) : (s.raise m).name = s.name := by
  cases m <;> rfl

theorem isOf_iff_flag {e : Element} {s : State} :
    IsOf e s ↔ Denotes (idIn e) s.id ∧ s.name = e.attribute? "name".toList ∧
      ∀ m : Flag, s.flag m = true ↔ e.inner.elements m.name ≠ [] := by
  constructor
  · rintro ⟨hid, hfinal, hinitial, hname⟩
    exact ⟨hid, hname, fun | .final => hfinal | .initial => hinitial⟩
  · rintro ⟨hid, hname, hflag⟩
    exact ⟨hid, hflag .final, hflag .initial, hname⟩

end State

namespace Markup.Forest

/-- There is an element with a name to which the state is the nearest around. -/
def Owns (f : Forest) (u : Way) (name : Text) : Prop :=
  ∃ v ∈ f.ways name, f.IsNearest "state".toList u v

instance (f : Forest) (u : Way) (name : Text) : Decidable (f.Owns u name) :=
  List.decidableBEx _ _

end Markup.Forest

section
variable {f : Forest} {w u : Way} {tag : Tag} {e : Element} {s : State}

/-- What is inside a state belongs to it or to a state inside it. -/
theorem elements_inner_ne_nil_iff_owns (h : f.at? w = some (tag, e))
    (hstate : tag.name = "state".toList) {name : Text} :
    e.inner.elements name ≠ [] ↔ ∃ u, w <+: u ∧ f.Owns u name := by
  rw [Forest.elements_inner_ne_nil_iff h]
  constructor
  · rintro ⟨v, hv, haround⟩
    have hw : w ∈ f.ways "state".toList := Forest.mem_ways_iff.2 ⟨tag, e, h, hstate⟩
    obtain ⟨u, hu, hnearest⟩ := Forest.exists_isNearest hw haround
    exact ⟨u, hu, v, hv, hnearest⟩
  · rintro ⟨u, hu, v, hv, hnearest⟩
    exact ⟨v, hv, hnearest.isAround.of_prefix hu⟩

/-- The flags of the state of an element that stands at the end of a way. -/
structure FlagsAt (f : Forest) (w : Way) (s : State) : Prop where
  /-- A flag is set by the marks of the state and of the states inside it. -/
  flag_eq_true_iff : ∀ m : Flag, s.flag m = true ↔ ∃ u, w <+: u ∧ f.Owns u m.name
  /-- It tells whether the state has a mark of its own, unless only states inside it have one. -/
  isOwn_iff : ∀ m : Flag, (s.flag m = true ↔ f.Owns w m.name) ↔
    (f.Owns w m.name ∨ ∀ u, w.IsAround u → ¬ f.Owns u m.name)

theorem State.IsOf.flagsAt (hs : State.IsOf e s) (h : f.at? w = some (tag, e))
    (hstate : tag.name = "state".toList) : FlagsAt f w s := by
  have hset : ∀ m : Flag, s.flag m = true ↔ ∃ u, w <+: u ∧ f.Owns u m.name := fun m =>
    ((State.isOf_iff_flag.1 hs).2.2 m).trans (elements_inner_ne_nil_iff_owns h hstate)
  refine ⟨hset, fun m => ?_⟩
  rw [hset]
  constructor
  · intro hown
    by_contra hne
    push Not at hne
    obtain ⟨hw, u, hu, howns⟩ := hne
    exact hw (hown.1 ⟨u, hu.1, howns⟩)
  · rintro (hw | hnone)
    · exact ⟨fun _ => hw, fun _ => ⟨w, List.prefix_refl w, hw⟩⟩
    · refine ⟨fun ⟨u, hu, howns⟩ => ?_, fun hw => ⟨w, List.prefix_refl w, hw⟩⟩
      by_cases he : w = u
      · exact he ▸ howns
      · exact absurd howns (hnone u ⟨hu, he⟩)

/-- One mark more raises the flag of the states that it is put into, and changes nothing else of
any state. -/
theorem State.exists_ofElement_putAt (h : f.at? w = some (tag, e))
    (hs : State.ofElement e = .ok (.ok s)) (hu : (f.at? u).isSome = true) (m : Flag) :
    ∃ e', (m.mark.putAt f u).at? w = some (tag, e') ∧
      State.ofElement e' = .ok (.ok (if w <+: u then s.raise m else s)) := by
  obtain ⟨e', hat, ha, he⟩ := Forest.exists_at?_putAt m.mark h hu
  obtain ⟨hid, hname, hflag⟩ := State.isOf_iff_flag.1 ((State.readsBy.ok_iff e s).1 hs)
  have hattribute : ∀ name, e'.attribute? name = e.attribute? name := fun name => by
    rw [Element.attribute?, ha, Element.attribute?]
  refine ⟨e', hat, (State.readsBy.ok_iff e' _).2 (State.isOf_iff_flag.2 ?_)⟩
  rw [State.idIn, hattribute, hattribute]
  by_cases hw : w <+: u
  · rw [if_pos hw, State.id_raise, State.name_raise]
    refine ⟨hid, hname, fun k => ?_⟩
    rw [State.flag_raise, hflag, he, Flag.elements_mark_ne_nil_iff, and_iff_right hw]
  · rw [if_neg hw]
    refine ⟨hid, hname, fun k => ?_⟩
    rw [hflag, he, or_iff_left fun h => hw h.1]

end

theorem Automaton.readAll_of_ofForest {f : Forest} {a : Automaton}
    (h : Automaton.ofForest f = .ok (.ok a)) :
    readAll State.ofElement "state" f = .ok (.ok a.states) := by
  simp only [Automaton.ofForest] at h
  split at h
  · cases h
  · split at h
    · cases h
    · cases h
    · rename_i states hstates
      split at h <;> cases h
      exact hstates

/-- A mark sets the flag of the nearest state around it and of all states around that one, in each
element and in each document that is loaded; so the flags of a state are its own only if it has a
mark itself or no state inside it has one. A mark that is put into a state raises the flag of that
state and of those around it, and changes nothing else of any state. -/
theorem flags_of_owners (f : Forest) :
    (∀ w tag e s, f.at? w = some (tag, e) → tag.name = "state".toList →
      State.ofElement e = .ok (.ok s) → FlagsAt f w s) ∧
    (∀ a, Automaton.ofForest f = .ok (.ok a) →
      List.Forall₂ (FlagsAt f) (f.ways "state".toList) a.states) ∧
    ∀ u ∈ f.ways "state".toList, ∀ (m : Flag) w tag e s, f.at? w = some (tag, e) →
      State.ofElement e = .ok (.ok s) →
      ∃ e', (m.mark.putAt f u).at? w = some (tag, e') ∧
        State.ofElement e' = .ok (.ok (if w <+: u then s.raise m else s)) := by
  refine ⟨fun w tag e s hat hstate hs => ?_, fun a ha => ?_, fun u hu m w tag e s hat hs => ?_⟩
  · exact ((State.readsBy.ok_iff e s).1 hs).flagsAt hat hstate
  · have hways := Forest.forall₂_elements_ways "state".toList f
    have hstates := (readAll_eq_ok_iff State.readsBy).1 (Automaton.readAll_of_ofForest ha)
    refine List.forall₂_iff_get.2 ⟨hways.length_eq.trans hstates.length_eq, fun i hw hs => ?_⟩
    have hi := hways.length_eq ▸ hw
    obtain ⟨tag, hat, hstate⟩ := hways.get hw hi
    exact (hstates.get hi hs).flagsAt hat hstate
  · obtain ⟨t, x, hu, -⟩ := Forest.mem_ways_iff.1 hu
    exact State.exists_ofElement_putAt hat hs (hu ▸ rfl) m

/-- A document in which only the inner one of two states has a mark. -/
def nestedStates : Source :=
  .text "<structure><state id='0'><state id='1'><final/></state></state></structure>".toList

def nestedTree : Forest :=
  .element ⟨none, "structure".toList⟩ [] (.element ⟨none, "state".toList⟩ [("id".toList, ['0'])]
    (.element ⟨none, "state".toList⟩ [("id".toList, ['1'])]
      (.element ⟨none, "final".toList⟩ [] .nil .nil) .nil) .nil) .nil

set_option maxRecDepth 10000 in
theorem tree_nestedStates : Forest.ofSource nestedStates = nestedTree := by decide +kernel

/-- Both states are final. -/
def nestedAutomaton : Automaton :=
  { states := [{ id := 0, isFinal := true }, { id := 1, isFinal := true }]
    transitions := []
    kind := none }

theorem ofForest_nestedTree : Automaton.ofForest nestedTree = .ok (.ok nestedAutomaton) := by
  decide +kernel

theorem ofSource_nestedStates :
    Automaton.ofSource nestedStates = .ok (.ok nestedAutomaton) := by
  rw [Automaton.ofSource, tree_nestedStates, ofForest_nestedTree]

/-- The mark of the inner state sets the flag of both. -/
theorem flags_of_owners_nestedStates :
    Automaton.ofSource nestedStates = .ok (.ok nestedAutomaton) ∧
    nestedTree.Owns [0, 0, 0] "final".toList ∧ ¬ nestedTree.Owns [0, 0] "final".toList ∧
    List.Forall₂ (FlagsAt nestedTree) [[0, 0], [0, 0, 0]] nestedAutomaton.states :=
  ⟨ofSource_nestedStates, by decide, by decide,
    (flags_of_owners nestedTree).2.1 nestedAutomaton ofForest_nestedTree⟩

/-- So the flags of a state are not always its own. -/
theorem exists_flag_ne_owns :
    ¬ ∀ (s : Source) (a : Automaton), Automaton.ofSource s = .ok (.ok a) →
      List.Forall₂ (fun w q => ∀ m : Flag,
        q.flag m = true ↔ (Forest.ofSource s).Owns w m.name)
        ((Forest.ofSource s).ways "state".toList) a.states := by
  intro h
  have hflags := h nestedStates nestedAutomaton ofSource_nestedStates
  rw [tree_nestedStates] at hflags
  cases hflags with
  | cons houter _ => exact absurd ((houter .final).1 rfl) (by decide)

end DfaTable
