import DfaTable.Proofs.Automaton.Loading
import DfaTable.Proofs.Label.Control
import DfaTable.Proofs.Numeral.Canonical
import DfaTable.Proofs.Table.Lines

/-!
# DfaTable.Proofs.Table.Control

The codes below the visible characters in the table of a document that was loaded.

* `isCollapsed_of_textInside`, `mem_content_of_textInside`: what is taken from a document is
  collapsed, and its characters come from the document.
* `hasShortNumbers_of_loaded`: the numbers that are taken from a document are not too long for a table.
* `control_codes_of_loaded`: only escapes and the end of the input bring such a code into the table.
-/

namespace DfaTable

open Text Markup

/-! ## The texts of a document -/

namespace Markup.Forest

/-- What is inside an element is part of what is in the forest. -/
theorem content_subset_of_mem_elements {f : Forest} {e : Element} {name : Text}
    (h : e ∈ f.elements name) : e.inner.content ⊆ f.content := by
  induction f with
  | nil => cases h
  | text t rest ih => exact fun c hc => List.mem_append_right _ (ih h hc)
  | remark rest ih => exact ih h
  | element tag attributes inner rest ihi ihr =>
    have hbelow : e ∈ inner.elements name ++ rest.elements name →
        e.inner.content ⊆ inner.content ++ rest.content := by
      intro hm
      rcases List.mem_append.1 hm with hm | hm
      · exact fun c hc => List.mem_append_left _ (ihi hm hc)
      · exact fun c hc => List.mem_append_right _ (ihr hm hc)
    rw [elements] at h
    split at h
    · rcases List.mem_cons.1 h with rfl | h
      · exact List.subset_append_left ..
      · exact hbelow h
    · exact hbelow h

end Markup.Forest

section
variable {f : Forest} {name : String} {t : Text}

theorem isCollapsed_of_textInside (h : textInside name f = some t) : IsCollapsed t := by
  obtain ⟨e, -, rfl⟩ := Option.map_eq_some_iff.1 h
  exact isCollapsed_collapse _

theorem mem_content_of_textInside (h : textInside name f = some t) {c : Char} (hc : c ∈ t) :
    c = ' ' ∨ c ∈ f.content := by
  obtain ⟨e, he, rfl⟩ := Option.map_eq_some_iff.1 h
  have hsub := Forest.content_subset_of_mem_elements (List.mem_of_head? he)
  exact (eq_space_or_mem_of_mem_collapse hc).imp_right fun hm => hsub hm

end

namespace Transition

variable {e : Element} {t : Transition}

theorem IsOf.isCollapsed (h : IsOf e t) : IsCollapsed t.label := by
  rw [h.label]
  cases hr : textInside "read" e.inner with
  | none => exact isCollapsed_nil
  | some label => exact isCollapsed_of_textInside hr

theorem IsOf.mem_content (h : IsOf e t) {c : Char} (hc : c ∈ t.label) :
    c = ' ' ∨ c ∈ e.inner.content := by
  rw [h.label] at hc
  cases hr : textInside "read" e.inner with
  | none =>
    rw [hr] at hc
    cases hc
  | some label =>
    rw [hr] at hc
    exact mem_content_of_textInside hr hc

end Transition

/-! ## What was loaded -/

section
variable {path : Text} {s : Source} {a : Automaton} {t : Transition}

/-- A state that was loaded is the one of an element of the document. -/
theorem exists_state_of_loaded (h : loadSource path s = .ok (.ok a)) {q : State}
    (hq : q ∈ a.states) : ∃ e ∈ s.states, State.IsOf e q := by
  cases h ▸ loads_loadSource path s with
  | loaded _ hqs => exact exists_of_forall₂ hqs hq

/-- A transition that was loaded is the one of an element of the document. -/
theorem exists_isOf_of_loaded (h : loadSource path s = .ok (.ok a)) (ht : t ∈ a.transitions) :
    ∃ e ∈ s.transitions, Transition.IsOf e t := by
  cases h ▸ loads_loadSource path s with
  | loaded _ _ hts => exact exists_of_forall₂ hts ht

theorem isCollapsed_label (h : loadSource path s = .ok (.ok a)) (ht : t ∈ a.transitions) :
    IsCollapsed t.label := by
  obtain ⟨e, -, ho⟩ := exists_isOf_of_loaded h ht
  exact ho.isCollapsed

theorem isCollapsed_kind (h : loadSource path s = .ok (.ok a)) {kind : Text}
    (hk : a.kind = some kind) : IsCollapsed kind := by
  cases h ▸ loads_loadSource path s with
  | loaded => exact isCollapsed_of_textInside hk

/-- Where a document holds only what markup can hold, so does each label. -/
theorem isChar_of_mem_label (h : loadSource path s = .ok (.ok a)) (ht : t ∈ a.transitions)
    (hx : ∀ c ∈ (Forest.ofSource s).content, isChar c = true) : ∀ c ∈ t.label, isChar c = true := by
  obtain ⟨e, he, ho⟩ := exists_isOf_of_loaded h ht
  intro c hc
  rcases ho.mem_content hc with rfl | hm
  · rfl
  · exact hx c (Forest.content_subset_of_mem_elements he hm)

end

/-! ## The size of the numbers -/

/-- What is read is never too long to be read again. -/
theorem Denotes.natAbs_lt {found : Option Text} {n : Int} (h : Denotes found n) :
    n.natAbs < 10 ^ Numeral.digitLimit := by
  obtain ⟨t, rfl, hn⟩ := h
  exact Numeral.natAbs_lt_of_read (Numeral.read_eq_ok_iff.2 hn)

section
variable {path : Text} {s : Source} {a : Automaton}

theorem natAbs_id_lt (h : loadSource path s = .ok (.ok a)) {q : State} (hq : q ∈ a.states) :
    q.id.natAbs < 10 ^ Numeral.digitLimit := by
  obtain ⟨e, -, he⟩ := exists_state_of_loaded h hq
  exact he.id.natAbs_lt

theorem natAbs_ends_lt (h : loadSource path s = .ok (.ok a)) {t : Transition}
    (ht : t ∈ a.transitions) :
    t.source.natAbs < 10 ^ Numeral.digitLimit ∧ t.target.natAbs < 10 ^ Numeral.digitLimit := by
  obtain ⟨e, -, he⟩ := exists_isOf_of_loaded h ht
  exact ⟨he.source.natAbs_lt, he.target.natAbs_lt⟩

/-- Every number of a document that was loaded is short enough for its table. -/
theorem hasShortNumbers_of_loaded (h : loadSource path s = .ok (.ok a)) :
    Table.HasShortNumbers a :=
  ⟨fun _ hq => natAbs_id_lt h hq, fun _ ht _ => natAbs_ends_lt h ht⟩

/-- So all of its records can be written. -/
theorem isShort_of_loaded (h : loadSource path s = .ok (.ok a)) :
    ∀ r ∈ (Table.ofAutomaton a).records, r.IsShort :=
  (Table.forall_isShort_iff a).2 (hasShortNumbers_of_loaded h)

end

/-! ## The table -/

theorem Table.mem_spelledLines_trans_iff {a : Automaton} {source target code : Int} :
    (Record.trans source target code).spelled ∈ (Table.ofAutomaton a).spelledLines ↔
      ∃ t ∈ a.transitions, t.source = source ∧ t.target = target ∧
        code ∈ (Label.expand t.label).codes := by
  rw [← List.count_pos_iff, Table.count_trans, List.countP_pos_iff]
  simp only [decide_eq_true_eq]

/-- A line of a table is that of a transition just where an edge asks for it. -/
theorem Table.exists_transition_of_mem_lines {a : Automaton} {lines : List Text}
    (hl : (Table.ofAutomaton a).lines? = some lines) {source target code : Int} {line : Text}
    (hr : (Record.trans source target code).render? = some line) (h : line ∈ lines) :
    ∃ t ∈ a.transitions, t.source = source ∧ t.target = target ∧
      code ∈ (Label.expand t.label).codes := by
  obtain ⟨-, rfl⟩ := Table.lines?_eq_some_iff.1 hl
  obtain ⟨-, rfl⟩ := Record.render?_eq_some_iff.1 hr
  exact Table.mem_spelledLines_trans_iff.1 h

/-- The labels and the kind of an automaton that was loaded are collapsed: they stay as they are
when they are collapsed again, and each blank in them is a single space between two characters that
are none. The table has lines. So if the document holds only what markup can hold, a line with a code
below the visible characters comes from labels that name this code, by an escape or as the end of the
input. -/
theorem control_codes_of_loaded {path : Text} {s : Source} {a : Automaton}
    (h : loadSource path s = .ok (.ok a)) :
    (∀ t : Text, collapse (collapse t) = collapse t) ∧
    (∀ t ∈ a.transitions, collapse t.label = t.label ∧ IsCollapsed t.label) ∧
    (∀ kind, a.kind = some kind → collapse kind = kind ∧ IsCollapsed kind) ∧
    (∃ lines, (Table.ofAutomaton a).lines? = some lines) ∧
    ((∀ c ∈ (Forest.ofSource s).content, isChar c = true) →
      ∀ lines, (Table.ofAutomaton a).lines? = some lines →
        ∀ source target code : Int, code < 33 → ∀ line ∈ lines,
        (Record.trans source target code).render? = some line →
        (∃ t ∈ a.transitions, t.source = source ∧ t.target = target ∧
          code ∈ (Label.expand t.label).codes) ∧
        ∀ t ∈ a.transitions, t.source = source → t.target = target →
          code ∈ (Label.expand t.label).codes → Label.NamesControl t.label code ∧
            ((Label.expand t.label).shape = .escape ∨
              (Label.expand t.label).shape = .endOfInput)) := by
  refine ⟨collapse_collapse, fun t ht => ?_, fun kind hk => ?_,
    ⟨_, Table.lines?_eq_some_iff.2 ⟨hasShortNumbers_of_loaded h, rfl⟩⟩,
    fun hx lines hlines source target code hc line hm hr => ?_⟩
  · have hl := isCollapsed_label h ht
    exact ⟨hl.collapse_eq, hl⟩
  · have hl := isCollapsed_kind h hk
    exact ⟨hl.collapse_eq, hl⟩
  · refine ⟨Table.exists_transition_of_mem_lines hlines hr hm, fun t ht _ _ hcode => ?_⟩
    have hn : Label.NamesControl t.label code :=
      (Label.accepts_of_mem_codes hcode).namesControl (isCollapsed_label h ht)
        (isChar_of_mem_label h ht hx) hc
    exact ⟨hn, hn.shape⟩

/-- A document with one edge, whose label is the name of the space between blanks. -/
def spaceEdge : Source :=
  .text ("<a><state id='0'/><transition><from>0</from><to>0</to>" ++
    "<read> \\bs\n</read></transition></a>").toList

def spaceLoop : Automaton where
  states := [{ id := 0 }]
  transitions := [{ source := 0, target := 0, label := "\\bs".toList }]
  kind := none

set_option maxRecDepth 10000 in
/-- The code of the space is in the table, and it is there by its name. -/
theorem control_codes_of_spaceEdge :
    loadSource [] spaceEdge = .ok (.ok spaceLoop) ∧
    (∃ lines line, (Table.ofAutomaton spaceLoop).lines? = some lines ∧
      (Record.trans 0 0 32).render? = some line ∧ line ∈ lines) ∧
    ∀ t ∈ spaceLoop.transitions, t.label = "\\bs".toList ∧ collapse t.label = t.label ∧
      Label.NamesControl t.label 32 := by
  have h : loadSource [] spaceEdge = .ok (.ok spaceLoop) := by decide +kernel
  have hall : (Forest.ofSource spaceEdge).content.all isChar = true := by decide +kernel
  have hx : ∀ c ∈ (Forest.ofSource spaceEdge).content, isChar c = true := List.all_eq_true.1 hall
  have hcode : 32 ∈ (Label.expand "\\bs".toList).codes := by decide +kernel
  have hm : (Record.trans 0 0 32).spelled ∈ (Table.ofAutomaton spaceLoop).spelledLines :=
    Table.mem_spelledLines_trans_iff.2 ⟨_, List.mem_cons_self .., rfl, rfl, hcode⟩
  obtain ⟨-, hlabels, -, ⟨lines, hlines⟩, hcodes⟩ := control_codes_of_loaded h
  obtain ⟨-, rfl⟩ := Table.lines?_eq_some_iff.1 hlines
  have hshort : (0 : Int).natAbs < 10 ^ Numeral.digitLimit := Nat.pow_pos (by decide)
  have hr : (Record.trans 0 0 32).render? = some (Record.trans 0 0 32).spelled :=
    Record.render?_of_isShort (by
      simp only [Record.IsShort, Record.numbers, List.forall_mem_cons, List.not_mem_nil,
        false_imp_iff, implies_true, and_true]
      exact ⟨hshort, hshort, Label.natAbs_lt_of_mem_codes hcode⟩)
  refine ⟨h, ⟨_, _, hlines, hr, hm⟩, fun t ht => ?_⟩
  obtain rfl := List.mem_singleton.1 ht
  exact ⟨rfl, (hlabels _ ht).1,
    ((hcodes hx _ hlines 0 0 32 (by decide) _ hm hr).2 _ ht rfl rfl hcode).1⟩

end DfaTable
