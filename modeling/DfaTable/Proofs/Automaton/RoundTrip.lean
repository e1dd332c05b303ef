import DfaTable.Proofs.Automaton.Elements
import DfaTable.Proofs.Automaton.Writing

/-!
# DfaTable.Proofs.Automaton.RoundTrip

An automaton that is written as a document is loaded as the same automaton.

* `ofForest_spread`: where texts are cut into nodes makes no difference to the automaton.
* `ofForest_forest`: the nodes of a document describe the automaton that it was written from.
* `codingOf_markup`: a document in UTF-8 is known as such by its declaration.
* `loadSource_markup`: the round trip, for a document that is given as text or as bytes.
-/

namespace DfaTable

open Text Markup Numeral Encoding

/-! ## Spreading -/

theorem textInside_spread (name : String) (f : Forest) :
    textInside name f.spread = textInside name f := by
  rw [textInside, textInside, Forest.first?_spread, Option.map_map]
  congr 1
  funext e
  exact congrArg collapse (Forest.content_spread e.inner)

theorem State.ofElement_spread (e : Element) : State.ofElement e.spread = State.ofElement e := by
  have hw : withId e.spread = withId e := by
    funext id
    simp only [withId, Element.holds_spread, Element.attribute?_spread]
  rw [ofElement_eq, ofElement_eq, hw]
  rfl

theorem Transition.ofElement_spread (e : Element) :
    Transition.ofElement e.spread = Transition.ofElement e := by
  have ht : ∀ name, textInside name e.spread.inner = textInside name e.inner := fun name =>
    textInside_spread name e.inner
  simp only [ofElement, ht]

theorem readAll_spread {α : Type} {read : Element → Except Oversized (Except Defect α)}
    (h : ∀ e, read e.spread = read e) (name : String) (f : Forest) :
    readAll read name f.spread = readAll read name f := by
  have hm : ∀ es : List Element, (es.map Element.spread).mapM read = es.mapM read := by
    intro es
    induction es with
    | nil => rfl
    | cons e es ih => rw [List.map_cons, List.mapM_cons, List.mapM_cons, h, ih]
  rw [readAll, readAll, Forest.elements_spread, hm]

theorem Automaton.ofForest_spread (f : Forest) :
    Automaton.ofForest f.spread = Automaton.ofForest f := by
  simp only [ofForest, Forest.root?_spread, Option.isNone_map,
    readAll_spread State.ofElement_spread, readAll_spread Transition.ofElement_spread,
    textInside_spread]

/-! ## What is found in a document -/

theorem elements_bareTag (name n : Text) (attributes : Attributes) (inner rest : Forest) :
    (Forest.element (bareTag n) attributes inner rest).elements name =
      (if n = name then [(⟨attributes, inner⟩ : Element)] else []) ++
        (inner.elements name ++ rest.elements name) := by
  show (if n = name then _ else _) = _
  by_cases h : n = name
  · rw [if_pos h, if_pos h]
    rfl
  · rw [if_neg h, if_neg h]
    rfl

theorem elements_field (name n t : Text) (rest : Forest) :
    (field n t rest).elements name =
      (if n = name then [(⟨[], Forest.pushText t .nil⟩ : Element)] else []) ++
        rest.elements name := by
  rw [field, elements_bareTag, Forest.elements_pushText]
  rfl

theorem elements_flag (name n : Text) (isSet : Bool) (rest : Forest) :
    (flag isSet n rest).elements name =
      (if isSet = true ∧ n = name then [(⟨[], .nil⟩ : Element)] else []) ++
        rest.elements name := by
  cases isSet with
  | false => rfl
  | true =>
    rw [flag, if_pos rfl, elements_bareTag]
    simp only [true_and]
    rfl

/-- An element on a line of its own is found under its name, and what is inside it is not. -/
theorem elements_line_self {name : Text} {inner : Forest} (h : inner.elements name = [])
    (attributes : Attributes) (rest : Forest) :
    (Forest.element (bareTag name) attributes inner (.text ['\n'] rest)).elements name =
      ⟨attributes, inner⟩ :: rest.elements name := by
  rw [elements_bareTag, if_pos rfl, h]
  rfl

theorem elements_line_of_ne {name n : Text} {inner : Forest} (hn : n ≠ name)
    (h : inner.elements name = []) (attributes : Attributes) (rest : Forest) :
    (Forest.element (bareTag n) attributes inner (.text ['\n'] rest)).elements name =
      rest.elements name := by
  rw [elements_bareTag, if_neg hn, h]
  rfl

section Lines

variable {α : Type} {name : Text} {line : α → Forest → Forest}

theorem elements_lines {one : α → Element}
    (h : ∀ x rest, (line x rest).elements name = one x :: rest.elements name) (xs : List α)
    (rest : Forest) : (xs.foldr line rest).elements name = xs.map one ++ rest.elements name := by
  induction xs with
  | nil => rfl
  | cons x xs ih => rw [List.foldr_cons, h, ih, List.map_cons, List.cons_append]

theorem elements_other_lines (h : ∀ x rest, (line x rest).elements name = rest.elements name)
    (xs : List α) (rest : Forest) :
    (xs.foldr line rest).elements name = rest.elements name := by
  induction xs with
  | nil => rfl
  | cons x xs ih => rw [List.foldr_cons, h, ih]

end Lines

/-- The first field of a name is found, and fields of other names are passed over. -/
theorem textInside_field_self (name : String) (t : Text) (rest : Forest) :
    textInside name (field name.toList t rest) = some (collapse t) := by
  rw [textInside, Forest.first?, elements_field, if_pos rfl, List.singleton_append,
    List.head?_cons, Option.map_some, Forest.content_pushText]
  show some (collapse (t ++ [])) = _
  rw [List.append_nil]

theorem textInside_field_of_ne {name : String} {n : Text} (h : n ≠ name.toList) (t : Text)
    (rest : Forest) : textInside name (field n t rest) = textInside name rest := by
  rw [textInside, Forest.first?, elements_field, if_neg h]
  rfl

namespace State

/-- The element that is read for a state. -/
def element (s : State) : Element := { attributes := s.attributes, inner := s.inner }

theorem elements_inner (s : State) (name : Text) :
    s.inner.elements name =
      (if s.isInitial = true ∧ "initial".toList = name then
        [(⟨[], .nil⟩ : Element)] else []) ++
      (if s.isFinal = true ∧ "final".toList = name then
        [(⟨[], .nil⟩ : Element)] else []) := by
  rw [inner, elements_flag, elements_flag]
  exact congrArg _ (List.append_nil _)

theorem isOf_element {s : State} (h : s.IsWritable) : IsOf s.element s where
  id := by
    have he : idIn s.element = some (ofInt s.id) := by
      show (s.attributes.reverse.find? _).map Prod.snd = _
      rw [attributes]
      cases s.name <;> rfl
    rw [he, denotes_some_iff]
    exact read_ofInt h.id
  isFinal := by
    show _ ↔ s.inner.elements "final".toList ≠ []
    rw [elements_inner, if_neg (fun hn => absurd hn.2 (by decide))]
    cases s.isFinal <;> simp
  isInitial := by
    show _ ↔ s.inner.elements "initial".toList ≠ []
    rw [elements_inner, if_neg (c := s.isFinal = true ∧ _) (fun hn => absurd hn.2 (by decide))]
    cases s.isInitial <;> simp
  name := by
    show _ = (s.attributes.reverse.find? _).map Prod.snd
    rw [attributes]
    cases s.name <;> rfl

theorem elements_inner_of_ne {name : Text}
    (h : name ≠ "initial".toList ∧ name ≠ "final".toList) (s : State) :
    s.inner.elements name = [] := by
  rw [elements_inner, if_neg (fun hn => h.1 hn.2.symm), if_neg (fun hn => h.2 hn.2.symm)]
  rfl

theorem elements_line (s : State) (rest : Forest) :
    (s.line rest).elements "state".toList = s.element :: rest.elements "state".toList :=
  elements_line_self (elements_inner_of_ne (by decide) s) s.attributes rest

theorem elements_line_transition (s : State) (rest : Forest) :
    (s.line rest).elements "transition".toList = rest.elements "transition".toList :=
  elements_line_of_ne (by decide) (elements_inner_of_ne (by decide) s) s.attributes rest

end State

namespace Transition

/-- The element that is read for a transition. -/
def element (t : Transition) : Element := { attributes := [], inner := t.inner }

theorem isOf_element {t : Transition} (h : t.IsWritable) : IsOf t.element t where
  source := by
    have he : fromIn t.element = some (ofInt t.source) := by
      show textInside "from" (field _ _ _) = _
      rw [textInside_field_self, collapse_ofInt]
    rw [he, denotes_some_iff]
    exact read_ofInt h.source
  target := by
    have he : toIn t.element = some (ofInt t.target) := by
      show textInside "to" (field _ _ (field _ _ _)) = _
      rw [textInside_field_of_ne (by decide), textInside_field_self, collapse_ofInt]
    rw [he, denotes_some_iff]
    exact read_ofInt h.target
  label := by
    show _ = (textInside "read" (field _ _ (field _ _ (field _ _ _)))).getD []
    rw [textInside_field_of_ne (by decide), textInside_field_of_ne (by decide),
      textInside_field_self, h.collapsed]
    rfl

theorem elements_inner_of_ne {name : Text}
    (h : name ≠ "from".toList ∧ name ≠ "to".toList ∧ name ≠ "read".toList) (t : Transition) :
    t.inner.elements name = [] := by
  obtain ⟨h1, h2, h3⟩ := h
  show (field _ _ (field _ _ (field _ _ _))).elements _ = _
  rw [elements_field, elements_field, elements_field, if_neg h1.symm, if_neg h2.symm,
    if_neg h3.symm]
  rfl

theorem elements_line (t : Transition) (rest : Forest) :
    (t.line rest).elements "transition".toList =
      t.element :: rest.elements "transition".toList :=
  elements_line_self (elements_inner_of_ne (by decide) t) [] rest

theorem elements_line_state (t : Transition) (rest : Forest) :
    (t.line rest).elements "state".toList = rest.elements "state".toList :=
  elements_line_of_ne (by decide) (elements_inner_of_ne (by decide) t) [] rest

end Transition

/-! ## The automaton of a document -/

namespace Automaton

theorem elements_forest {name : Text}
    (h : name ≠ "structure".toList ∧ name ≠ "type".toList ∧ name ≠ "automaton".toList)
    (states : List State) (transitions : List Transition) :
    (forest states transitions).elements name =
      (states.foldr State.line (transitions.foldr Transition.line .nil)).elements name := by
  obtain ⟨h1, h2, h3⟩ := h
  rw [forest, elements_bareTag, elements_field, elements_bareTag, if_neg h1.symm, if_neg h2.symm,
    if_neg h3.symm]
  simp only [Forest.elements, List.nil_append, List.append_nil]

theorem elements_forest_state (states : List State) (transitions : List Transition) :
    (forest states transitions).elements "state".toList = states.map State.element := by
  rw [elements_forest (by decide), elements_lines State.elements_line,
    elements_other_lines Transition.elements_line_state]
  exact List.append_nil _

theorem elements_forest_transition (states : List State) (transitions : List Transition) :
    (forest states transitions).elements "transition".toList =
      transitions.map Transition.element := by
  rw [elements_forest (by decide), elements_other_lines State.elements_line_transition,
    elements_lines Transition.elements_line]
  exact List.append_nil _

theorem ofForest_forest {states : List State} {transitions : List Transition}
    (hs : ∀ s ∈ states, s.IsWritable) (ht : ∀ t ∈ transitions, t.IsWritable) :
    ofForest (forest states transitions) =
      .ok (.ok { states, transitions, kind := some "fa".toList }) := by
  have hroot : (forest states transitions).root?.isNone = false := rfl
  have hstates : readAll State.ofElement "state" (forest states transitions) =
      .ok (.ok states) := by
    rw [readAll_eq_ok_iff State.readsBy, elements_forest_state, List.forall₂_map_left_iff,
      List.forall₂_same]
    exact fun s h => State.isOf_element (hs s h)
  have htransitions : readAll Transition.ofElement "transition" (forest states transitions) =
      .ok (.ok transitions) := by
    rw [readAll_eq_ok_iff Transition.readsBy, elements_forest_transition,
      List.forall₂_map_left_iff, List.forall₂_same]
    exact fun t h => Transition.isOf_element (ht t h)
  have hkind : textInside "type" (forest states transitions) = some "fa".toList := by
    rw [textInside, Forest.first?, forest, elements_bareTag, elements_field, if_neg (by decide),
      if_pos rfl]
    show some (collapse "fa".toList) = _
    decide
  rw [ofForest, hroot, hstates, htransitions, hkind]
  rfl

end Automaton

/-! ## The encoding of a document -/

theorem encode_declaration :
    Utf8.encode declaration = declaration.map fun c => UInt8.ofNat c.toNat := by
  decide +kernel

/-- A document in UTF-8 is known as such by its declaration. -/
theorem codingOf_encode (t : Text) :
    Source.codingOf (Utf8.encode (declaration ++ '\n' :: t)) =
      (.utf8, Utf8.encode (declaration ++ '\n' :: t)) := by
  have hmark : Source.marked? (Utf8.encode (declaration ++ '\n' :: t)) = none := by
    rw [Coding.encode_append, encode_declaration]
    rfl
  have hname : Source.declaredName? (Utf8.encode (declaration ++ '\n' :: t)) =
      some "UTF-8".toList := by
    -- The declaration lies within the limit, so the line it stands on is seen as a whole.
    have ht : ∃ u, ((Utf8.encode (declaration ++ '\n' :: t)).take Source.nameLimit).map
        (fun b => Char.ofNat b.toNat) = declaration ++ '\n' :: u := by
      rw [Coding.encode_append, encode_declaration]
      exact ⟨_, rfl⟩
    obtain ⟨u, hu⟩ := ht
    rw [Source.declaredName?, hu]
    rfl
  have hcoding : Coding.named "UTF-8".toList = .utf8 := by decide +kernel
  rw [Source.codingOf, hmark, hname]
  show (Coding.named "UTF-8".toList, _) = _
  rw [hcoding]

/-- A mark before a document in UTF-8 is left out. -/
theorem codingOf_marked (b : List UInt8) :
    Source.codingOf (0xEF :: 0xBB :: 0xBF :: b) = (.utf8, b) := rfl

/-! ## The round trip -/

theorem loadSource_of_spells {path : Text} {s : Source} {states : List State}
    {transitions : List Transition} (hs : ∀ s ∈ states, s.IsWritable)
    (ht : ∀ t ∈ transitions, t.IsWritable)
    (hf : s.feed.Spells (Automaton.markup states transitions)) :
    loadSource path s = .ok (.ok { states, transitions, kind := some "fa".toList }) := by
  have ha : Automaton.ofSource s = .ok (.ok { states, transitions, kind := some "fa".toList }) := by
    -- The texts of the nodes are cut where pieces end; spread out, they are not.
    rw [Automaton.ofSource, Forest.ofSource, ← Automaton.ofForest_spread,
      spread_ofFeed_markup hs ht hf, Automaton.ofForest_forest hs ht]
  rw [loadSource, ha]
  rfl

/-- A document gives back the automaton that it was written from, in whichever of these ways it
is handed over. -/
theorem loadSource_markup {states : List State} {transitions : List Transition}
    (hs : ∀ s ∈ states, s.IsWritable) (ht : ∀ t ∈ transitions, t.IsWritable) (path : Text) :
    ∀ s ∈ [.text (Automaton.markup states transitions),
        .bytes (Utf8.encode (Automaton.markup states transitions)),
        .bytes (0xEF :: 0xBB :: 0xBF :: Utf8.encode (Automaton.markup states transitions))],
      loadSource path s = .ok (.ok { states, transitions, kind := some "fa".toList }) := by
  obtain ⟨t, hm⟩ : ∃ t, Automaton.markup states transitions = declaration ++ '\n' :: t :=
    ⟨_, Automaton.markup_eq states transitions⟩
  have hplain : Source.codingOf (Utf8.encode (Automaton.markup states transitions)) =
      (.utf8, Utf8.encode (Automaton.markup states transitions)) := by
    rw [hm]
    exact codingOf_encode t
  have hhead : (Automaton.markup states transitions).head? = some '<' := by
    rw [hm]
    rfl
  intro s h
  simp only [List.mem_cons, List.not_mem_nil, or_false] at h
  refine loadSource_of_spells hs ht ?_
  rcases h with rfl | rfl | rfl
  · refine Source.spells_text ?_
    rw [hhead]
    decide
  · exact Source.spells_utf8 hplain rfl
  · exact Source.spells_utf8 (codingOf_marked _) rfl

/-- One state of each sort and labels that need entities or have no text. -/
theorem loadSource_markup_two_states :
    loadSource [] (.text (Automaton.markup
        [{ id := 0, isInitial := true }, { id := -1, isFinal := true, name := some "\"q&".toList }]
        [{ source := 0, target := -1, label := "a<b".toList },
          { source := -1, target := 7, label := [] }])) =
      .ok (.ok {
        states := [{ id := 0, isInitial := true },
          { id := -1, isFinal := true, name := some "\"q&".toList }]
        transitions := [{ source := 0, target := -1, label := "a<b".toList },
          { source := -1, target := 7, label := [] }]
        kind := some "fa".toList }) := by
  have hsmall : ∀ {n : Nat}, n < 10 → n < 10 ^ digitLimit := fun h =>
    Nat.lt_of_lt_of_le h (Nat.le_self_pow (by decide) 10)
  refine loadSource_markup ?_ ?_ [] _ (List.mem_cons_self ..)
  · rw [List.forall_mem_cons, List.forall_mem_singleton]
    refine ⟨⟨hsmall (by decide), by simp⟩, ⟨hsmall (by decide), ?_⟩⟩
    rintro _ ⟨⟩
    show ∀ c ∈ "\"q&".toList, isChar c = true ∧ c ≠ '\t' ∧ c ≠ '\n' ∧ c ≠ '\r'
    exact List.all_iff_forall_prop.1 (by decide)
  · have hlabel : ∀ c ∈ "a<b".toList, isChar c = true := List.all_iff_forall_prop.1 (by decide)
    rw [List.forall_mem_cons, List.forall_mem_singleton]
    exact ⟨⟨hsmall (by decide), hsmall (by decide), hlabel, by decide⟩,
      ⟨hsmall (by decide), hsmall (by decide), by simp, by decide⟩⟩

end DfaTable
