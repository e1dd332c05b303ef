import DfaTable.Automaton
import DfaTable.Proofs.Markup.Document
import DfaTable.Proofs.Numeral.Spelling
import Mathlib.Data.Bool.AllAny

/-!
# DfaTable.Proofs.Automaton.Writing

Automata as documents. `Automaton.markup` is the text of one, in the form in which drawings are
saved; the same document is given by its marks, of which it is known what they are read as.

* `markup_eq`: the text is that of the marks.
* `State.writes`, `Transition.writes`: the nodes of a state and of a transition.
* `spread_ofFeed_markup`: the forest of a whole document.
-/

namespace DfaTable

open Text Markup Numeral

/-! ## The text of a document -/

namespace State

/-- The element of a state, with its flags in the order initial, final. -/
def markup (s : State) : Text :=
  "<state id=\"".toList ++ ofInt s.id ++ ['\x22'] ++
    (match s.name with
      | some name => " name=\"".toList ++ escape name ++ ['\x22']
      | none => []) ++
    ['>'] ++
    (if s.isInitial then "<initial/>".toList else []) ++
    (if s.isFinal then "<final/>".toList else []) ++
    "</state>".toList

/-- A state that a document gives back: its number is short enough to be read, and its name holds
only what markup can hold, and no tab and no line end. -/
structure IsWritable (s : State) : Prop where
  id : s.id.natAbs < 10 ^ digitLimit
  name : ∀ name ∈ s.name, ∀ c ∈ name, IsValueChar c

end State

namespace Transition

/-- The element of a transition; the empty label has an element without content. -/
def markup (t : Transition) : Text :=
  "<transition><from>".toList ++ ofInt t.source ++ "</from><to>".toList ++ ofInt t.target ++
    "</to>".toList ++
    (if t.label = [] then "<read/>".toList
      else "<read>".toList ++ escape t.label ++ "</read>".toList) ++
    "</transition>".toList

/-- A transition that a document gives back: its numbers are short enough to be read, and its label
holds only what markup can hold and has no blanks to be collapsed. -/
structure IsWritable (t : Transition) : Prop where
  source : t.source.natAbs < 10 ^ digitLimit
  target : t.target.natAbs < 10 ^ digitLimit
  label : ∀ c ∈ t.label, isChar c = true
  collapsed : collapse t.label = t.label

end Transition

/-- A document, one line for its head, one for each state and each transition, and one for its
end. -/
def Automaton.markup (states : List State) (transitions : List Transition) : Text :=
  join ['\n'] ([declaration, "<structure><type>fa</type><automaton>".toList] ++
    states.map State.markup ++ transitions.map Transition.markup ++
    ["</automaton></structure>".toList])

/-! ## The marks of a document -/

/-- An element that holds only text. -/
def fieldMarks (name t : Text) : List Mark :=
  .start false name [] :: (t.map .character ++ [.closing name])

/-- An element that is there if a flag is set. -/
def flagMarks (isSet : Bool) (name : Text) : List Mark :=
  if isSet then [.start true name []] else []

def labelMarks (label : Text) : List Mark :=
  if label = [] then [.start true "read".toList []] else fieldMarks "read".toList label

def State.attributes (s : State) : Written :=
  ("id".toList, ofInt s.id) :: (s.name.map fun name => ("name".toList, name)).toList

def State.marks (s : State) : List Mark :=
  .start false "state".toList s.attributes ::
    (flagMarks s.isInitial "initial".toList ++ flagMarks s.isFinal "final".toList ++
      [.closing "state".toList])

def Transition.marks (t : Transition) : List Mark :=
  .start false "transition".toList [] ::
    (fieldMarks "from".toList (ofInt t.source) ++ fieldMarks "to".toList (ofInt t.target) ++
      labelMarks t.label ++ [.closing "transition".toList])

/-- The marks on one line, and the end of the line. -/
def lineMarks (marks : List Mark) : List Mark := marks ++ [.character '\n']

/-- The lines of the states and the transitions. -/
def innerMarks (states : List State) (transitions : List Transition) : List Mark :=
  .character '\n' :: (states.flatMap (fun s => lineMarks s.marks) ++
    transitions.flatMap fun t => lineMarks t.marks)

/-- What is in the root. -/
def rootMarks (states : List State) (transitions : List Transition) : List Mark :=
  fieldMarks "type".toList "fa".toList ++
    .start false "automaton".toList [] ::
      (innerMarks states transitions ++ [.closing "automaton".toList])

theorem escape_of_not_entity {t : Text} (h : ∀ c ∈ t, entityName? c = none) : escape t = t := by
  induction t with
  | nil => rfl
  | cons c t ih =>
    have hc := h c (List.mem_cons_self ..)
    have he : escape (c :: t) = escapeChar c ++ escape t := rfl
    rw [he, ih fun d hd => h d (List.mem_cons_of_mem _ hd), escapeChar_of_none hc]
    rfl

theorem escape_ofInt (n : Int) : escape (ofInt n) = ofInt n := by
  refine escape_of_not_entity fun c hc => ?_
  cases he : entityName? c with
  | none => rfl
  | some name =>
    rcases entityName?_eq_some he with ⟨rfl, -⟩ | ⟨rfl, -⟩ | ⟨rfl, -⟩ | ⟨rfl, -⟩ <;>
      exact absurd hc (notMem_ofInt (by decide) (by decide))

theorem writeAll_fieldMarks (name t : Text) :
    writeAll (fieldMarks name t) =
      '<' :: (name ++ '>' :: (escape t ++ '<' :: '/' :: (name ++ ['>']))) := by
  have hc : writeAll [.closing name] = '<' :: '/' :: (name ++ ['>']) := List.append_nil _
  rw [fieldMarks, writeAll_cons, writeAll_characters, hc]
  simp only [Mark.write, startText, writeAttributes, slash, List.flatMap_nil, List.nil_append,
    List.cons_append, List.append_assoc, Bool.false_eq_true, if_false]

theorem writeAll_flagMarks (isSet : Bool) (name : Text) :
    writeAll (flagMarks isSet name) = if isSet then '<' :: (name ++ ['/', '>']) else [] := by
  cases isSet with
  | true => exact List.append_nil _
  | false => rfl

theorem writeAll_labelMarks (label : Text) :
    writeAll (labelMarks label) =
      if label = [] then "<read/>".toList
      else "<read>".toList ++ escape label ++ "</read>".toList := by
  unfold labelMarks
  split
  · rfl
  · rw [writeAll_fieldMarks, List.append_assoc]
    rfl

theorem writeAttributes_state (s : State) :
    writeAttributes s.attributes =
      " id=\"".toList ++ (ofInt s.id ++ '\x22' ::
        match s.name with
        | some name => " name=\"".toList ++ escape name ++ ['\x22']
        | none => []) := by
  have hid : ∀ rest, writeAttributes (("id".toList, ofInt s.id) :: rest) =
      " id=\"".toList ++ (ofInt s.id ++ '\x22' :: writeAttributes rest) := by
    intro rest
    show (' ' :: ("id".toList ++ '=' :: '\x22' :: (escape (ofInt s.id) ++ ['\x22']))) ++
      writeAttributes rest = _
    rw [escape_ofInt, show " id=\"".toList = ' ' :: ("id".toList ++ ['=', '\x22']) from rfl]
    simp only [List.cons_append, List.append_assoc, List.nil_append]
  rw [State.attributes, hid]
  cases s.name with
  | none => rfl
  | some name =>
    have hname : writeAttributes [("name".toList, name)] =
        " name=\"".toList ++ escape name ++ ['\x22'] := by
      show (' ' :: ("name".toList ++ '=' :: '\x22' :: (escape name ++ ['\x22']))) ++ [] = _
      rw [show " name=\"".toList = ' ' :: ("name".toList ++ ['=', '\x22']) from rfl]
      simp only [List.cons_append, List.append_assoc, List.nil_append, List.append_nil]
    show _ ++ (_ ++ '\x22' :: writeAttributes [("name".toList, name)]) = _
    rw [hname]

theorem State.markup_eq (s : State) : s.markup = writeAll s.marks := by
  have hend : writeAll [.closing "state".toList] = "</state>".toList := rfl
  have hinit : ("<initial/>".toList : Text) = '<' :: ("initial".toList ++ ['/', '>']) := rfl
  have hfinal : ("<final/>".toList : Text) = '<' :: ("final".toList ++ ['/', '>']) := rfl
  have hstart : ("<state id=\"".toList : Text) = '<' :: ("state".toList ++ " id=\"".toList) := rfl
  show "<state id=\"".toList ++ ofInt s.id ++ ['\x22'] ++
    (match s.name with
      | some name => " name=\"".toList ++ escape name ++ ['\x22']
      | none => []) ++ ['>'] ++ (if s.isInitial then "<initial/>".toList else []) ++
    (if s.isFinal then "<final/>".toList else []) ++ "</state>".toList = _
  rw [State.marks, writeAll_cons, writeAll_append, writeAll_append, writeAll_flagMarks,
    writeAll_flagMarks, hend, ← hinit, ← hfinal, hstart]
  simp only [Mark.write, startText, slash, writeAttributes_state, List.cons_append,
    List.append_assoc, List.nil_append, Bool.false_eq_true, if_false]

theorem Transition.markup_eq (t : Transition) : t.markup = writeAll t.marks := by
  have hend : writeAll [.closing "transition".toList] = "</transition>".toList := rfl
  have hfrom : ("<transition><from>".toList : Text) =
      '<' :: ("transition".toList ++ '>' :: '<' :: ("from".toList ++ ['>'])) := rfl
  have hto : ("</from><to>".toList : Text) =
      '<' :: '/' :: ("from".toList ++ '>' :: '<' :: ("to".toList ++ ['>'])) := rfl
  have hclose : ("</to>".toList : Text) = '<' :: '/' :: ("to".toList ++ ['>']) := rfl
  show "<transition><from>".toList ++ ofInt t.source ++ "</from><to>".toList ++ ofInt t.target ++
    "</to>".toList ++ (if t.label = [] then "<read/>".toList
      else "<read>".toList ++ escape t.label ++ "</read>".toList) ++ "</transition>".toList = _
  rw [Transition.marks, writeAll_cons, writeAll_append, writeAll_append, writeAll_append,
    writeAll_fieldMarks, writeAll_fieldMarks, writeAll_labelMarks, hend, escape_ofInt,
    escape_ofInt, hfrom, hto, hclose]
  simp only [Mark.write, startText, slash, writeAttributes, List.flatMap_nil, List.cons_append,
    List.append_assoc, List.nil_append, Bool.false_eq_true, if_false]

theorem join_append_singleton (ps : List Text) (last : Text) :
    join ['\n'] (ps ++ [last]) = ps.flatMap (· ++ ['\n']) ++ last := by
  induction ps with
  | nil => rfl
  | cons p ps ih =>
    have hj : join ['\n'] (p :: (ps ++ [last])) = p ++ ['\n'] ++ join ['\n'] (ps ++ [last]) := by
      cases ps <;> rfl
    rw [List.cons_append, hj, ih, List.flatMap_cons]
    simp only [List.append_assoc]

theorem flatMap_lines {α : Type} {write : α → Text} {marks : α → List Mark}
    (h : ∀ x, write x = writeAll (marks x)) (xs : List α) :
    (xs.map write).flatMap (· ++ ['\n']) = writeAll (xs.flatMap fun x => lineMarks (marks x)) := by
  induction xs with
  | nil => rfl
  | cons x xs ih =>
    have hn : writeAll [.character '\n'] = ['\n'] := rfl
    rw [List.map_cons, List.flatMap_cons, List.flatMap_cons, writeAll_append, ← ih, lineMarks,
      writeAll_append, h, hn]

theorem Automaton.markup_eq (states : List State) (transitions : List Transition) :
    Automaton.markup states transitions = declaration ++ '\n' ::
      writeAll (.start false "structure".toList [] ::
        (rootMarks states transitions ++ [.closing "structure".toList])) := by
  have hhead : ("<structure><type>fa</type><automaton>".toList : Text) =
      '<' :: ("structure".toList ++ '>' :: (writeAll (fieldMarks "type".toList "fa".toList) ++
        '<' :: ("automaton".toList ++ ['>']))) := rfl
  have hend : ("</automaton></structure>".toList : Text) =
      writeAll [.closing "automaton".toList] ++ writeAll [.closing "structure".toList] := rfl
  have hn : escapeChar '\n' = ['\n'] := rfl
  rw [Automaton.markup, join_append_singleton, List.flatMap_append, List.flatMap_append,
    flatMap_lines State.markup_eq, flatMap_lines Transition.markup_eq, List.flatMap_cons,
    List.flatMap_cons, List.flatMap_nil, hhead, hend]
  simp only [rootMarks, innerMarks, writeAll_cons, writeAll_nil, writeAll_append, hn, Mark.write,
    startText, slash, writeAttributes, List.flatMap_nil, List.cons_append, List.append_assoc,
    List.nil_append, Bool.false_eq_true, if_false]

/-! ## The nodes of a document -/

/-- An element that holds only text, before what follows it. -/
def field (name t : Text) (rest : Forest) : Forest :=
  .element (bareTag name) [] (Forest.pushText t .nil) rest

/-- An empty element that is there if a flag is set, before what follows it. -/
def flag (isSet : Bool) (name : Text) (rest : Forest) : Forest :=
  if isSet then .element (bareTag name) [] .nil rest else rest

/-- The nodes inside a state. -/
def State.inner (s : State) : Forest :=
  flag s.isInitial "initial".toList (flag s.isFinal "final".toList .nil)

/-- The nodes inside a transition. -/
def Transition.inner (t : Transition) : Forest :=
  field "from".toList (ofInt t.source) (field "to".toList (ofInt t.target)
    (field "read".toList t.label .nil))

/-- The line of a state before what follows it. -/
def State.line (s : State) (rest : Forest) : Forest :=
  .element (bareTag "state".toList) s.attributes s.inner (.text ['\n'] rest)

/-- The line of a transition before what follows it. -/
def Transition.line (t : Transition) (rest : Forest) : Forest :=
  .element (bareTag "transition".toList) [] t.inner (.text ['\n'] rest)

/-- The nodes of a document. -/
def Automaton.forest (states : List State) (transitions : List Transition) : Forest :=
  .element (bareTag "structure".toList) []
    (field "type".toList "fa".toList
      (.element (bareTag "automaton".toList) []
        (.text ['\n'] (states.foldr State.line (transitions.foldr Transition.line .nil))) .nil))
    .nil

theorem areWritable_nil : AreWritable [] where
  names := by simp
  values := by simp
  distinct := List.nodup_nil

theorem isPlainName_of_all {c : Char} {more : Text}
    (h : (c :: more).all (fun d => isNameStart d && d != ':') = true) :
    IsPlainName (c :: more) where
  head := by
    have hc := List.all_eq_true.1 h c (List.mem_cons_self ..)
    exact ⟨c, more, rfl, (Bool.and_eq_true_iff.1 hc).1⟩
  all d hd := by
    have hc := Bool.and_eq_true_iff.1 (List.all_eq_true.1 h d hd)
    exact ⟨isNameChar_of_isNameStart hc.1, bne_iff_ne.1 hc.2⟩

theorem isValueChar_of_mem_ofInt {n : Int} {c : Char} (h : c ∈ ofInt n) : IsValueChar c := by
  have hb := not_isBlank_of_mem_ofInt h
  have hr : 33 ≤ c.toNat ∧ c.toNat < 128 := by
    rcases isDigit_or_eq_minus_of_mem_ofInt h with hd | rfl
    · simp only [Char.isDigit, Bool.and_eq_true, decide_eq_true_eq] at hd
      have h1 : 48 ≤ c.toNat := UInt32.le_iff_toNat_le.1 hd.1
      have h2 : c.toNat ≤ 57 := UInt32.le_iff_toNat_le.1 hd.2
      omega
    · decide
  refine ⟨?_, ?_, ?_, ?_⟩
  · simp only [isChar, Bool.or_eq_true, Bool.and_eq_true, decide_eq_true_eq]
    omega
  · rintro rfl
    cases hb
  · rintro rfl
    cases hb
  · rintro rfl
    cases hb

/-- A text that collapsing leaves alone has no carriage return. -/
theorem ne_return_of_mem_collapse {t : Text} {c : Char} (h : c ∈ collapse t) : c ≠ '\r' := by
  have hj : ∀ ws : List Text, (∀ w ∈ ws, ∀ c ∈ w, isBlank c = false) →
      ∀ c ∈ join [' '] ws, c = ' ' ∨ isBlank c = false := by
    intro ws
    induction ws with
    | nil => simp
    | cons w ws ih =>
      intro hw c hc
      cases ws with
      | nil => exact .inr (hw w (List.mem_cons_self ..) c hc)
      | cons v ws =>
        rw [join_cons_cons, List.mem_append, List.mem_append, List.mem_singleton] at hc
        rcases hc with (hc | hc) | hc
        · exact .inr (hw w (List.mem_cons_self ..) c hc)
        · exact .inl hc
        · exact ih (fun u hu => hw u (List.mem_cons_of_mem _ hu)) c hc
  rcases hj _ (fun w hw => (of_mem_words hw).2) c h with rfl | hb
  · decide
  · rintro rfl
    cases hb

theorem writes_field {name t : Text} (hn : IsPlainName name)
    (ht : ∀ c ∈ t, isChar c = true ∧ c ≠ '\r') : Writes (fieldMarks name t) (field name t) :=
  .element hn areWritable_nil (.characters ht)

theorem writes_flag {isSet : Bool} {name : Text} (hn : IsPlainName name) :
    Writes (flagMarks isSet name) (flag isSet name) := by
  cases isSet with
  | true => exact .single hn areWritable_nil
  | false => exact .nil

theorem writes_label {label : Text} (h : ∀ c ∈ label, isChar c = true)
    (hc : collapse label = label) : Writes (labelMarks label) (field "read".toList label) := by
  have hn : IsPlainName "read".toList := isPlainName_of_all (by decide)
  unfold labelMarks
  split
  · rename_i he
    subst he
    exact .single hn areWritable_nil
  · refine writes_field hn fun c hm => ⟨h c hm, ?_⟩
    rw [← hc] at hm
    exact ne_return_of_mem_collapse hm

theorem writes_lineEnd : Writes [.character '\n'] (.text ['\n']) :=
  .characters (t := ['\n']) (List.all_iff_forall_prop.1 (by decide))

theorem writes_line {marks : List Mark} {g : Forest → Forest} (h : Writes marks g) :
    Writes (lineMarks marks) (fun rest => g (.text ['\n'] rest)) :=
  h.append writes_lineEnd

theorem State.IsWritable.areWritable_attributes {s : State} (h : s.IsWritable) :
    AreWritable s.attributes := by
  have hid : IsPlainName "id".toList ∧ "id".toList ≠ bindingPrefix :=
    ⟨isPlainName_of_all (by decide), by decide⟩
  have hname : IsPlainName "name".toList ∧ "name".toList ≠ bindingPrefix :=
    ⟨isPlainName_of_all (by decide), by decide⟩
  cases hn : s.name with
  | none =>
    have he : s.attributes = [("id".toList, ofInt s.id)] := by
      rw [State.attributes, hn]
      rfl
    rw [he]
    refine ⟨?_, ?_, (by decide : ["id".toList].Nodup)⟩
    · rintro a ha
      rw [List.mem_singleton.1 ha]
      exact hid
    · rintro a ha c hc
      rw [List.mem_singleton.1 ha] at hc
      exact isValueChar_of_mem_ofInt hc
  | some name =>
    have he : s.attributes = [("id".toList, ofInt s.id), ("name".toList, name)] := by
      rw [State.attributes, hn]
      rfl
    rw [he]
    refine ⟨?_, ?_, (by decide : ["id".toList, "name".toList].Nodup)⟩
    · rintro a ha
      rw [List.mem_cons, List.mem_singleton] at ha
      rcases ha with rfl | rfl
      · exact hid
      · exact hname
    · rintro a ha c hc
      rw [List.mem_cons, List.mem_singleton] at ha
      rcases ha with rfl | rfl
      · exact isValueChar_of_mem_ofInt hc
      · exact h.name name hn c hc

theorem State.writes {s : State} (h : s.IsWritable) : Writes (lineMarks s.marks) s.line := by
  have hflags : Writes
      (flagMarks s.isInitial "initial".toList ++ flagMarks s.isFinal "final".toList)
      (flag s.isInitial "initial".toList ∘ flag s.isFinal "final".toList) :=
    (writes_flag (isPlainName_of_all (by decide))).append
      (writes_flag (isPlainName_of_all (by decide)))
  exact writes_line (.element (isPlainName_of_all (by decide)) h.areWritable_attributes hflags)

theorem Transition.writes {t : Transition} (h : t.IsWritable) :
    Writes (lineMarks t.marks) t.line := by
  have hnum : ∀ n : Int, ∀ c ∈ ofInt n, isChar c = true ∧ c ≠ '\r' := fun n c hc =>
    ⟨(isValueChar_of_mem_ofInt hc).1, (isValueChar_of_mem_ofInt hc).2.2.2⟩
  have hfrom := writes_field (isPlainName_of_all (by decide) : IsPlainName "from".toList)
    (hnum t.source)
  have hto := writes_field (isPlainName_of_all (by decide) : IsPlainName "to".toList)
    (hnum t.target)
  exact writes_line (.element (isPlainName_of_all (by decide)) areWritable_nil
    ((hfrom.append hto).append (writes_label h.label h.collapsed)))

theorem spread_ofFeed_markup {f : Feed} {states : List State} {transitions : List Transition}
    (hs : ∀ s ∈ states, s.IsWritable) (ht : ∀ t ∈ transitions, t.IsWritable)
    (hf : f.Spells (Automaton.markup states transitions)) :
    (Forest.ofFeed f).spread = Automaton.forest states transitions := by
  have hlines : Writes (innerMarks states transitions) (fun rest => .text ['\n']
      (states.foldr State.line (transitions.foldr Transition.line rest))) :=
    writes_lineEnd.append
      ((Writes.flatMap fun s h => State.writes (hs s h)).append
        (Writes.flatMap fun t h => Transition.writes (ht t h)))
  have htype : Writes (fieldMarks "type".toList "fa".toList)
      (field "type".toList "fa".toList) :=
    writes_field (isPlainName_of_all (by decide)) (List.all_iff_forall_prop.1 (by decide))
  have hroot : Writes (rootMarks states transitions) _ :=
    htype.append (.element (isPlainName_of_all (by decide) : IsPlainName "automaton".toList)
      areWritable_nil hlines)
  rw [Automaton.markup_eq] at hf
  exact spread_ofFeed_written (isPlainName_of_all (by decide)) areWritable_nil hroot hf

end DfaTable
