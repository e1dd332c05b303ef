import DfaTable.Proofs.Markup.Running
import DfaTable.Proofs.Markup.Spread
import DfaTable.Proofs.Markup.Writing

/-!
# DfaTable.Proofs.Markup.Walk

Reading what was written. A document of marks is read piece by piece, in pieces that may end
anywhere, and at each place what has happened and the marks that are left are the whole document.

* `tagStep_written`, `endStep_written`, `referenceStep_written`, `dataStep_written`: a step over one
  mark, or over some characters, unless it waits.
* `step_written`: a step from any place of a document leads to a later one.
* `spread_events_written`: what happens while the document is read is what its marks say.
-/

namespace DfaTable
namespace Markup

open Text

/-! ## Documents -/

/-- A name in no name space. -/
def bareName (name : Text) : Name := { space := none, name }

/-- What happens where a mark stands. -/
def Mark.events : Mark → List Event
  | start isSingle name attributes =>
    .opening (bareName name) (attributes.map fun a => (bareName a.1, a.2)) [] ::
      if isSingle then [.closing (bareName name)] else []
  | closing name => [.closing (bareName name)]
  | character c => [.text [c]]

/-- Marks that end the named elements, from the inside out; the last one ends the root. -/
inductive Nests : List Text → List Mark → Prop where
  | root {name : Text} : Nests [name] [.closing name]
  | closing {name outer : Text} {names : List Text} {marks : List Mark} :
      Nests (outer :: names) marks → Nests (name :: outer :: names) (.closing name :: marks)
  | opening {name outer : Text} {names : List Text} {attributes : Written} {marks : List Mark} :
      Nests (name :: outer :: names) marks →
      Nests (outer :: names) (.start false name attributes :: marks)
  | single {name outer : Text} {names : List Text} {attributes : Written} {marks : List Mark} :
      Nests (outer :: names) marks →
      Nests (outer :: names) (.start true name attributes :: marks)
  | character {c : Char} {outer : Text} {names : List Text} {marks : List Mark} :
      Nests (outer :: names) marks → Nests (outer :: names) (.character c :: marks)

theorem Nests.of_characters {names : List Text} {v : Text} {left : List Mark}
    (h : Nests names (v.map .character ++ left)) : Nests names left := by
  induction v with
  | nil => exact h
  | cons c v ih =>
    cases h with
    | character h => exact ih h

/-- The marks of a root and all that is in it. -/
structure IsDocument (doc : List Mark) : Prop where
  root : ∃ name attributes marks, doc = .start false name attributes :: marks ∧
    Nests [name] marks
  isWritable : ∀ m ∈ doc, m.IsWritable

/-- The declaration before the root. -/
def declaration : Text := "<?xml version=\"1.0\" encoding=\"UTF-8\"?>".toList

theorem Mark.spread_events (m : Mark) : m.events.flatMap Event.spread = m.events := by
  cases m with
  | start isSingle name attributes => cases isSingle <;> rfl
  | closing name => rfl
  | character c => rfl

theorem spread_text (t : Text) :
    [Event.text t].flatMap Event.spread = (t.map Mark.character).flatMap Mark.events := by
  rw [List.flatMap_singleton]
  induction t with
  | nil => rfl
  | cons c t ih =>
    rw [List.map_cons, List.flatMap_cons, ← ih]
    rfl

/-! ## Places in a document -/

/-- An element that is open, of which only the name is known. -/
def openOf (name : Text) : Open :=
  { written := name, name := bareName name, bindings := reservedBindings }

namespace Progress

/-- The progress inside the named elements, from the inside out, after some events. -/
def inside (part : Part) (names : List Text) (past : List Event) : Progress :=
  { part, stack := names.map openOf, events := past }

/-- The events before a place and the marks behind it are the document. -/
def Splits (doc : List Mark) (past : List Event) (marks : List Mark) : Prop :=
  past.reverse.flatMap Event.spread ++ marks.flatMap Mark.events = doc.flatMap Mark.events

theorem Splits.move {doc : List Mark} {past es : List Event} {passed left : List Mark}
    (h : Splits doc past (passed ++ left))
    (he : es.flatMap Event.spread = passed.flatMap Mark.events) :
    Splits doc (es.reverse ++ past) left := by
  unfold Splits at h ⊢
  rw [← h, List.reverse_append, List.reverse_reverse, List.flatMap_append, List.flatMap_append,
    he, List.append_assoc]

theorem Splits.mark {doc marks : List Mark} {past : List Event} {m : Mark}
    (h : Splits doc past (m :: marks)) : Splits doc (m.events.reverse ++ past) marks := by
  have hm : m.events.flatMap Event.spread = [m].flatMap Mark.events := by
    rw [m.spread_events, List.flatMap_singleton]
  exact Splits.move h hm

theorem Splits.text {doc left : List Mark} {past : List Event} {v : Text}
    (h : Splits doc past (v.map .character ++ left)) : Splits doc (.text v :: past) left :=
  Splits.move h (spread_text v)

/-- A place in a document, with what is still to be read there. -/
inductive Ahead (doc : List Mark) : Progress → Input → Prop where
  | beginning {t : Input} :
      t = inputOf (declaration ++ '\n' :: writeAll doc) → Ahead doc {} t
  | prolog {t : Input} : t = inputOf ('\n' :: writeAll doc) →
      Ahead doc (inside (.prolog true) [] []) t
  | content {names : List Text} {past : List Event} {marks : List Mark} {t : Input} :
      Nests names marks → (∀ m ∈ marks, m.IsWritable) → Splits doc past marks →
      t = inputOf (writeAll marks) → Ahead doc (inside .content names past) t
  | ended {past : List Event} {t : Input} : Splits doc past [] →
      Ahead doc (inside .ended [] past) t

/-- The end of the root is the end; any other mark leads to more content. -/
theorem ahead_resume {doc marks : List Mark} (part : Part) {names : List Text}
    {past : List Event} {rest more : Input} (hn : names = [] ∧ marks = [] ∨ Nests names marks)
    (hw : ∀ m ∈ marks, m.IsWritable) (hs : Splits doc past marks)
    (hr : rest ++ more = inputOf (writeAll marks)) :
    ∃ q left, (inside part names past).resume rest = some (q, left) ∧
      Ahead doc q (left ++ more) ∧ left.length ≤ rest.length ∧ q.part ≠ .beginning := by
  rcases hn with ⟨rfl, rfl⟩ | hn
  · exact ⟨_, [], rfl, .ended hs, Nat.zero_le _, by simp⟩
  · cases names with
    | nil => cases hn
    | cons name names =>
      exact ⟨_, rest, rfl, .content hn hw hs hr, Nat.le_refl _, by simp⟩

/-! ## Start tags -/

theorem bindingsOf_eq_nil {attributes : Written} (h : AreWritable attributes) :
    bindingsOf attributes = [] := by
  have hb : attributes.filterMap binding? = [] := by
    rw [List.filterMap_eq_nil_iff]
    intro a ha
    obtain ⟨hn, hx⟩ := h.names a ha
    have hf : (a.1 == bindingPrefix) = false := by simpa using hx
    simp [binding?, hf, splitName_of_isPlainName hn]
  rw [bindingsOf, hb]
  rfl

theorem filter_not_isBinding {attributes : Written} (h : AreWritable attributes) :
    (attributes.filter fun a => !isBinding a.1) = attributes := by
  rw [List.filter_eq_self]
  intro a ha
  obtain ⟨hn, hx⟩ := h.names a ha
  have hf : (a.1 == bindingPrefix) = false := by simpa using hx
  simp [isBinding, hf, splitName_of_isPlainName hn]

theorem elementName_eq {name : Text} (h : IsPlainName name) :
    elementName reservedBindings name = bareName name := by
  simp only [elementName, splitName_of_isPlainName h]
  rfl

theorem attributeName_eq {name : Text} (h : IsPlainName name) :
    attributeName reservedBindings name = bareName name := by
  simp only [attributeName, splitName_of_isPlainName h]
  rfl

theorem enter_written {part : Part} {names : List Text} {past : List Event} {name : Text}
    (hn : IsPlainName name) {attributes : Written} (h : AreWritable attributes)
    (isSingle : Bool) :
    (inside part names past).enter { name, attributes, ending := endingOf isSingle } true =
      inside part (if isSingle then names else name :: names)
        ((Mark.start isSingle name attributes).events.reverse ++ past) := by
  have hout : (((inside part names past).stack.head?.map Open.bindings).getD reservedBindings) =
      reservedBindings := by
    cases names <;> rfl
  have hown : (inside part names past).bindingsFor
      { name, attributes, ending := endingOf isSingle } = [] := bindingsOf_eq_nil h
  have hattr : attributes.map (fun a => (attributeName reservedBindings a.1, a.2)) =
      attributes.map fun a => (bareName a.1, a.2) := by
    rw [List.map_inj_left]
    intro a ha
    rw [attributeName_eq (h.names a ha).1]
  unfold enter
  simp only [hout, hown, List.nil_append, elementName_eq hn, filter_not_isBinding h, hattr]
  cases isSingle <;> rfl

/-- What waits does so because this is not the last piece. -/
theorem eq_false_of_guard {isLast b : Bool} (h : (!isLast && b) = true) : isLast = false := by
  rw [Bool.and_eq_true, Bool.not_eq_true'] at h
  exact h.1

theorem tagStep_open (isLast : Bool) (p : Progress) (t : Input) :
    p.tagStep isLast (.char '<' :: t) =
      if !isLast && t.length + 1 < 2 then none
      else if !isLast && !hasTagEnd none t then none
      else
        match startTag? p.isLax p.rules.isWords t with
        | none => p.stop
        | some r => (p.enter r.value r.isSound).resume r.rest := rfl

/-- A step over a start tag, which may wait for the rest of the tag. -/
theorem tagStep_written {isLast : Bool} {part : Part} {names : List Text} {past : List Event}
    {isSingle : Bool} {name : Text} (hn : IsPlainName name) {attributes : Written}
    (ha : AreWritable attributes) {t more after : Input} (hm : isLast = true → more = [])
    (h : t ++ more = inputOf (Mark.start isSingle name attributes).write ++ after) :
    ((inside part names past).tagStep isLast t = none ∧ isLast = false) ∨
      ∃ rest, rest ++ more = after ∧ rest.length < t.length ∧
        (inside part names past).tagStep isLast t =
          (inside part (if isSingle then names else name :: names)
            ((Mark.start isSingle name attributes).events.reverse ++ past)).resume rest := by
  rcases begins_or_waits hm h with ⟨rest, rfl, hr⟩ | ⟨hf, v, u, hu, hw, rfl⟩
  · rw [Mark.write, inputOf_cons, List.cons_append, tagStep_open]
    split
    · rename_i hl
      exact .inl ⟨rfl, eq_false_of_guard hl⟩
    · split
      · rename_i hl
        exact .inl ⟨rfl, eq_false_of_guard hl⟩
      · refine .inr ⟨rest, hr, by simp only [List.length_cons, List.length_append]; omega, ?_⟩
        have ht : startTag? (inside part names past).isLax (inside part names past).rules.isWords
            (inputOf (startText isSingle name attributes) ++ rest) =
            some { value := { name, attributes, ending := endingOf isSingle }, rest } :=
          startTag?_write (fun _ => rfl) hn ha isSingle rest
        rw [ht]
        show ((inside part names past).enter _ true).resume rest = _
        rw [enter_written hn ha]
  · refine .inl ⟨?_, hf⟩
    rw [hf]
    cases v with
    | nil => rfl
    | cons c v =>
      obtain ⟨rfl, hv⟩ := List.cons.inj hw
      have he := hasTagEnd_of_prefix hn (fun a h => (ha.names a h).1) hu hv
      rw [inputOf_cons, tagStep_open, he]
      simp

/-! ## Content -/

section
variable {doc marks : List Mark} {isLast : Bool} {names : List Text} {past : List Event}
  {t more : Input}

/-- What a step over content comes to: it waits, or leads to a later place. -/
def Advances (doc : List Mark) (isLast : Bool) (t more : Input)
    (r : Option (Progress × Input)) : Prop :=
  (r = none ∧ isLast = false) ∨
    ∃ q rest, r = some (q, rest) ∧ Ahead doc q (rest ++ more) ∧
      (isLast = true → rest.length < t.length) ∧ q.part ≠ .beginning

theorem contentStep_start (isSingle : Bool) {name : Text} (hn : IsPlainName name)
    {attributes : Written} (ha : AreWritable attributes) (hm : isLast = true → more = [])
    (hnest : Nests (if isSingle then names else name :: names) marks)
    (hw : ∀ m ∈ marks, m.IsWritable)
    (hs : Splits doc past (.start isSingle name attributes :: marks))
    (h : t ++ more = inputOf (writeAll (.start isSingle name attributes :: marks))) :
    Advances doc isLast t more ((inside .content names past).contentStep isLast t) := by
  rw [writeAll_cons, inputOf_append] at h
  -- Behind `<` stands the first character of a name, so only a start tag can follow.
  have hstep : (inside .content names past).contentStep isLast t =
      (inside .content names past).tagStep isLast t ∨ t = [] := by
    obtain ⟨c, tail, rfl, hc⟩ := hn.head
    cases t with
    | nil => exact .inr rfl
    | cons s t =>
      obtain ⟨rfl, ht⟩ := List.cons.inj h
      cases t with
      | nil => exact .inl rfl
      | cons s t =>
        obtain ⟨rfl, -⟩ := List.cons.inj ht
        have hne := (not_isSpace_of_isNameStart hc).2.2
        exact .inl (contentStep_tag (by simpa using hne) t)
  rcases hstep with hstep | rfl
  · rw [hstep]
    rcases tagStep_written hn ha hm h with hwait | ⟨rest, hr, hl, hq⟩
    · exact .inl hwait
    · obtain ⟨q, left, hres, hahead, hlen, hp⟩ :=
        ahead_resume .content (.inr hnest) hw hs.mark hr
      exact .inr ⟨q, left, hq.trans hres, hahead, fun _ => by omega, hp⟩
  · refine .inl ⟨rfl, Bool.eq_false_iff.2 fun hl => ?_⟩
    rw [hm hl] at h
    cases h

theorem contentStep_closing {name : Text} (hn : IsPlainName name) (hm : isLast = true → more = [])
    (hnest : names = [] ∧ marks = [] ∨ Nests names marks) (hw : ∀ m ∈ marks, m.IsWritable)
    (hs : Splits doc past (.closing name :: marks))
    (h : t ++ more = inputOf (writeAll (.closing name :: marks))) :
    Advances doc isLast t more ((inside .content (name :: names) past).contentStep isLast t) := by
  rw [writeAll_cons, inputOf_append] at h
  rcases begins_or_waits hm h with ⟨rest, rfl, hr⟩ | ⟨hf, v, u, hu, hv, rfl⟩
  · show Advances _ _ _ _ ((inside .content (name :: names) past).endStep isLast
      (inputOf (name ++ ['>']) ++ rest))
    unfold endStep
    split
    · rename_i hl
      exact .inl ⟨rfl, eq_false_of_guard hl⟩
    · have ht : takeName (inputOf (name ++ ['>']) ++ rest) = (name, .char '>' :: rest) := by
        rw [inputOf_append, List.append_assoc]
        exact takeName_append hn (by decide) _
      have hsk : skipSpaces (.char '>' :: rest) = .char '>' :: rest :=
        skipSpaces_of_not_space (by decide) _
      obtain ⟨q, left, hres, hahead, hlen, hp⟩ := ahead_resume .content hnest hw hs.mark hr
      refine .inr ⟨q, left, ?_, hahead, fun _ => ?_, hp⟩
      · have ha : after? ['>'] (.char '>' :: rest) = some rest := rfl
        simp only [ht, hsk, ha]
        simpa [inside, note, openOf, Mark.events] using hres
      · simp [Mark.write]
        omega
  · refine .inl ⟨?_, hf⟩
    rw [hf]
    rcases v with _ | ⟨c, _ | ⟨d, v⟩⟩
    · rfl
    · obtain ⟨rfl, -⟩ := List.cons.inj hv
      rfl
    · obtain ⟨rfl, hv'⟩ := List.cons.inj hv
      obtain ⟨rfl, hn'⟩ := List.cons.inj hv'
      have hp := prefix_of_append_singleton hn' hu
      have hgt : .char '>' ∉ inputOf v := fun hc =>
        absurd (hn.all _ (hp.subset (char_mem_inputOf.1 hc))).1 (by decide)
      show (inside .content (name :: names) past).endStep false (inputOf v) = none
      rw [endStep, hasMark_eq_false_of_notMem (by decide) hgt]
      rfl

theorem contentStep_entity {c : Char} {name : Text} (hc : entityName? c = some name)
    (hm : isLast = true → more = []) (hnest : Nests names marks) (hw : ∀ m ∈ marks, m.IsWritable)
    (hs : Splits doc past (.character c :: marks))
    (h : t ++ more = inputOf (writeAll (.character c :: marks))) :
    Advances doc isLast t more ((inside .content names past).contentStep isLast t) := by
  have hwrite : (Mark.character c).write = '&' :: (name ++ [';']) := escapeChar_of_some hc
  rw [writeAll_cons, inputOf_append, hwrite] at h
  rcases begins_or_waits hm h with ⟨rest, rfl, hr⟩ | ⟨hf, v, u, hu, hv, rfl⟩
  · show Advances _ _ _ _ ((inside .content names past).referenceStep isLast
      (inputOf (name ++ [';']) ++ rest))
    unfold referenceStep
    split
    · rename_i hl
      exact .inl ⟨rfl, eq_false_of_guard hl⟩
    · have href : reference (inside .content names past).isLax (inputOf (name ++ [';']) ++ rest) =
          { value := .byName (some c), rest } := reference_entity hc rest
      rw [href]
      exact .inr ⟨_, rest, rfl, .content hnest hw hs.mark hr, fun _ => by simp; omega,
        (by decide : Part.content ≠ .beginning)⟩
  · refine .inl ⟨?_, hf⟩
    rw [hf]
    cases v with
    | nil => rfl
    | cons d v =>
      obtain ⟨rfl, hv'⟩ := List.cons.inj hv
      have hp := prefix_of_append_singleton hv' hu
      have hsc : .char ';' ∉ inputOf v := fun hd =>
        semicolon_notMem_entityName hc (hp.subset (char_mem_inputOf.1 hd))
      show (inside .content names past).referenceStep false (inputOf v) = none
      rw [referenceStep, hasMark_eq_false_of_notMem (by decide) hsc]
      rfl

theorem contentStep_plain {c : Char} (hc : entityName? c = none)
    (hm : isLast = true → more = []) (hnest : Nests names (.character c :: marks))
    (hw : ∀ m ∈ Mark.character c :: marks, m.IsWritable)
    (hs : Splits doc past (.character c :: marks))
    (h : t ++ more = inputOf (writeAll (.character c :: marks))) :
    Advances doc isLast t more ((inside .content names past).contentStep isLast t) := by
  obtain ⟨h1, h2, -, -⟩ := entityName?_eq_none hc
  have hwrite : (Mark.character c).write = [c] := escapeChar_of_none hc
  cases t with
  | nil =>
    refine .inl ⟨rfl, Bool.eq_false_iff.2 fun hl => ?_⟩
    rw [hm hl, writeAll_cons, hwrite] at h
    cases h
  | cons s t =>
    have hs' : s = .char c := by
      rw [writeAll_cons, hwrite] at h
      exact (List.cons.inj h).1
    subst hs'
    rw [contentStep_data (by simp [h1, h2])]
    unfold dataStep
    split
    · rename_i hl
      exact .inl ⟨rfl, eq_false_of_guard hl⟩
    · have hr : TakesText (!isLast) (.character c :: marks) more
          (characterData (!isLast) (.char c :: t)) := characterData_written hw h
      obtain ⟨left, hleft, hrest⟩ := hr.left
      have hnest' : Nests names left := Nests.of_characters (hleft ▸ hnest)
      have hw' : ∀ m ∈ left, m.IsWritable := fun m hm' =>
        hw m (hleft ▸ List.mem_append_right _ hm')
      have hs' : Splits doc (.text (characterData (!isLast) (.char c :: t)).value :: past) left :=
        Splits.text (hleft ▸ hs)
      refine .inr ⟨_, _, rfl, ?_, ?_, (by decide : Part.content ≠ .beginning)⟩
      · rw [hr.isSound]
        exact .content hnest' hw' hs' hrest
      · rintro rfl
        exact TakesText.length_lt hr ⟨h2, h1⟩ h

theorem contentStep_written (hm : isLast = true → more = []) (hnest : Nests names marks)
    (hw : ∀ m ∈ marks, m.IsWritable) (hs : Splits doc past marks)
    (h : t ++ more = inputOf (writeAll marks)) :
    Advances doc isLast t more ((inside .content names past).contentStep isLast t) := by
  have hw' : ∀ {m : Mark} {marks : List Mark}, (∀ m' ∈ m :: marks, m'.IsWritable) →
      m.IsWritable ∧ ∀ m' ∈ marks, m'.IsWritable := fun h => List.forall_mem_cons.1 h
  cases hnest with
  | root =>
    obtain ⟨hn, hrest⟩ := hw' hw
    exact contentStep_closing hn hm (.inl ⟨rfl, rfl⟩) hrest hs h
  | closing hnest =>
    obtain ⟨hn, hrest⟩ := hw' hw
    exact contentStep_closing hn hm (.inr hnest) hrest hs h
  | opening hnest =>
    obtain ⟨⟨hn, ha⟩, hrest⟩ := hw' hw
    exact contentStep_start false hn ha hm hnest hrest hs h
  | single hnest =>
    obtain ⟨⟨hn, ha⟩, hrest⟩ := hw' hw
    exact contentStep_start true hn ha hm hnest hrest hs h
  | @character c _ _ _ hnest =>
    cases hc : entityName? c with
    | some name => exact contentStep_entity hc hm hnest (hw' hw).2 hs h
    | none => exact contentStep_plain hc hm (.character hnest) hw hs h

/-! ## The beginning -/

theorem prologStep_tag {p : Progress} {c : Char} (h : c ≠ '?' ∧ c ≠ '!') (t : Input) :
    p.prologStep isLast true (.char '\n' :: .char '<' :: .char c :: t) =
      p.tagStep isLast (.char '<' :: .char c :: t) := by
  obtain ⟨h1, h2⟩ := h
  have hs : skipSpaces (.char '\n' :: .char '<' :: .char c :: t) =
      .char '<' :: .char c :: t := by
    show skipSpaces (.char '<' :: .char c :: t) = _
    exact skipSpaces_of_not_space (by decide) _
  have hb : startsWith "<!" (.char '<' :: .char c :: t) = false := by
    rw [startsWith]
    cases ha : after? "<!".toList (.char '<' :: .char c :: t) with
    | none => rfl
    | some u =>
      have he := after?_eq_some_iff.1 ha
      exact absurd (Symbol.char.inj (List.cons.inj (List.cons.inj he).2).1) h2
  unfold prologStep
  rw [hs]
  split
  · rename_i hx
    cases hx
  · rename_i hx
    exact absurd (Symbol.char.inj (List.cons.inj (List.cons.inj hx).2).1) h1
  · rename_i hx
    exact absurd (Symbol.char.inj (List.cons.inj (List.cons.inj hx).2).1) h2
  · rw [hb]
    rfl

theorem prologStep_written (hd : IsDocument doc) (hm : isLast = true → more = [])
    (h : t ++ more = inputOf ('\n' :: writeAll doc)) :
    Advances doc isLast t more ((inside (.prolog true) [] []).prologStep isLast true t) := by
  obtain ⟨⟨name, attributes, marks, rfl, hnest⟩, hw⟩ := hd
  obtain ⟨⟨hn, ha⟩, hrest⟩ := List.forall_mem_cons.1 hw
  have hlast : t.length < 3 → isLast = false := by
    intro hl
    refine Bool.eq_false_iff.2 fun hf => ?_
    rw [hm hf, List.append_nil] at h
    rw [h] at hl
    obtain ⟨c, tail, rfl, -⟩ := hn.head
    simp [Mark.write, startText] at hl
    omega
  rw [inputOf_cons] at h
  -- A line end, `<` and one character more are needed to tell the root from a declaration.
  rcases t with _ | ⟨s, _ | ⟨s', _ | ⟨s'', t⟩⟩⟩
  · exact .inl ⟨rfl, hlast (by simp)⟩
  · obtain ⟨rfl, -⟩ := List.cons.inj h
    exact .inl ⟨rfl, hlast (by simp)⟩
  · obtain ⟨rfl, h'⟩ := List.cons.inj h
    obtain ⟨rfl, -⟩ := List.cons.inj h'
    have hf := hlast (by simp)
    rw [hf]
    exact .inl ⟨rfl, rfl⟩
  · obtain ⟨rfl, h'⟩ := List.cons.inj h
    have htag : s' :: s'' :: t ++ more =
        inputOf (writeAll (.start false name attributes :: marks)) := h'
    obtain ⟨c, tail, rfl, hc⟩ := hn.head
    obtain ⟨rfl, h''⟩ := List.cons.inj h'
    obtain ⟨rfl, -⟩ := List.cons.inj h''
    obtain ⟨-, -, -, h1, h2⟩ := not_isSpace_of_isNameStart hc
    rw [prologStep_tag ⟨h1, h2⟩]
    rw [writeAll_cons, inputOf_append] at htag
    rcases tagStep_written hn ha hm htag with hwait | ⟨rest, hr, hl, hq⟩
    · exact .inl hwait
    · have hs : Splits (.start false (c :: tail) attributes :: marks) []
          (.start false (c :: tail) attributes :: marks) := rfl
      obtain ⟨q, left, hres, hahead, hlen, hp⟩ :=
        ahead_resume (.prolog true) (.inr hnest) hrest hs.mark hr
      refine .inr ⟨q, left, hq.trans hres, hahead, fun _ => ?_, hp⟩
      rw [List.length_cons]
      omega

theorem beginningStep_instruction (isLast : Bool) (p : Progress) (t : Input) :
    p.beginningStep isLast (.char '<' :: .char '?' :: t) =
      if !isLast && byteCount ((.char '<' :: .char '?' :: t).take 4) < 4 then none
      else if !isLast && t.length + 2 < 2 then none
      else if !isLast && !hasMark "?>" t then none
      else
        match after? ['x', 'm', 'l'] t with
        | none => p.goTo (.prolog true) (.char '<' :: .char '?' :: t)
        | some rest =>
          if startsWithSpace rest then
            let (isAlone, p, rest) := p.scan Declaration.read rest
            { p with isAlone }.goTo (.prolog true) rest
          else p.goTo (.prolog true) (.char '<' :: .char '?' :: t) := rfl

/-- What the declaration says behind its name, up to its last character. -/
def declared : Text := " version=\"1.0\" encoding=\"UTF-8\"?".toList

theorem declaration_eq :
    declaration = '<' :: '?' :: 'x' :: 'm' :: 'l' :: declared ++ ['>'] := rfl

theorem beginningStep_written (hm : isLast = true → more = [])
    (h : t ++ more = inputOf (declaration ++ '\n' :: writeAll doc)) :
    (({} : Progress).beginningStep isLast t = none ∧ isLast = false) ∨
      ∃ rest, ({} : Progress).beginningStep isLast t =
          some (inside (.prolog true) [] [], rest) ∧
        rest ++ more = inputOf ('\n' :: writeAll doc) ∧ rest.length < t.length := by
  rw [inputOf_append] at h
  rcases begins_or_waits hm h with ⟨rest, rfl, hr⟩ | ⟨hf, v, u, hu, hv, rfl⟩
  · have ht : inputOf declaration ++ rest = .char '<' :: .char '?' ::
        (inputOf ['x', 'm', 'l'] ++ (inputOf declared ++ .char '>' :: rest)) := by
      rw [declaration_eq]
      simp
    rw [ht, beginningStep_instruction]
    split
    · rename_i hl
      exact .inl ⟨rfl, eq_false_of_guard hl⟩
    split
    · rename_i hl
      exact .inl ⟨rfl, eq_false_of_guard hl⟩
    split
    · rename_i hl
      exact .inl ⟨rfl, eq_false_of_guard hl⟩
    · rw [after?_inputOf]
      refine .inr ⟨rest, rfl, hr, ?_⟩
      simp
      omega
  · refine .inl ⟨?_, hf⟩
    rw [hf]
    rw [declaration_eq] at hv
    rcases v with _ | ⟨c, _ | ⟨d, v⟩⟩
    · rfl
    · obtain ⟨rfl, -⟩ := List.cons.inj hv
      rfl
    · have hp := prefix_of_append_singleton hv hu
      obtain ⟨rfl, hv'⟩ := List.cons.inj hv
      obtain ⟨rfl, -⟩ := List.cons.inj hv'
      have hgt : .char '>' ∉ inputOf v := by
        intro h
        have hm := List.mem_cons_of_mem '<' (List.mem_cons_of_mem '?' (char_mem_inputOf.1 h))
        exact absurd (hp.subset hm) (by decide)
      rw [inputOf_cons, inputOf_cons, beginningStep_instruction,
        hasMark_eq_false_of_notMem (by decide) hgt]
      simp

/-! ## The whole document -/

/-- A step from any place but the end waits, or leads to a later place. -/
theorem step_written (hd : IsDocument doc) {p : Progress} (hm : isLast = true → more = [])
    (h : Ahead doc p (t ++ more)) :
    (p.step isLast t = none ∧ (isLast = false ∨ p.part = .ended)) ∨
      ∃ q rest, p.step isLast t = some (q, rest) ∧ Ahead doc q (rest ++ more) ∧
        (isLast = true → q.work rest < p.work t) := by
  have later : ∀ {p : Progress} {r : Option (Progress × Input)}, p.step isLast t = r →
      Advances doc isLast t more r →
      (p.step isLast t = none ∧ (isLast = false ∨ p.part = .ended)) ∨
        ∃ q rest, p.step isLast t = some (q, rest) ∧ Ahead doc q (rest ++ more) ∧
          (isLast = true → q.work rest < p.work t) := by
    rintro p r rfl (⟨hr, hf⟩ | ⟨q, rest, hr, hq, hl, hp⟩)
    · exact .inl ⟨hr, .inl hf⟩
    · refine .inr ⟨q, rest, hr, hq, fun hlast => ?_⟩
      have := hl hlast
      rw [work, work, if_neg hp]
      omega
  cases h with
  | beginning ht =>
    rcases beginningStep_written hm ht with ⟨hr, hf⟩ | ⟨rest, hr, hrest, hl⟩
    · exact .inl ⟨hr, .inl hf⟩
    · refine .inr ⟨_, rest, hr, .prolog hrest, fun _ => ?_⟩
      have hp : (inside (.prolog true) [] []).part ≠ .beginning := by simp [inside]
      rw [work, work, if_neg hp]
      omega
  | prolog ht => exact later rfl (prologStep_written hd hm ht)
  | content hnest hw hs ht => exact later rfl (contentStep_written hm hnest hw hs ht)
  | ended hs => exact .inl ⟨rfl, .inr rfl⟩

end

theorem isKept_ahead {doc : List Mark} (hd : IsDocument doc) : IsKept (Ahead doc) := by
  intro isLast p q t rest more hm h hs
  rcases step_written hd hm h with ⟨hr, -⟩ | ⟨q', rest', hr, hq, -⟩
  · rw [hs] at hr
    cases hr
  · rw [hs] at hr
    cases hr
    exact hq

theorem goesOn_ahead {doc : List Mark} (hd : IsDocument doc) : GoesOn (Ahead doc) := by
  intro p q t rest h hs
  rw [← List.append_nil t] at h
  rcases step_written hd (fun _ => rfl) h with ⟨hr, -⟩ | ⟨q', rest', hr, -, hl⟩
  · rw [hs] at hr
    cases hr
  · rw [hs] at hr
    cases hr
    exact hl rfl

/-- A document whose end has come is read to its end. -/
theorem Ahead.splits_of_step_eq_none {doc : List Mark} (hd : IsDocument doc) {p : Progress}
    {t : Input} (h : Ahead doc p t) (hs : p.step true t = none) : Splits doc p.events [] := by
  have hp : p.part = .ended := by
    rw [← List.append_nil t] at h
    have hstep : (p.step true t = none ∧ (true = false ∨ p.part = .ended)) ∨ _ :=
      step_written hd (fun _ => rfl) h
    rcases hstep with ⟨-, hf | hp⟩ | ⟨q, rest, hr, -⟩
    · cases hf
    · exact hp
    · rw [hs] at hr
      cases hr
  cases h with
  | ended hsplit => exact hsplit
  | beginning => cases hp
  | prolog => cases hp
  | content => cases hp

end Progress

open Progress in
/-- However a document is cut up, what happens while it is read is what its marks say. -/
theorem spread_events_written {f : Feed} {doc : List Mark} (hd : IsDocument doc)
    (hs : f.Spells (declaration ++ '\n' :: writeAll doc)) :
    f.events.flatMap Event.spread = doc.flatMap Mark.events := by
  obtain ⟨p, left, hp, hf⟩ := Feed.exists_last_run (isKept_ahead hd) hs (.beginning rfl)
  obtain ⟨hq, hend⟩ := run_ends (isKept_ahead hd) (goesOn_ahead hd) hp
  have hsplit := hq.splits_of_step_eq_none hd hend
  rw [Splits, List.flatMap_nil, List.append_nil] at hsplit
  rw [Feed.events, hf, hsplit]

end Markup
end DfaTable
