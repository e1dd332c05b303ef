import DfaTable.Markup.Data
import DfaTable.Proofs.Markup.Scanning

/-!
# DfaTable.Proofs.Markup.Writing

Markup that is written from its parts, and what the readers find in each of them.

* `reference_entity`, `valueUntil_escape`: escaped characters and values are read back.
* `takeAttributes_write`, `startTag?_write`: so is a start tag.
* `hasTagEnd_of_prefix`: a start tag that has come in only in part is seen not to have ended.
* `characterData_written`: what is read of text are its first characters.
-/

namespace DfaTable
namespace Markup

open Text

/-! ## Escaped characters -/

/-- The names under which four characters are written. -/
def entityName? (c : Char) : Option Text :=
  if c = '&' then some ['a', 'm', 'p']
  else if c = '<' then some ['l', 't']
  else if c = '>' then some ['g', 't']
  else if c = '\x22' then some ['q', 'u', 'o', 't']
  else none

/-- A character as it is written between tags and in values. -/
def escapeChar (c : Char) : Text :=
  match entityName? c with
  | some name => '&' :: (name ++ [';'])
  | none => [c]

def escape (t : Text) : Text := t.flatMap escapeChar

theorem entityName?_eq_some {c : Char} {name : Text} (h : entityName? c = some name) :
    (c = '&' ∧ name = ['a', 'm', 'p']) ∨ (c = '<' ∧ name = ['l', 't']) ∨
      (c = '>' ∧ name = ['g', 't']) ∨ (c = '\x22' ∧ name = ['q', 'u', 'o', 't']) := by
  unfold entityName? at h
  split at h
  · cases h
    exact .inl ⟨‹_›, rfl⟩
  split at h
  · cases h
    exact .inr (.inl ⟨‹_›, rfl⟩)
  split at h
  · cases h
    exact .inr (.inr (.inl ⟨‹_›, rfl⟩))
  split at h
  · cases h
    exact .inr (.inr (.inr ⟨‹_›, rfl⟩))
  · cases h

theorem entityName?_eq_none {c : Char} (h : entityName? c = none) :
    c ≠ '&' ∧ c ≠ '<' ∧ c ≠ '>' ∧ c ≠ '\x22' := by
  refine ⟨?_, ?_, ?_, ?_⟩ <;> (rintro rfl; revert h; decide)

theorem escapeChar_of_some {c : Char} {name : Text} (h : entityName? c = some name) :
    escapeChar c = '&' :: (name ++ [';']) := by
  simp only [escapeChar, h]

theorem escapeChar_of_none {c : Char} (h : entityName? c = none) : escapeChar c = [c] := by
  simp only [escapeChar, h]

theorem reference_entity {c : Char} {name : Text} (h : entityName? c = some name) (t : Input) :
    reference false (inputOf (name ++ [';']) ++ t) = { value := .byName (some c), rest := t } := by
  rcases entityName?_eq_some h with ⟨rfl, rfl⟩ | ⟨rfl, rfl⟩ | ⟨rfl, rfl⟩ | ⟨rfl, rfl⟩ <;> rfl

theorem semicolon_notMem_entityName {c : Char} {name : Text} (h : entityName? c = some name) :
    ';' ∉ name := by
  rcases entityName?_eq_some h with ⟨rfl, rfl⟩ | ⟨rfl, rfl⟩ | ⟨rfl, rfl⟩ | ⟨rfl, rfl⟩ <;> decide

theorem quote_notMem_escape (t : Text) : '\x22' ∉ escape t := by
  intro h
  obtain ⟨c, -, hc⟩ := List.mem_flatMap.1 h
  cases hn : entityName? c with
  | some name =>
    rw [escapeChar_of_some hn] at hc
    revert hc
    rcases entityName?_eq_some hn with ⟨rfl, rfl⟩ | ⟨rfl, rfl⟩ | ⟨rfl, rfl⟩ | ⟨rfl, rfl⟩ <;> decide
  | none =>
    rw [escapeChar_of_none hn, List.mem_singleton] at hc
    exact (entityName?_eq_none hn).2.2.2 hc.symm

/-! ## Values -/

/-- A character that a value gives back: reading turns other blanks into spaces. -/
def IsValueChar (c : Char) : Prop := isChar c = true ∧ c ≠ '\t' ∧ c ≠ '\n' ∧ c ≠ '\r'

theorem toNat_of_isValueChar {c : Char} (h : IsValueChar c) : 32 ≤ c.toNat := by
  obtain ⟨hc, ht, hn, hr⟩ := h
  have ne : ∀ d : Char, c ≠ d → c.toNat ≠ d.toNat := fun d hd he =>
    hd (by rw [← Char.ofNat_toNat c, he, Char.ofNat_toNat])
  have h9 := ne _ ht
  have h10 := ne _ hn
  have h13 := ne _ hr
  simp only [isChar, Bool.or_eq_true, Bool.and_eq_true, beq_iff_eq, decide_eq_true_eq] at hc
  simp only [Char.reduceToNat] at h9 h10 h13
  omega

theorem valueUntil_quote (isLax : Bool) (t : Input) :
    valueUntil isLax '\x22' (.char '\x22' :: t) = { value := some [], rest := t } := by
  rw [valueUntil]
  · rfl
  · simp

theorem valueUntil_entity {c : Char} {name : Text} (h : entityName? c = some name) (t : Input) :
    valueUntil false '\x22' (.char '&' :: (inputOf (name ++ [';']) ++ t)) =
      (valueUntil false '\x22' t).push c true := by
  rw [valueUntil]
  · rw [if_neg (by decide), if_pos rfl]
    simp only [reference_entity h]
  · simp

theorem valueUntil_plain {c : Char} (hc : IsValueChar c) (he : entityName? c = none) (t : Input) :
    valueUntil false '\x22' (.char c :: t) = (valueUntil false '\x22' t).push c true := by
  obtain ⟨h1, h2, -, h4⟩ := entityName?_eq_none he
  have h32 := toNat_of_isValueChar hc
  obtain ⟨-, ht, hn, hr⟩ := hc
  rw [valueUntil]
  · rw [if_neg h4, if_neg h1]
    split
    · rename_i hs
      have hsp : c = ' ' := by simpa [isSpace, ht, hn, hr] using hs
      rw [hsp]
    · rw [if_neg (by omega), show (c != '<') = true from bne_iff_ne.2 h2]
  · exact fun _ _ hc => hr hc

theorem valueUntil_escape {v : Text} (hv : ∀ c ∈ v, IsValueChar c) (t : Input) :
    valueUntil false '\x22' (inputOf (escape v) ++ .char '\x22' :: t) =
      { value := some v, rest := t } := by
  induction v with
  | nil => exact valueUntil_quote false t
  | cons c v ih =>
    have hr := ih fun d hd => hv d (List.mem_cons_of_mem _ hd)
    have he : escape (c :: v) = escapeChar c ++ escape v := rfl
    rw [he, inputOf_append, List.append_assoc]
    cases hn : entityName? c with
    | some name =>
      rw [escapeChar_of_some hn, inputOf_cons, List.cons_append, valueUntil_entity hn, hr]
      rfl
    | none =>
      rw [escapeChar_of_none hn, inputOf_cons, List.cons_append]
      show valueUntil false '\x22' (.char c :: (inputOf (escape v) ++ .char '\x22' :: t)) = _
      rw [valueUntil_plain (hv c (List.mem_cons_self ..)) hn, hr]
      rfl

/-! ## Start tags -/

def writeAttributes (attributes : Written) : Text :=
  attributes.flatMap fun (name, v) => ' ' :: (name ++ '=' :: '\x22' :: (escape v ++ ['\x22']))

/-- The mark of a tag that ends its own element. -/
def slash (isSingle : Bool) : Text := if isSingle then ['/'] else []

/-- What stands in a start tag behind its first mark; `isSingle` if the tag ends its element. -/
def startText (isSingle : Bool) (name : Text) (attributes : Written) : Text :=
  name ++ (writeAttributes attributes ++ (slash isSingle ++ ['>']))

/-- Attributes that a start tag gives back; none of them declares a name space. -/
structure AreWritable (attributes : Written) : Prop where
  names : ∀ a ∈ attributes, IsPlainName a.1 ∧ a.1 ≠ bindingPrefix
  values : ∀ a ∈ attributes, ∀ c ∈ a.2, IsValueChar c
  distinct : (attributes.map Prod.fst).Nodup

theorem AreWritable.tail {a : Text × Text} {attributes : Written}
    (h : AreWritable (a :: attributes)) : AreWritable attributes where
  names b hb := h.names b (List.mem_cons_of_mem _ hb)
  values b hb := h.values b (List.mem_cons_of_mem _ hb)
  distinct := (List.nodup_cons.1 h.distinct).2

def endingOf (isSingle : Bool) : Ending := if isSingle then .single else .opened

theorem tagEnd?_write (isSingle : Bool) (t : Input) :
    tagEnd? (inputOf (slash isSingle ++ ['>']) ++ t) =
      some (endingOf isSingle, t) := by
  cases isSingle <;> rfl

theorem not_isSpace_of_isNameStart {c : Char} (h : isNameStart c = true) :
    isSpace c = false ∧ c ≠ '>' ∧ c ≠ '/' ∧ c ≠ '?' ∧ c ≠ '!' := by
  have hs : isSpace c = false := by
    refine Bool.eq_false_iff.2 fun hs => ?_
    simp only [isSpace, Bool.or_eq_true, beq_iff_eq] at hs
    rcases hs with ((rfl | rfl) | rfl) | rfl <;> revert h <;> decide
  refine ⟨hs, ?_, ?_, ?_, ?_⟩ <;> (rintro rfl; revert h; decide)

theorem takeAttribute_write {name v : Text} (hn : IsPlainName name) (hv : ∀ c ∈ v, IsValueChar c)
    (t : Input) :
    takeAttribute false (inputOf name ++ (inputOf ('=' :: '\x22' :: (escape v ++ ['\x22'])) ++ t)) =
      { value := (name, some v), rest := t } := by
  have ht : inputOf ('=' :: '\x22' :: (escape v ++ ['\x22'])) ++ t =
      .char '=' :: .char '\x22' :: (inputOf (escape v) ++ .char '\x22' :: t) := by simp
  have hq : skipSpaces (.char '\x22' :: (inputOf (escape v) ++ .char '\x22' :: t)) =
      .char '\x22' :: (inputOf (escape v) ++ .char '\x22' :: t) :=
    skipSpaces_of_not_space (by decide) _
  have he : takeValue false (.char '\x22' :: (inputOf (escape v) ++ .char '\x22' :: t)) =
      { value := some v, rest := t } := by
    rw [takeValue, if_pos (by decide), valueUntil_escape hv]
  rw [ht, takeAttribute, takeName_append hn (by decide)]
  simp only [skipSpaces_of_not_space (show isSpace '=' = false by decide), hq, he]

/-- Behind an attribute there is a blank or the end of the tag. -/
theorem goesOn_write (isSingle : Bool) (attributes : Written) (t : Input) :
    (startsWithSpace (inputOf (writeAttributes attributes ++
        (slash isSingle ++ ['>'])) ++ t) ||
      (tagEnd? (inputOf (writeAttributes attributes ++
        (slash isSingle ++ ['>'])) ++ t)).isSome) = true := by
  cases attributes with
  | nil => cases isSingle <;> rfl
  | cons a attributes => rfl

theorem takeAttributes_write {isWords : Text → Bool} (hw : ∀ name, isWords name = false)
    {attributes : Written} (h : AreWritable attributes) (isSingle : Bool) (t : Input) :
    takeAttributes false isWords (skipSpaces (inputOf (writeAttributes attributes ++
        (slash isSingle ++ ['>'])) ++ t)) =
      { value := (attributes, endingOf isSingle), rest := t } := by
  induction attributes with
  | nil =>
    have hs : skipSpaces (inputOf (slash isSingle ++ ['>']) ++ t) =
        inputOf (slash isSingle ++ ['>']) ++ t := by
      cases isSingle <;> rfl
    show takeAttributes false isWords (skipSpaces (inputOf (slash isSingle ++ ['>']) ++ t)) = _
    rw [hs, takeAttributes, tagEnd?_write]
  | cons a attributes ih =>
    obtain ⟨name, v⟩ := a
    obtain ⟨hn, -⟩ := h.names _ (List.mem_cons_self ..)
    have hv := h.values _ (List.mem_cons_self ..)
    obtain ⟨c, more, rfl, hc⟩ := hn.head
    obtain ⟨hsp, hgt, hsl, -⟩ := not_isSpace_of_isNameStart hc
    generalize he : writeAttributes attributes ++ (slash isSingle ++ ['>']) = u
      at ih
    have ha : inputOf (writeAttributes ((c :: more, v) :: attributes) ++
        (slash isSingle ++ ['>'])) ++ t =
        .char ' ' :: (inputOf (c :: more) ++
          (inputOf ('=' :: '\x22' :: (escape v ++ ['\x22'])) ++ (inputOf u ++ t))) := by
      rw [← he]
      simp [writeAttributes]
    have hs : skipSpaces (inputOf (c :: more) ++
        (inputOf ('=' :: '\x22' :: (escape v ++ ['\x22'])) ++ (inputOf u ++ t))) =
        inputOf (c :: more) ++
          (inputOf ('=' :: '\x22' :: (escape v ++ ['\x22'])) ++ (inputOf u ++ t)) :=
      skipSpaces_of_not_space hsp _
    have hend : tagEnd? (inputOf (c :: more) ++
        (inputOf ('=' :: '\x22' :: (escape v ++ ['\x22'])) ++ (inputOf u ++ t))) = none := by
      rw [inputOf_cons, List.cons_append]
      unfold tagEnd?
      split
      · rename_i hx
        exact absurd (Symbol.char.inj (List.cons.inj hx).1) hgt
      · rename_i hx
        exact absurd (Symbol.char.inj (List.cons.inj hx).1) hsl
      · rfl
    have hg := goesOn_write isSingle attributes t
    rw [he] at hg
    rw [ha, skipSpaces_space, hs, takeAttributes, hend]
    simp only [takeAttribute_write hn hv, reduceCtorEq, dite_false, hg, if_true,
      ih h.tail]
    simp [foundAttribute, hw]

theorem hasRepeat_eq_false {attributes : Written} (h : (attributes.map Prod.fst).Nodup) :
    hasRepeat attributes = false := by
  induction attributes with
  | nil => rfl
  | cons a attributes ih =>
    obtain ⟨hm, hd⟩ := List.nodup_cons.1 h
    have ha : attributes.any (·.1 == a.1) = false := by
      rw [List.any_eq_false]
      intro b hb he
      exact hm (eq_of_beq he ▸ List.mem_map_of_mem hb)
    rw [hasRepeat, ha, ih hd]
    rfl

theorem startTag?_write {isWords : Text → Text → Bool} (hw : ∀ name, isWords name = fun _ => false)
    {name : Text} (hn : IsPlainName name) {attributes : Written} (h : AreWritable attributes)
    (isSingle : Bool) (t : Input) :
    startTag? false isWords (inputOf (startText isSingle name attributes) ++ t) =
      some { value := { name, attributes, ending := endingOf isSingle }, rest := t } := by
  have he : takeName (inputOf (startText isSingle name attributes) ++ t) =
      (name, inputOf (writeAttributes attributes ++ (slash isSingle ++ ['>'])) ++ t) := by
    rw [startText, inputOf_append, List.append_assoc]
    cases attributes with
    | nil =>
      cases isSingle with
      | true => exact takeName_append hn (by decide) _
      | false => exact takeName_append hn (by decide) _
    | cons a attributes => exact takeName_append hn (by decide) _
  have ha := takeAttributes_write (fun m => congrFun (hw name) m) h isSingle t
  obtain ⟨c, more, rfl, -⟩ := hn.head
  simp only [startTag?, he, ha, hasRepeat_eq_false h.distinct]
  cases isSingle <;> rfl

/-! A tag ends with its last character and not before. -/

theorem not_mark_of_isNameChar {c : Char} (h : isNameChar c = true) :
    c ≠ '>' ∧ c ≠ '\x22' ∧ c ≠ '\x27' := by
  refine ⟨?_, ?_, ?_⟩ <;> (rintro rfl; revert h; decide)

theorem hasTagEnd_writeAttributes {attributes : Written}
    (h : ∀ a ∈ attributes, IsPlainName a.1) (t : Input) :
    hasTagEnd none (inputOf (writeAttributes attributes) ++ t) = hasTagEnd none t := by
  induction attributes with
  | nil => rfl
  | cons a attributes ih =>
    obtain ⟨name, v⟩ := a
    have hn := h _ (List.mem_cons_self ..)
    have hp : ∀ c ∈ ' ' :: (name ++ ['=']), c ≠ '>' ∧ c ≠ '\x22' ∧ c ≠ '\x27' := by
      intro c hc
      rw [List.mem_cons, List.mem_append, List.mem_singleton] at hc
      rcases hc with rfl | hc | rfl
      · decide
      · exact not_mark_of_isNameChar (hn.all c hc).1
      · decide
    have ha : inputOf (writeAttributes ((name, v) :: attributes)) ++ t =
        inputOf (' ' :: (name ++ ['='])) ++ (.char '\x22' :: (inputOf (escape v) ++
          .char '\x22' :: (inputOf (writeAttributes attributes) ++ t))) := by
      simp [writeAttributes]
    have hq : ∀ u, hasTagEnd none (.char '\x22' :: u) = hasTagEnd (some '\x22') u := fun _ => rfl
    rw [ha, hasTagEnd_plain hp, hq, hasTagEnd_quoted (quote_notMem_escape v)]
    exact ih fun b hb => h b (List.mem_cons_of_mem _ hb)

theorem hasTagEnd_of_prefix {isSingle : Bool} {name : Text} (hn : IsPlainName name)
    {attributes : Written} (ha : ∀ a ∈ attributes, IsPlainName a.1) {v u : Text} (hu : u ≠ [])
    (h : startText isSingle name attributes = v ++ u) : hasTagEnd none (inputOf v) = false := by
  have hs : startText isSingle name attributes =
      name ++ (writeAttributes attributes ++ slash isSingle) ++ ['>'] := by
    simp [startText]
  obtain ⟨x, hx⟩ := prefix_of_append_singleton (hs ▸ h) hu
  have hb : hasTagEnd none (inputOf (name ++ (writeAttributes attributes ++ slash isSingle))) =
      false := by
    rw [inputOf_append, inputOf_append,
      hasTagEnd_plain fun c hc => not_mark_of_isNameChar (hn.all c hc).1,
      hasTagEnd_writeAttributes ha]
    cases isSingle <;> rfl
  refine Bool.eq_false_iff.2 fun ht => ?_
  rw [← hx, inputOf_append, hasTagEnd_append ht] at hb
  cases hb

/-! ## Marks -/

/-- A part of written markup. -/
inductive Mark where
  | start (isSingle : Bool) (name : Text) (attributes : Written)
  | closing (name : Text)
  | character (c : Char)

namespace Mark

def write : Mark → Text
  | start isSingle name attributes => '<' :: startText isSingle name attributes
  | closing name => '<' :: '/' :: (name ++ ['>'])
  | character c => escapeChar c

/-- Whether a mark is read as what it is; a carriage return would be read as a line end. -/
def IsWritable : Mark → Prop
  | start _ name attributes => IsPlainName name ∧ AreWritable attributes
  | closing name => IsPlainName name
  | character c => isChar c = true ∧ c ≠ '\r'

/-- A mark begins with one of two characters, or is a character that is written as itself. -/
theorem write_cases (m : Mark) :
    (∃ c w, m.write = c :: w ∧ (c = '<' ∨ c = '&')) ∨
      ∃ c, m = character c ∧ m.write = [c] ∧ entityName? c = none := by
  cases m with
  | start isSingle name attributes => exact .inl ⟨_, _, rfl, .inl rfl⟩
  | closing name => exact .inl ⟨_, _, rfl, .inl rfl⟩
  | character c =>
    cases hn : entityName? c with
    | some name => exact .inl ⟨'&', name ++ [';'], escapeChar_of_some hn, .inr rfl⟩
    | none => exact .inr ⟨c, rfl, escapeChar_of_none hn, hn⟩

end Mark

def writeAll (marks : List Mark) : Text := marks.flatMap Mark.write

@[simp] theorem writeAll_nil : writeAll [] = [] := rfl

@[simp] theorem writeAll_cons (m : Mark) (marks : List Mark) :
    writeAll (m :: marks) = m.write ++ writeAll marks := rfl

theorem writeAll_append (marks marks' : List Mark) :
    writeAll (marks ++ marks') = writeAll marks ++ writeAll marks' := List.flatMap_append

theorem writeAll_characters (v : Text) (left : List Mark) :
    writeAll (v.map .character ++ left) = escape v ++ writeAll left := by
  induction v with
  | nil => rfl
  | cons c v ih =>
    rw [List.map_cons, List.cons_append, writeAll_cons, ih, ← List.append_assoc]
    rfl

theorem escape_ne_nil {v : Text} (h : v ≠ []) : escape v ≠ [] := by
  cases v with
  | nil => exact absurd rfl h
  | cons c v =>
    have hc : escapeChar c ≠ [] := by
      cases hn : entityName? c with
      | some name => simp [escapeChar_of_some hn]
      | none => simp [escapeChar_of_none hn]
    intro he
    exact hc (List.append_eq_nil_iff.1 he).1

/-! ## Text -/

theorem head?_writeAll_ne (marks : List Mark) : (writeAll marks).head? ≠ some '>' := by
  cases marks with
  | nil => simp [writeAll]
  | cons m marks =>
    rcases m.write_cases with ⟨c, w, hw, rfl | rfl⟩ | ⟨c, -, hw, he⟩
    · simp [hw]
    · simp [hw]
    · simpa [hw] using (entityName?_eq_none he).2.2.1

/-- No bracket is followed by the end of a tag. -/
theorem not_bracket_end {marks : List Mark} {t more : Input}
    (h : t ++ more = inputOf (writeAll marks)) (u : Input) :
    t ≠ .char ']' :: .char '>' :: u := by
  rintro rfl
  cases marks with
  | nil => cases h
  | cons m marks =>
    rw [writeAll_cons] at h
    rcases m.write_cases with ⟨c, w, hw, rfl | rfl⟩ | ⟨c, -, hw, -⟩
    · rw [hw] at h
      cases h
    · rw [hw] at h
      cases h
    · rw [hw, List.singleton_append, inputOf_cons] at h
      have ht := (List.cons.inj h).2
      have hh := head?_writeAll_ne marks
      cases hm : writeAll marks with
      | nil => rw [hm] at ht; cases ht
      | cons d w =>
        rw [hm, inputOf_cons] at ht
        rw [hm] at hh
        exact hh (congrArg some (Symbol.char.inj (List.cons.inj ht).1).symm)

/-- What was read of marks as text: their first characters. Where nothing waits, text is read up to
the next tag or reference. -/
structure TakesText (isPartial : Bool) (marks : List Mark) (more : Input) (r : Reading Text) :
    Prop where
  left : ∃ left, marks = r.value.map .character ++ left ∧ r.rest ++ more = inputOf (writeAll left)
  isSound : r.isSound = true
  ends : isPartial = false → ∀ s ∈ r.rest.head?, s = .char '<' ∨ s = .char '&'

theorem TakesText.nothing {isPartial : Bool} {marks : List Mark} {t more : Input}
    (h : t ++ more = inputOf (writeAll marks))
    (he : isPartial = false → ∀ s ∈ t.head?, s = .char '<' ∨ s = .char '&') :
    TakesText isPartial marks more { value := [], rest := t } where
  left := ⟨marks, rfl, h⟩
  isSound := rfl
  ends := he

/-- At a tag or a reference no text is read. -/
theorem TakesText.tag {isPartial : Bool} {marks : List Mark} {c : Char} {t more : Input}
    (hc : c = '<' ∨ c = '&') (h : .char c :: t ++ more = inputOf (writeAll marks)) :
    TakesText isPartial marks more { value := [], rest := .char c :: t } := by
  refine .nothing h fun _ s hs => ?_
  cases hs
  exact hc.imp (congrArg _) (congrArg _)

theorem TakesText.cons {isPartial : Bool} {marks : List Mark} {more : Input} {r : Reading Text}
    (h : TakesText isPartial marks more r) (c : Char) :
    TakesText isPartial (.character c :: marks) more (r.cons c true) where
  left := by
    obtain ⟨left, hm, hr⟩ := h.left
    exact ⟨left, by rw [hm]; rfl, hr⟩
  isSound := h.isSound
  ends := h.ends

section
variable {isPartial : Bool} {marks : List Mark} {t more : Input}

theorem mixedData_tag (c : Char) (hc : c = '<' ∨ c = '&') (t : Input) :
    mixedData isPartial (.char c :: t) = { value := [], rest := .char c :: t } := by
  rcases hc with rfl | rfl
  · rw [mixedData]
    · rfl
    · simp
  · rw [mixedData]
    · rfl
    · simp

theorem mixedData_written (hm : ∀ m ∈ marks, m.IsWritable)
    (h : t ++ more = inputOf (writeAll marks)) :
    TakesText isPartial marks more (mixedData isPartial t) := by
  induction marks generalizing t with
  | nil =>
    obtain rfl : t = [] := (List.append_eq_nil_iff.1 h).1
    exact .nothing h (by simp)
  | cons m marks ih =>
    cases t with
    | nil => exact .nothing h (by simp)
    | cons s t =>
      have hs := h
      rw [writeAll_cons] at hs
      rcases m.write_cases with ⟨c, w, hw, hc⟩ | ⟨c, rfl, hw, he⟩
      · rw [hw] at hs
        obtain rfl : s = .char c := (List.cons.inj hs).1
        rw [mixedData_tag c hc]
        exact .tag hc h
      · rw [hw, List.singleton_append, inputOf_cons] at hs
        obtain ⟨rfl, ht⟩ := List.cons.inj hs
        obtain ⟨hc, hr⟩ := hm _ (List.mem_cons_self ..)
        obtain ⟨h1, h2, -, -⟩ := entityName?_eq_none he
        have hmore := ih (fun m h => hm m (List.mem_cons_of_mem _ h)) ht
        -- Only `]]>` could end the text here, and `>` is never written as itself.
        have hb : startsWith "]>" t = false := by
          rw [startsWith]
          cases ha : after? "]>".toList t with
          | none => rfl
          | some u => exact absurd (after?_eq_some_iff.1 ha) (not_bracket_end ht u)
        rw [mixedData]
        · simp only [h1, h2, hc, hr, hb, decide_false, Bool.or_self, Bool.false_eq_true, if_false,
            Bool.not_true, Bool.and_false, Bool.not_false]
          split
          · rename_i hp
            refine .nothing h fun hf => ?_
            rw [hf] at hp
            simp at hp
          · exact hmore.cons c
        · exact fun _ _ hcr => hr hcr

theorem plainData_tag (run : Text) (c : Char) (hc : c = '<' ∨ c = '&') (t : Input) :
    plainData isPartial run (.char c :: t) = { value := run.reverse, rest := .char c :: t } := by
  rcases hc with rfl | rfl
  · rw [plainData]
    · rfl
    · simp
    · simp
  · rw [plainData]
    · rfl
    · simp
    · simp

/-- `run` was read before. -/
theorem plainData_written (run : Text) (hm : ∀ m ∈ marks, m.IsWritable)
    (h : t ++ more = inputOf (writeAll marks)) :
    ∃ r, TakesText isPartial marks more r ∧
      plainData isPartial run t = { r with value := run.reverse ++ r.value } := by
  induction marks generalizing t run with
  | nil =>
    obtain rfl : t = [] := (List.append_eq_nil_iff.1 h).1
    exact ⟨{ value := [], rest := [] }, .nothing h (by simp), rfl⟩
  | cons m marks ih =>
    cases t with
    | nil => exact ⟨{ value := [], rest := [] }, .nothing h (by simp), rfl⟩
    | cons s t =>
      have hs := h
      rw [writeAll_cons] at hs
      rcases m.write_cases with ⟨c, w, hw, hc⟩ | ⟨c, rfl, hw, he⟩
      · rw [hw] at hs
        obtain rfl : s = .char c := (List.cons.inj hs).1
        refine ⟨{ value := [], rest := .char c :: t }, .tag hc h, ?_⟩
        rw [plainData_tag run c hc, List.append_nil]
      · rw [hw, List.singleton_append, inputOf_cons] at hs
        obtain ⟨rfl, ht⟩ := List.cons.inj hs
        obtain ⟨-, hr⟩ := hm _ (List.mem_cons_self ..)
        obtain ⟨h1, h2, -, -⟩ := entityName?_eq_none he
        obtain ⟨r, htext, hplain⟩ := ih (c :: run) (fun m h => hm m (List.mem_cons_of_mem _ h)) ht
        rw [plainData]
        · simp only [h1, h2, decide_false, Bool.or_self, Bool.false_eq_true, if_false]
          split
          · rename_i hp
            refine ⟨{ value := [], rest := .char c :: t }, .nothing h fun hf => ?_, ?_⟩
            · rw [hf] at hp
              simp at hp
            · rw [List.append_nil]
          · split
            · exact ⟨_, htext.cons c, by rw [hplain]; simp [Reading.cons]⟩
            · exact ⟨_, mixedData_written hm h, rfl⟩
        · exact fun u hu _ => not_bracket_end ht u hu
        · exact fun _ _ hcr => hr hcr

theorem characterData_written (hm : ∀ m ∈ marks, m.IsWritable)
    (h : t ++ more = inputOf (writeAll marks)) :
    TakesText isPartial marks more (characterData isPartial t) := by
  obtain ⟨r, hr, hp⟩ := plainData_written [] hm h
  rw [characterData, hp]
  exact hr

/-- Without anything to wait for, text that begins with a plain character is read on. -/
theorem TakesText.length_lt {r : Reading Text} {c : Char} (hr : TakesText false marks more r)
    (hc : c ≠ '<' ∧ c ≠ '&') (h : .char c :: t ++ more = inputOf (writeAll marks)) :
    r.rest.length < (.char c :: t).length := by
  obtain ⟨left, hm, hl⟩ := hr.left
  rw [hm, writeAll_characters, inputOf_append, ← hl, ← List.append_assoc] at h
  have ht := List.append_cancel_right h
  cases hv : r.value with
  | nil =>
    rw [hv] at ht
    have he := hr.ends rfl (.char c) (by rw [← show .char c :: t = r.rest from ht]; rfl)
    rcases he with he | he
    · exact absurd (Symbol.char.inj he) hc.1
    · exact absurd (Symbol.char.inj he) hc.2
  | cons d v =>
    have hne : escape r.value ≠ [] := escape_ne_nil (by rw [hv]; simp)
    have hlen := congrArg List.length ht
    have hpos := List.length_pos_iff.2 hne
    rw [List.length_append, inputOf, List.length_map] at hlen
    omega

end

end Markup
end DfaTable
