import DfaTable.Markup.Extent
import DfaTable.Proofs.Files.Reading
import DfaTable.Proofs.Markup.Ending
import DfaTable.Proofs.Markup.Writing

/-!
# DfaTable.Proofs.Markup.Passage

The text between tags. It is read in one piece if its end has come in, and else in parts, which are
the same text one behind the other unless it holds `]]>`.

* `characterData_append`: text whose end has come in.
* `characterData_of_isPassage`: text as a whole, with its line ends unified.
* `exists_characterData_true`: as much of it as is read when its end has not come in.
-/

namespace DfaTable
namespace Markup

open Text

/-- Whether a symbol ends text: markup or a reference begins with it. -/
def endsText (s : Symbol) : Bool := s.holds fun c => c == '<' || c == '&'

theorem ne_of_not_endsText {s : Symbol} (h : ¬endsText s = true) :
    s ≠ .char '<' ∧ s ≠ .char '&' :=
  ⟨fun hs => h (by rw [hs]; rfl), fun hs => h (by rw [hs]; rfl)⟩

theorem endsText_char (c : Char) : endsText (.char c) = true ↔ c = '<' ∨ c = '&' := by
  simp [endsText, Symbol.holds]

/-! ## What is left -/

/-- What is read behind a line end of two characters. -/
def behindLineEnd (isPartial : Bool) (t : Input) : Reading Text :=
  if t.head?.any (·.holds fun c => isPlain c || c == '<' || c == '&' || c == ']') then
    plainData isPartial ['\n'] t
  else (mixedData isPartial t).cons '\n' true

/-- A reading with the plain text before it. -/
def behindRun (run : Text) (r : Reading Text) : Reading Text :=
  { r with value := run.reverse ++ r.value }

theorem plainData_lineEnd (isPartial : Bool) (run : Text) (t : Input) :
    plainData isPartial run (.char '\r' :: .char '\n' :: t) =
      behindRun run (behindLineEnd isPartial t) := rfl

theorem mixedData_suffix (isPartial : Bool) (t : Input) :
    (mixedData isPartial t).rest <:+ t := by
  fun_induction mixedData isPartial t with
  | case1 => exact List.suffix_rfl
  | case2 t ih => exact ih.trans (List.suffix_cons ..)
  | case3 t ih => exact ih.trans ⟨[_, _], rfl⟩
  | case4 => exact List.suffix_rfl
  | case5 => exact List.suffix_cons ..
  | case6 => exact List.suffix_rfl
  | case7 _ _ _ _ _ _ _ ih => exact ih.trans (List.suffix_cons ..)

theorem plainData_suffix (isPartial : Bool) (run : Text) (t : Input) :
    (plainData isPartial run t).rest <:+ t := by
  fun_induction plainData isPartial run t with
  | case1 => exact List.suffix_cons ..
  | case2 run t more ih =>
    have h : more.rest <:+ t := by
      unfold more
      split
      · exact ih
      · exact mixedData_suffix ..
    exact h.trans ⟨[_, _], rfl⟩
  | case3 => exact List.suffix_rfl
  | case4 => exact List.suffix_rfl
  | case5 _ _ _ _ _ _ _ _ ih => exact ih.trans (List.suffix_cons ..)
  | case6 => exact mixedData_suffix ..
  | case7 => exact mixedData_suffix ..

theorem length_mixedData_lt {s : Symbol} {t : Input} (h : ¬endsText s = true) :
    (mixedData false (s :: t)).rest.length < (s :: t).length := by
  have hm := fun u => (mixedData_suffix false u).length_le
  generalize hu : s :: t = u
  fun_cases mixedData false u with
  | case1 => cases hu
  | case2 u => exact Nat.lt_succ_of_le (hm u)
  | case3 u => exact Nat.lt_succ_of_le (Nat.le_succ_of_le (hm u))
  | case4 c u _ hc =>
    cases hu
    exact absurd ((endsText_char c).2 (by simpa using hc)) h
  | case5 => exact Nat.lt_succ_self _
  | case6 c u _ _ _ hw => simp at hw
  | case7 c u => exact Nat.lt_succ_of_le (hm u)

theorem length_characterData_lt {s : Symbol} {t : Input} (h : ¬endsText s = true) :
    (characterData false (s :: t)).rest.length < (s :: t).length := by
  have hp := fun run u => (plainData_suffix false run u).length_le
  have hlt := length_mixedData_lt (t := t) h
  unfold characterData
  generalize hu : s :: t = u at hlt
  fun_cases plainData false [] u with
  | case1 => exact Nat.lt_succ_self _
  | case2 u =>
    have hb : (behindLineEnd false u).rest.length ≤ u.length := by
      unfold behindLineEnd
      split
      · exact hp ['\n'] u
      · exact (mixedData_suffix false u).length_le
    exact Nat.lt_succ_of_le (Nat.le_succ_of_le hb)
  | case3 c u _ _ hc =>
    cases hu
    exact absurd ((endsText_char c).2 (by simpa using hc)) h
  | case4 c u _ _ _ hw => simp at hw
  | case5 c u => exact Nat.lt_succ_of_le (hp [c] u)
  | case6 => exact hlt
  | case7 => exact hlt

/-! ## Text whose end has come in -/

theorem ne_nil_of_any {t : Input} (h : t.any endsText = true) : t ≠ [] := by
  rintro rfl
  cases h

/-- Behind a symbol that does not end text, the end has come in. -/
theorem any_of_cons {s : Symbol} {t : Input} (hs : ¬endsText s = true)
    (h : (s :: t).any endsText = true) : t.any endsText = true := by
  rw [List.any_cons, Bool.or_eq_true] at h
  exact h.resolve_left hs

theorem startsWith_append_of_any {t : Input} (h : t.any endsText = true) (b : Input) :
    startsWith "]>" (t ++ b) = startsWith "]>" t := by
  obtain ⟨s, t, rfl⟩ := List.exists_cons_of_ne_nil (ne_nil_of_any h)
  cases t with
  | cons s' t => exact startsWith_append_of_length_le (by simp) b
  | nil =>
    have hs : s ≠ .char ']' := by
      rintro rfl
      revert h
      decide
    show (after? [']', '>'] (s :: b)).isSome = (after? [']', '>'] [s]).isSome
    rw [after?, after?, if_neg hs, if_neg hs]

/-- Nothing of text waits whose end has come in. -/
theorem not_waits_of_any {t : Input} (h : t.any endsText = true) (c : Char) (isPartial : Bool) :
    (c = ']' && isPartial && (t = [] || t = [.char ']'])) = false := by
  have h₁ : t ≠ [] := ne_nil_of_any h
  have h₂ : t ≠ [.char ']'] := by
    rintro rfl
    revert h
    decide
  simp [h₁, h₂]

theorem any_append {t : Input} (h : t.any endsText = true) (b : Input) :
    (t ++ b).any endsText = true := by
  rw [List.any_append, h]
  rfl

/-- A line end of two characters is seen as soon as the second one has come in. -/
theorem not_lineEnd_append {c : Char} {t : Input} (ht : t ≠ [])
    (h : ∀ u, t = .char '\n' :: u → c = '\r' → False) (b : Input) :
    ∀ u, t ++ b = .char '\n' :: u → c = '\r' → False := by
  obtain ⟨s, t, rfl⟩ := List.exists_cons_of_ne_nil ht
  intro u hu
  cases hu
  exact h t rfl

theorem mixedData_append {t : Input} (h : t.any endsText = true) (isPartial isPartial' : Bool)
    (b : Input) : mixedData isPartial (t ++ b) = (mixedData isPartial' t).extend b := by
  fun_induction mixedData isPartial' t with
  | case1 => cases h
  | case2 t ih =>
    rw [List.cons_append, mixedData.eq_2, ih (any_of_cons (by decide) h)]
    rfl
  | case3 t ih =>
    rw [List.cons_append, List.cons_append, mixedData.eq_3,
      ih (any_of_cons (by decide) (any_of_cons (by decide) h))]
    rfl
  | case4 c t _ hc =>
    rw [List.cons_append, mixedData_tag c (by simpa using hc)]
    rfl
  | case5 c t hn hc hchar =>
    have ht := any_of_cons (by rw [endsText_char]; simpa using hc) h
    rw [List.cons_append, mixedData.eq_4 _ _ _ (not_lineEnd_append (ne_nil_of_any ht) hn b),
      if_neg hc, if_pos hchar]
    rfl
  | case6 c t hn hc _ hw =>
    have ht := any_of_cons (by rw [endsText_char]; simpa using hc) h
    rw [not_waits_of_any ht] at hw
    cases hw
  | case7 c t hn hc hchar _ isEnd ih =>
    have ht := any_of_cons (by rw [endsText_char]; simpa using hc) h
    rw [List.cons_append, mixedData.eq_4 _ _ _ (not_lineEnd_append (ne_nil_of_any ht) hn b),
      if_neg hc, if_neg hchar, not_waits_of_any (any_append ht b), if_neg Bool.false_ne_true, ih ht,
      startsWith_append_of_any ht]
    rfl

/-- Two brackets that end a section are seen as soon as text behind them has come in. -/
theorem not_sectionEnd_append {c : Char} {t : Input} (ht : t.any endsText = true)
    (h : ∀ u, t = .char ']' :: .char '>' :: u → c = ']' → False) (b : Input) :
    ∀ u, t ++ b = .char ']' :: .char '>' :: u → c = ']' → False := by
  intro u hu hc
  have hs : startsWith "]>" (t ++ b) = true := by rw [hu]; rfl
  rw [startsWith_append_of_any ht] at hs
  obtain ⟨r, hr⟩ := Option.isSome_iff_exists.1 hs
  exact h r (after?_eq_some_iff.1 hr) hc

theorem plainData_append {t : Input} (h : t.any endsText = true) (isPartial isPartial' : Bool)
    (run : Text) (b : Input) :
    plainData isPartial run (t ++ b) = (plainData isPartial' run t).extend b := by
  fun_induction plainData isPartial' run t with
  | case1 run t => rfl
  | case2 run t more ih =>
    have ht := any_of_cons (by decide) (any_of_cons (by decide) h)
    have hhead : (t ++ b).head? = t.head? := by
      obtain ⟨s, t, rfl⟩ := List.exists_cons_of_ne_nil (ne_nil_of_any ht)
      rfl
    rw [List.cons_append, List.cons_append, plainData_lineEnd, behindLineEnd, hhead, ih ht,
      mixedData_append ht isPartial isPartial']
    unfold more
    split <;> rfl
  | case3 run c t h₁ h₂ hc =>
    rw [List.cons_append, plainData_tag run c (by simpa using hc)]
    rfl
  | case4 run c t h₁ h₂ hc hw =>
    have ht := any_of_cons (by rw [endsText_char]; simpa using hc) h
    rw [not_waits_of_any ht] at hw
    cases hw
  | case5 run c t h₁ h₂ hc hw hp ih =>
    have ht := any_of_cons (by rw [endsText_char]; simpa using hc) h
    rw [List.cons_append, plainData.eq_3 _ _ _ _ (not_sectionEnd_append ht h₁ b)
      (not_lineEnd_append (ne_nil_of_any ht) h₂ b), if_neg hc,
      not_waits_of_any (any_append ht b), if_neg Bool.false_ne_true, if_pos hp, ih ht]
  | case6 run c t h₁ h₂ hc hw hp more =>
    have ht := any_of_cons (by rw [endsText_char]; simpa using hc) h
    have he := mixedData_append h isPartial isPartial' b
    rw [List.cons_append] at he ⊢
    rw [plainData.eq_3 _ _ _ _ (not_sectionEnd_append ht h₁ b)
      (not_lineEnd_append (ne_nil_of_any ht) h₂ b), if_neg hc,
      not_waits_of_any (any_append ht b), if_neg Bool.false_ne_true, if_neg hp, he]
    rfl
  | case7 run t h₁ h₂ h₃ more =>
    have he := mixedData_append h isPartial isPartial' b
    obtain ⟨s, t, rfl⟩ := List.exists_cons_of_ne_nil (ne_nil_of_any h)
    cases s with
    | char c => exact absurd rfl (h₃ c t)
    | stray =>
      rw [List.cons_append] at he ⊢
      rw [plainData.eq_4 _ _ (.stray :: (t ++ b)) (fun _ h => by cases h) (fun _ h => by cases h)
        (fun _ _ h => by cases h), he]
      rfl

/-- Text whose end has come in is read as it is, whatever is behind it. -/
theorem characterData_append {t : Input} (h : t.any endsText = true) (isPartial isPartial' : Bool)
    (b : Input) : characterData isPartial (t ++ b) = (characterData isPartial' t).extend b :=
  plainData_append h isPartial isPartial' [] b

/-! ## Text without the end of a section -/

/-- Text between tags in which nothing is wrong. -/
structure IsPassage (u : Text) : Prop where
  chars : ∀ c ∈ u, isChar c = true ∧ c ≠ '<' ∧ c ≠ '&'
  holdsNoEnd : ¬"]]>".toList <:+: u

theorem IsPassage.of_isInfix {u v : Text} (h : IsPassage v) (hi : u <:+: v) : IsPassage u :=
  ⟨fun c hc => h.chars c (hi.subset hc), fun he => h.holdsNoEnd (he.trans hi)⟩

theorem IsPassage.tail {c : Char} {u : Text} (h : IsPassage (c :: u)) : IsPassage u :=
  h.of_isInfix (List.suffix_cons c u).isInfix

theorem infix_of_hasMark {mark : String} {u : Text} (h : hasMark mark (inputOf u) = true) :
    mark.toList <:+: u := by
  obtain ⟨a, b, he⟩ := hasMark_iff.1 h
  obtain ⟨v, w, rfl, -, hw⟩ := List.map_eq_append_iff.1 he
  obtain ⟨x, y, rfl, hx, -⟩ := List.map_eq_append_iff.1 hw
  obtain rfl : x = mark.toList := (List.map_inj_right fun _ _ => Symbol.char.inj).1 hx
  exact ⟨v, y, by rw [List.append_assoc]⟩

theorem IsPassage.hasMark_eq_false {u : Text} (h : IsPassage u) :
    hasMark "]]>" (inputOf u) = false :=
  Bool.eq_false_iff.2 fun hm => h.holdsNoEnd (infix_of_hasMark hm)

theorem isPassage_of_hasMark {u : Text} (hc : ∀ c ∈ u, isChar c = true)
    (hs : ∀ s ∈ inputOf u, ¬endsText s = true) (hm : hasMark "]]>" (inputOf u) = false) :
    IsPassage u where
  chars c hmem := by
    have h := hs (.char c) (char_mem_inputOf.2 hmem)
    rw [endsText_char, not_or] at h
    exact ⟨hc c hmem, h⟩
  holdsNoEnd := by
    rintro ⟨a, b, rfl⟩
    refine Bool.eq_false_iff.1 hm (hasMark_iff.2 ⟨inputOf a, inputOf b, ?_⟩)
    rw [inputOf_append, inputOf_append, List.append_assoc]

theorem IsPassage.not_endsText {u : Text} (h : IsPassage u) :
    ∀ s ∈ inputOf u, ¬endsText s = true := by
  intro s hs
  obtain ⟨c, hc, rfl⟩ := List.mem_map.1 hs
  rw [endsText_char, not_or]
  exact (h.chars c hc).2

/-- Text is what stands before the first symbol that ends it. -/
theorem takeWhile_text {t more : Input} (h : ∀ s ∈ t, ¬endsText s = true)
    (hm : ∀ s ∈ more.head?, endsText s = true) : (t ++ more).takeWhile (!endsText ·) = t := by
  have ht : ∀ s ∈ t, (!endsText s) = true := fun s hs => by simpa using h s hs
  rw [List.takeWhile_append_of_pos ht]
  cases more with
  | nil => simp
  | cons s more =>
    rw [List.takeWhile_cons_of_neg (by rw [hm s rfl]; decide), List.append_nil]

theorem byteCount_append (t u : Input) : byteCount (t ++ u) = byteCount t + byteCount u := by
  simp only [byteCount, ← List.sum_eq_foldl, List.map_append, List.sum_append]

/-- Text is read up to here: markup or the end follows, or, where more may come in, brackets that
have to wait. -/
structure Stops (isPartial : Bool) (u : Text) (rest : Input) : Prop where
  behind : (∀ s ∈ rest.head?, endsText s = true) ∨
    (isPartial = true ∧ (rest = inputOf [']'] ∨ rest = inputOf [']', ']']))
  held : isPartial = true → ∀ a b, u = a ++ ']' :: b → inputOf b ++ rest ≠ [] ∧
    inputOf b ++ rest ≠ [.char ']']

section Stops

variable {isPartial : Bool} {c : Char} {u : Text} {rest : Input}

theorem Stops.tail (h : Stops isPartial (c :: u) rest) : Stops isPartial u rest :=
  ⟨h.behind, fun hp a b hu => h.held hp (c :: a) b (by rw [hu]; rfl)⟩

/-- A passage with what follows it begins with a symbol only if the passage does. -/
theorem Stops.head (h : Stops isPartial u rest) {d : Char} {t : Input} (hd : d ≠ ']')
    (he : ¬endsText (.char d) = true) (ht : inputOf u ++ rest = .char d :: t) :
    ∃ v, u = d :: v ∧ t = inputOf v ++ rest := by
  cases u with
  | cons c u =>
    cases ht
    exact ⟨u, rfl, rfl⟩
  | nil =>
    obtain rfl : rest = .char d :: t := ht
    rcases h.behind with hs | ⟨-, hs | hs⟩
    · exact absurd (hs _ rfl) he
    · cases hs
      exact absurd rfl hd
    · cases hs
      exact absurd rfl hd

theorem Stops.mixedData_eq (h : Stops isPartial [] rest) :
    mixedData isPartial rest = { value := [], rest } := by
  rcases h.behind with hs | ⟨rfl, rfl | rfl⟩
  · rcases rest with _ | ⟨c | _, t⟩
    · rfl
    · exact mixedData_tag c ((endsText_char c).1 (hs _ rfl)) t
    · exact absurd (hs _ rfl) (by decide)
  · rfl
  · rfl

theorem Stops.plainData_eq (h : Stops isPartial [] rest) (run : Text) :
    plainData isPartial run rest = { value := run.reverse, rest } := by
  rcases h.behind with hs | ⟨rfl, rfl | rfl⟩
  · rcases rest with _ | ⟨c | _, t⟩
    · rw [plainData.eq_4 _ _ [] (fun _ h => by cases h) (fun _ h => by cases h)
        (fun _ _ h => by cases h)]
      simp [mixedData]
    · exact plainData_tag run c ((endsText_char c).1 (hs _ rfl)) t
    · exact absurd (hs _ rfl) (by decide)
  · rfl
  · rfl

/-- Nothing of a passage waits but what stands at its end. -/
theorem Stops.not_waits (h : Stops isPartial (c :: u) rest) :
    (c = ']' && isPartial && (inputOf u ++ rest = [] || inputOf u ++ rest = [.char ']'])) =
      false := by
  refine Bool.eq_false_iff.2 fun hw => ?_
  simp only [Bool.and_eq_true, Bool.or_eq_true, decide_eq_true_eq] at hw
  obtain ⟨⟨rfl, hp⟩, hr⟩ := hw
  obtain ⟨h₁, h₂⟩ := h.held hp [] u rfl
  exact hr.elim h₁ h₂

theorem Stops.not_lineEnd (h : Stops isPartial u rest)
    (hn : ∀ v, u = '\n' :: v → c = '\r' → False) :
    ∀ t, inputOf u ++ rest = .char '\n' :: t → c = '\r' → False := by
  intro t ht hc
  obtain ⟨v, hv, -⟩ := h.head (by decide) (by decide) ht
  exact hn v hv hc

theorem Stops.not_sectionEnd (h : Stops isPartial u rest) (hp : IsPassage (c :: u)) :
    ∀ t, inputOf u ++ rest = .char ']' :: .char '>' :: t → c = ']' → False := by
  rintro t ht rfl
  match u with
  | d :: e :: u =>
    cases ht
    exact hp.holdsNoEnd (List.prefix_append _ u).isInfix
  | [d] =>
    obtain ⟨-, rfl⟩ : d = ']' ∧ rest = .char '>' :: t := by
      cases ht
      exact ⟨rfl, rfl⟩
    rcases h.behind with hs | ⟨-, hs | hs⟩
    · exact absurd (hs _ rfl) (by decide)
    · cases hs
    · cases hs
  | [] =>
    obtain rfl : rest = .char ']' :: .char '>' :: t := ht
    rcases h.behind with hs | ⟨-, hs | hs⟩
    · exact absurd (hs _ rfl) (by decide)
    · cases hs
    · cases hs

theorem mixedData_cons (h : Stops isPartial (c :: u) rest) (hp : IsPassage (c :: u))
    (hn : ∀ v, u = '\n' :: v → c = '\r' → False) :
    mixedData isPartial (.char c :: (inputOf u ++ rest)) =
      (mixedData isPartial (inputOf u ++ rest)).cons (if c = '\r' then '\n' else c) true := by
  obtain ⟨hchar, hlt, hand⟩ := hp.chars c (List.mem_cons_self ..)
  rw [mixedData.eq_4 _ _ _ (h.tail.not_lineEnd hn), if_neg (by simp [hlt, hand]),
    if_neg (by simp [hchar]), h.not_waits, if_neg Bool.false_ne_true]
  have hend : (c = ']' && startsWith "]>" (inputOf u ++ rest)) = false := by
    refine Bool.eq_false_iff.2 fun he => ?_
    simp only [Bool.and_eq_true, decide_eq_true_eq] at he
    obtain ⟨r, hr⟩ := Option.isSome_iff_exists.1 he.2
    exact h.tail.not_sectionEnd hp r (after?_eq_some_iff.1 hr) he.1
  rw [hend]
  rfl

theorem mixedData_of_isPassage (h : Stops isPartial u rest) (hp : IsPassage u) :
    mixedData isPartial (inputOf u ++ rest) = { value := u.unifyLineEnds, rest } := by
  fun_induction Text.unifyLineEnds u with
  | case1 => exact h.mixedData_eq
  | case2 u ih =>
    rw [inputOf_cons, inputOf_cons, List.cons_append, List.cons_append, mixedData.eq_3,
      ih h.tail.tail hp.tail.tail]
    rfl
  | case3 u hn ih =>
    rw [inputOf_cons, List.cons_append, mixedData_cons h hp fun v hv _ => hn v hv,
      ih h.tail hp.tail]
    rfl
  | case4 c u h₁ h₂ ih =>
    rw [inputOf_cons, List.cons_append, mixedData_cons h hp fun _ _ hc => h₂ hc,
      ih h.tail hp.tail, if_neg h₂]
    rfl

theorem plainData_of_isPassage (h : Stops isPartial u rest) (hp : IsPassage u) (run : Text) :
    plainData isPartial run (inputOf u ++ rest) =
      { value := run.reverse ++ u.unifyLineEnds, rest } := by
  fun_induction Text.unifyLineEnds u generalizing run with
  | case1 => simpa using h.plainData_eq run
  | case2 u ih =>
    rw [inputOf_cons, inputOf_cons, List.cons_append, List.cons_append, plainData_lineEnd,
      behindLineEnd, ih h.tail.tail hp.tail.tail, mixedData_of_isPassage h.tail.tail hp.tail.tail]
    split <;> rfl
  | case3 u hn ih =>
    have hm := mixedData_of_isPassage h hp
    rw [Text.unifyLineEnds.eq_3 _ hn] at hm
    rw [inputOf_cons, List.cons_append] at hm ⊢
    rw [plainData.eq_3 _ _ _ _ (fun _ _ hc => absurd hc (by decide))
      (h.tail.not_lineEnd fun v hv _ => hn v hv), if_neg (by decide), h.not_waits,
      if_neg Bool.false_ne_true, if_neg (by decide), hm]
  | case4 c u h₁ h₂ ih =>
    have hm := mixedData_of_isPassage h hp
    rw [Text.unifyLineEnds.eq_4 _ _ (fun _ hc _ => h₂ hc) h₂] at hm
    obtain ⟨-, hlt, hand⟩ := hp.chars c (List.mem_cons_self ..)
    rw [inputOf_cons, List.cons_append] at hm ⊢
    rw [plainData.eq_3 _ _ _ _ (h.tail.not_sectionEnd hp)
      (h.tail.not_lineEnd fun _ _ hc => h₂ hc), if_neg (by simp [hlt, hand]), h.not_waits,
      if_neg Bool.false_ne_true]
    split
    · rw [ih h.tail hp.tail]
      simp
    · rw [hm]

end Stops

/-- Text between tags as a whole: only its line ends are changed. -/
theorem characterData_of_isPassage {u : Text} {rest : Input} (hp : IsPassage u)
    (h : ∀ s ∈ rest.head?, endsText s = true) :
    characterData false (inputOf u ++ rest) = { value := u.unifyLineEnds, rest } :=
  have hs : Stops false u rest := ⟨.inl h, fun hf => by cases hf⟩
  plainData_of_isPassage hs hp []

theorem stops_of_getLast? {v w : Text} (hv : v.getLast? ≠ some ']') (hw : w = [] ∨ w = [']']) :
    Stops true v (inputOf w) := by
  have hb : ∀ a b, v = a ++ ']' :: b → b ≠ [] ∧ b ≠ [']'] := by
    rintro a b rfl
    constructor
    · rintro rfl
      simp at hv
    · rintro rfl
      simp at hv
  rcases hw with rfl | rfl
  · refine ⟨.inl fun s hs => by (cases hs), fun _ a b he => ?_⟩
    obtain ⟨h₁, h₂⟩ := hb a b he
    rcases b with _ | ⟨d, _ | ⟨e, b⟩⟩
    · exact absurd rfl h₁
    · exact ⟨List.cons_ne_nil _ _, by simpa [inputOf] using h₂⟩
    · exact ⟨List.cons_ne_nil _ _, by simp⟩
  · refine ⟨.inr ⟨rfl, .inl rfl⟩, fun _ a b he => ?_⟩
    obtain ⟨h₁, -⟩ := hb a b he
    rcases b with _ | ⟨d, b⟩
    · exact absurd rfl h₁
    · exact ⟨List.cons_ne_nil _ _, by simp⟩

/-- Of text that has come in without its end all is read but brackets at its end. -/
theorem exists_characterData_true {u : Text} (hp : IsPassage u) :
    ∃ v w, u = v ++ w ∧ (w = [] ∨ w = [']'] ∨ w = [']', ']']) ∧
      characterData true (inputOf u) = { value := v.unifyLineEnds, rest := inputOf w } := by
  have reads : ∀ v w, u = v ++ w → Stops true v (inputOf w) →
      characterData true (inputOf u) = { value := v.unifyLineEnds, rest := inputOf w } := by
    rintro v w rfl hs
    rw [inputOf_append]
    exact plainData_of_isPassage hs (hp.of_isInfix (List.prefix_append v w).isInfix) []
  by_cases hu : u.getLast? = some ']'
  · obtain ⟨v, rfl⟩ := List.getLast?_eq_some_iff.1 hu
    by_cases hv : v.getLast? = some ']'
    · obtain ⟨v, rfl⟩ := List.getLast?_eq_some_iff.1 hv
      refine ⟨v, [']', ']'], by simp, .inr (.inr rfl), reads _ _ (by simp) ?_⟩
      exact ⟨.inr ⟨rfl, .inr rfl⟩, fun _ a b _ => ⟨by simp, fun he => by
        have hl := congrArg List.length he
        simp at hl⟩⟩
    · exact ⟨v, [']'], rfl, .inr (.inl rfl), reads _ _ rfl (stops_of_getLast? hv (.inr rfl))⟩
  · exact ⟨u, [], by simp, .inl rfl, reads _ _ (by simp) (stops_of_getLast? hu (.inl rfl))⟩

end Markup
end DfaTable
