import DfaTable.Proofs.Markup.Steady

/-!
# DfaTable.Proofs.Markup.Plain

Documents from which reading stops in time for the way they are written: without a document type
and references by number, without the end of a section, and without a hyphen before the end of a
comment.

* `endsBy_comment`, `endsBy_startTag?`: comments and start tags end where they seem to.
* `isSteady_of_isPlain`: so reading stops in time everywhere.
-/

namespace DfaTable
namespace Markup

open Text

/-- None of the marks stands in a document behind which reading may go too far. -/
structure IsPlain (t : Input) : Prop where
  comment : hasMark "--->" t = false
  doctype : hasMark "<!DOCTYPE" t = false
  reference : hasMark "&#" t = false
  data : hasMark "]]>" t = false

theorem hasMark_of_isInfix {mark : String} {t u : Input} (hi : u <:+: t)
    (h : hasMark mark u = true) : hasMark mark t = true := by
  obtain ⟨v, w, rfl⟩ := hi
  obtain ⟨x, y, rfl⟩ := hasMark_iff.1 h
  exact hasMark_iff.2 ⟨v ++ x, y ++ w, by simp⟩

theorem not_hasMark_of_isInfix {mark : String} {t u : Input} (h : hasMark mark t = false)
    (hi : u <:+: t) : hasMark mark u = false := by
  cases hu : hasMark mark u with
  | false => rfl
  | true => rw [hasMark_of_isInfix hi hu] at h; cases h

theorem IsPlain.of_suffix {t u : Input} (h : IsPlain t) (hs : u <:+ t) : IsPlain u where
  comment := not_hasMark_of_isInfix h.comment hs.isInfix
  doctype := not_hasMark_of_isInfix h.doctype hs.isInfix
  reference := not_hasMark_of_isInfix h.reference hs.isInfix
  data := not_hasMark_of_isInfix h.data hs.isInfix

/-! ## Comments -/

section Comment

variable {mark : String} {s : Symbol} {t rest : Input}

theorem endsBy_mark (h : t = inputOf mark.toList ++ rest) : EndsBy (hasMark mark) t rest := by
  intro seen more ht hseen
  have hl := length_le_of_hasMark hseen
  have hlen := congrArg List.length (ht.symm.trans h)
  simp only [List.length_append, inputOf, List.length_map] at hlen
  omega

theorem endsBy_refl (hasEnd : Input → Bool) (t : Input) : EndsBy hasEnd t t := by
  rintro seen more rfl -
  rw [List.length_append]
  exact Nat.le_add_left ..

theorem endsBy_cons (hm : hasMark mark [] = false) (hs : startsWith mark (s :: t) = false)
    (h : EndsBy (hasMark mark) t rest) : EndsBy (hasMark mark) (s :: t) rest := by
  intro seen more ht hseen
  cases seen with
  | nil =>
    rw [hm] at hseen
    cases hseen
  | cons x seen =>
    cases ht
    have hx : startsWith mark (s :: seen) = false := startsWith_eq_false_of_append hs
    exact h seen more rfl (hasMark_of_not_startsWith hseen hx)

theorem startsWith_eq_false (h : ∀ u, t ≠ inputOf mark.toList ++ u) :
    startsWith mark t = false := by
  cases ht : startsWith mark t with
  | false => rfl
  | true =>
    obtain ⟨u, hu⟩ := Option.isSome_iff_exists.1 ht
    exact absurd (after?_eq_some_iff.1 hu) (h u)

theorem endsBy_commentEnd (isSound : Bool) (t : Input) :
    EndsBy (hasMark "-->") t (commentEnd isSound t).rest := by
  fun_induction commentEnd isSound t with
  | case1 isSound t => exact endsBy_mark rfl
  | case2 isSound t hn ih =>
    exact endsBy_cons rfl (startsWith_eq_false fun u hu => hn u (by cases hu; rfl)) ih
  | case3 isSound c t hn₁ hn₂ hc ih =>
    exact endsBy_cons rfl (startsWith_eq_false fun u hu => by cases hu; exact hn₁ u rfl rfl) ih
  | case4 => exact endsBy_refl _ _
  | case5 isSound t ih => exact endsBy_cons rfl (startsWith_eq_false fun u hu => by cases hu) ih
  | case6 => exact endsBy_refl _ _

/-- Two hyphens that are passed over together are none of the end of the comment. -/
theorem endsBy_comment {isSound : Bool} {t : Input} (h : hasMark "--->" t = false) :
    EndsBy (hasMark "-->") t (comment isSound t).rest := by
  have tail : ∀ {s : Symbol} {t : Input}, hasMark "--->" (s :: t) = false →
      hasMark "--->" t = false := fun h =>
    not_hasMark_of_isInfix h (List.suffix_cons ..).isInfix
  fun_induction comment isSound t with
  | case1 isSound t => exact endsBy_mark rfl
  | case2 isSound t hn ih =>
    refine endsBy_cons rfl (startsWith_eq_false fun u hu => hn u (by cases hu; rfl)) ?_
    refine endsBy_cons rfl (startsWith_eq_false fun u hu => ?_) (ih (tail (tail h)))
    cases hu
    cases h
  | case3 isSound t ih =>
    refine endsBy_cons rfl (startsWith_eq_false fun u hu => by cases hu) ?_
    exact endsBy_cons rfl (startsWith_eq_false fun u hu => by cases hu) (ih (tail (tail h)))
  | case4 isSound c t hn₁ hn₂ hn₃ hc ih =>
    refine endsBy_cons rfl (startsWith_eq_false fun u hu => ?_) (ih (tail h))
    cases hu
    exact hn₁ u rfl rfl
  | case5 => exact endsBy_commentEnd _ _
  | case6 => exact endsBy_commentEnd _ _

end Comment

/-! ## Start tags -/

/-- A reading inside quotation marks or outside them that leaves the end of a tag before it. -/
def KeepsEnd (quote quote' : Option Char) (t rest : Input) : Prop :=
  ∀ seen more, t = seen ++ more → hasTagEnd quote seen = true →
    ∃ left, rest = left ++ more ∧ hasTagEnd quote' left = true

section Tag

variable {quote quote' quote'' : Option Char} {q : Char} {s : Symbol} {t u rest : Input}

theorem KeepsEnd.refl (quote : Option Char) (t : Input) : KeepsEnd quote quote t t :=
  fun seen _ ht h => ⟨seen, ht, h⟩

theorem KeepsEnd.trans (h : KeepsEnd quote quote' t u) (h' : KeepsEnd quote' quote'' u rest) :
    KeepsEnd quote quote'' t rest := by
  intro seen more ht hseen
  obtain ⟨left, hl, hend⟩ := h seen more ht hseen
  exact h' left more hl hend

theorem KeepsEnd.endsBy (h : KeepsEnd none none t rest) : EndsBy (hasTagEnd none) t rest := by
  intro seen more ht hseen
  obtain ⟨left, rfl, -⟩ := h seen more ht hseen
  rw [List.length_append]
  exact Nat.le_add_left ..

theorem EndsBy.of_keepsEnd (h : KeepsEnd none none t u) (h' : EndsBy (hasTagEnd none) u rest) :
    EndsBy (hasTagEnd none) t rest := by
  intro seen more ht hseen
  obtain ⟨left, hl, hend⟩ := h seen more ht hseen
  exact h' left more hl hend

theorem keepsEnd_cons (h : ∀ seen, hasTagEnd quote (s :: seen) = hasTagEnd quote' seen) :
    KeepsEnd quote quote' (s :: t) t := by
  intro seen more ht hseen
  cases seen with
  | nil => cases hseen
  | cons x seen =>
    cases ht
    exact ⟨seen, rfl, (h seen).symm.trans hseen⟩

theorem keepsEnd_dropWhile {p : Symbol → Bool}
    (h : ∀ s, p s = true → ∀ seen, hasTagEnd quote (s :: seen) = hasTagEnd quote seen)
    (t : Input) : KeepsEnd quote quote t (t.dropWhile p) := by
  induction t with
  | nil => exact .refl _ _
  | cons s t ih =>
    cases hp : p s with
    | true =>
      rw [List.dropWhile_cons_of_pos hp]
      exact (keepsEnd_cons (h s hp)).trans ih
    | false =>
      rw [List.dropWhile_cons_of_neg (by rw [hp]; decide)]
      exact .refl _ _

/-- A character that is no quotation mark and ends no tag. -/
def isInside (s : Symbol) : Prop := s ≠ .char '>' ∧ s ≠ .char '\x22' ∧ s ≠ .char '\x27'

theorem hasTagEnd_none_cons (h : isInside s) (seen : Input) :
    hasTagEnd none (s :: seen) = hasTagEnd none seen := by
  rw [hasTagEnd]
  rw [if_neg h.1, if_neg h.2.1, if_neg h.2.2]

theorem hasTagEnd_some_cons (h : s ≠ .char q) (seen : Input) :
    hasTagEnd (some q) (s :: seen) = hasTagEnd (some q) seen := by
  rw [hasTagEnd]
  rw [if_neg h]

theorem hasTagEnd_cons_quote (h : q = '\x22' ∨ q = '\x27') (seen : Input) :
    hasTagEnd none (.char q :: seen) = hasTagEnd (some q) seen := by
  rcases h with rfl | rfl <;> rfl

theorem hasTagEnd_cons_end (seen : Input) :
    hasTagEnd (some q) (.char q :: seen) = hasTagEnd none seen := by
  rw [hasTagEnd]
  rw [if_pos rfl]

theorem snd_takeChars (p : Char → Bool) (t : Input) :
    (takeChars p t).2 = t.dropWhile (·.holds p) := by
  induction t with
  | nil => rfl
  | cons s t ih =>
    cases s with
    | stray => rfl
    | char c =>
      cases hp : p c with
      | true =>
        have hs : (Symbol.char c).holds p = true := hp
        rw [takeChars, if_pos hp, List.dropWhile_cons_of_pos hs, ← ih]
      | false =>
        have hs : ¬(Symbol.char c).holds p = true := by
          rw [Symbol.holds, hp]
          decide
        rw [takeChars, hp, List.dropWhile_cons_of_neg hs]
        rfl

theorem isInside_of_holds {p : Char → Bool} (h : s.holds p = true) (h₁ : p '>' = false)
    (h₂ : p '\x22' = false) (h₃ : p '\x27' = false) : isInside s := by
  refine ⟨?_, ?_, ?_⟩ <;> rintro rfl
  · cases h.symm.trans h₁
  · cases h.symm.trans h₂
  · cases h.symm.trans h₃

theorem hasTagEnd_cons (hs : isInside s) (hq : ∀ q ∈ quote, q = '\x22' ∨ q = '\x27')
    (seen : Input) : hasTagEnd quote (s :: seen) = hasTagEnd quote seen := by
  cases quote with
  | none => exact hasTagEnd_none_cons hs seen
  | some q =>
    refine hasTagEnd_some_cons ?_ seen
    rcases hq q rfl with rfl | rfl
    · exact hs.2.1
    · exact hs.2.2

theorem noQuote : ∀ q ∈ (none : Option Char), q = '\x22' ∨ q = '\x27' := by
  rintro _ ⟨⟩

section Quote

variable (hq : ∀ q ∈ quote, q = '\x22' ∨ q = '\x27')

include hq

theorem keepsEnd_skipSpaces (t : Input) : KeepsEnd quote quote t (skipSpaces t) :=
  keepsEnd_dropWhile (fun _ hs =>
    hasTagEnd_cons (isInside_of_holds hs (by decide) (by decide) (by decide)) hq) t

theorem keepsEnd_takeName (t : Input) : KeepsEnd quote quote t (takeName t).2 := by
  unfold takeName
  split
  · rw [snd_takeChars]
    exact keepsEnd_dropWhile (fun _ hs =>
      hasTagEnd_cons (isInside_of_holds hs (by decide) (by decide) (by decide)) hq) t
  · exact .refl _ _

theorem keepsEnd_nameReference (isLax : Bool) (t : Input) :
    KeepsEnd quote quote t (nameReference isLax t).rest := by
  have h := keepsEnd_takeName hq t
  unfold nameReference
  split
  · rename_i hn
    rw [hn] at h
    exact h
  · rename_i hn
    rw [hn] at h
    refine h.trans (keepsEnd_cons (hasTagEnd_cons ?_ hq))
    exact ⟨by decide, by decide, by decide⟩
  · rename_i hn
    rw [hn] at h
    exact h

end Quote

theorem exists_value_nameReference (isLax : Bool) (t : Input) :
    ∃ c, (nameReference isLax t).value = .byName c := by
  unfold nameReference
  split <;> exact ⟨_, rfl⟩

theorem reference_of_plain {isLax : Bool} (h : hasMark "&#" (.char '&' :: t) = false) :
    reference isLax t = nameReference isLax t := by
  unfold reference
  split
  · cases h
  · cases h
  · rfl

/-- Without references by number a value ends where its quotation mark stands again. -/
theorem keepsEnd_valueUntil (isLax : Bool) (hq : q = '\x22' ∨ q = '\x27')
    (h : hasMark "&#" t = false) :
    KeepsEnd (some q) none t (valueUntil isLax q t).rest := by
  have within : ∀ {s : Symbol} {t : Input}, s ≠ .char q → KeepsEnd (some q) (some q) (s :: t) t :=
    fun hs => keepsEnd_cons (hasTagEnd_some_cons hs)
  have tail : ∀ {s : Symbol} {t : Input}, hasMark "&#" (s :: t) = false →
      hasMark "&#" t = false := fun h =>
    not_hasMark_of_isInfix h (List.suffix_cons _ _).isInfix
  have amp : ∀ {t}, hasMark "&#" (.char '&' :: t) = false →
      KeepsEnd (some q) (some q) (.char '&' :: t) (reference isLax t).rest ∧
        hasMark "&#" (reference isLax t).rest = false := by
    intro t h
    have hs : Symbol.char '&' ≠ .char q := by rcases hq with rfl | rfl <;> decide
    refine ⟨?_, not_hasMark_of_isInfix (tail h) ((isLocal_reference isLax).suffix t).isInfix⟩
    rw [reference_of_plain h]
    exact (within hs).trans (keepsEnd_nameReference (by rintro _ ⟨⟩; exact hq) isLax t)
  fun_induction valueUntil isLax q t with
  | case1 =>
    intro seen more ht hseen
    rw [(List.append_eq_nil_iff.1 ht.symm).1] at hseen
    cases hseen
  | case2 t ih => exact (within (fun h => by cases h)).trans (ih (tail h))
  | case3 t ih =>
    have hr : Symbol.char '\r' ≠ .char q := by rcases hq with rfl | rfl <;> decide
    have hn : Symbol.char '\n' ≠ .char q := by rcases hq with rfl | rfl <;> decide
    exact (within hr).trans ((within hn).trans (ih (tail (tail h))))
  | case4 => exact keepsEnd_cons hasTagEnd_cons_end
  | case5 t r hr =>
    obtain ⟨c, hc⟩ := exists_value_nameReference isLax t
    rw [← reference_of_plain h] at hc
    cases hr.symm.trans hc
  | case6 _ _ _ _ _ _ ih => exact (amp h).1.trans (ih (amp h).2)
  | case7 _ _ _ _ _ _ ih => exact (amp h).1.trans (ih (amp h).2)
  | case8 _ _ _ _ _ _ ih => exact (amp h).1.trans (ih (amp h).2)
  | case9 c t hn hq' ha hs ih =>
    exact (within (fun hc => hq' (Symbol.char.inj hc))).trans (ih (tail h))
  | case10 c t hn hq' ha hs hc ih =>
    exact (within (fun hc => hq' (Symbol.char.inj hc))).trans (ih (tail h))
  | case11 c t hn hq' ha hs hc ih =>
    exact (within (fun hc => hq' (Symbol.char.inj hc))).trans (ih (tail h))

theorem keepsEnd_takeValue (isLax : Bool) (h : hasMark "&#" t = false) :
    KeepsEnd none none t (takeValue isLax t).rest := by
  unfold takeValue
  split
  · rename_i c t
    split
    · rename_i hc
      have hc : c = '\x22' ∨ c = '\x27' := by simpa using hc
      refine (keepsEnd_cons (hasTagEnd_cons_quote hc)).trans (keepsEnd_valueUntil isLax hc ?_)
      exact not_hasMark_of_isInfix h (List.suffix_cons _ _).isInfix
    · exact .refl _ _
  · exact .refl _ _

theorem keepsEnd_takeAttribute (isLax : Bool) (h : hasMark "&#" t = false) :
    KeepsEnd none none t (takeAttribute isLax t).rest := by
  have hname := (keepsEnd_takeName noQuote t).trans (keepsEnd_skipSpaces noQuote (takeName t).2)
  have hs : skipSpaces (takeName t).2 <:+ t :=
    (List.dropWhile_suffix _).trans (takes_takeName.suffix t)
  unfold takeAttribute
  dsimp only
  split
  · rename_i rest he
    rw [he] at hname hs
    have hr : skipSpaces rest <:+ t :=
      (List.dropWhile_suffix _).trans ((List.suffix_cons _ _).trans hs)
    refine hname.trans ((keepsEnd_cons (hasTagEnd_none_cons ?_)).trans
      ((keepsEnd_skipSpaces noQuote rest).trans (keepsEnd_takeValue isLax ?_)))
    · exact ⟨by decide, by decide, by decide⟩
    · exact not_hasMark_of_isInfix h hr.isInfix
  · exact hname

theorem endsBy_of_tail (s : Symbol) (t : Input) : EndsBy (hasTagEnd none) (s :: t) t := by
  intro seen more ht hseen
  cases seen with
  | nil => cases hseen
  | cons x seen =>
    cases ht
    show more.length ≤ (seen ++ more).length
    rw [List.length_append]
    exact Nat.le_add_left _ _

theorem endsBy_of_tagEnd? {e : Ending} (h : tagEnd? t = some (e, rest)) :
    EndsBy (hasTagEnd none) t rest := by
  unfold tagEnd? at h
  split at h
  · cases h
    exact endsBy_of_tail _ _
  · cases h
    refine EndsBy.of_keepsEnd (keepsEnd_cons (hasTagEnd_none_cons ?_)) (endsBy_of_tail _ _)
    exact ⟨by decide, by decide, by decide⟩
  · cases h

theorem endsBy_takeAttributes (isLax : Bool) (isWords : Text → Bool)
    (h : hasMark "&#" t = false) :
    EndsBy (hasTagEnd none) t (takeAttributes isLax isWords t).rest := by
  fun_induction takeAttributes isLax isWords t with
  | case1 t e rest he => exact endsBy_of_tagEnd? he
  | case2 => exact endsBy_refl _ _
  | case3 t he a hn found hs hl more ih =>
    have ha := keepsEnd_takeAttribute isLax h
    have hr : skipSpaces a.rest <:+ t :=
      (List.dropWhile_suffix _).trans ((isLocal_takeAttribute isLax).suffix t)
    exact .of_keepsEnd (ha.trans (keepsEnd_skipSpaces noQuote a.rest))
      (ih (not_hasMark_of_isInfix h hr.isInfix))
  | case4 t he a => exact (keepsEnd_takeAttribute isLax h).endsBy

/-- A start tag without references by number ends where it seems to. -/
theorem endsBy_startTag? {isLax : Bool} {isWords : Text → Text → Bool} {r : Reading StartTag}
    (h : hasMark "&#" t = false) (hr : startTag? isLax isWords t = some r) :
    EndsBy (hasTagEnd none) t r.rest := by
  have hname := (keepsEnd_takeName noQuote t).trans (keepsEnd_skipSpaces noQuote (takeName t).2)
  have hs : skipSpaces (takeName t).2 <:+ t :=
    (List.dropWhile_suffix _).trans (takes_takeName.suffix t)
  rw [startTag?_eq] at hr
  split at hr
  · cases hr
  · cases hr
    exact .of_keepsEnd hname (endsBy_takeAttributes _ _ (not_hasMark_of_isInfix h hs.isInfix))

end Tag

/-! ## Documents -/

namespace Progress

variable {p q : Progress} {t rest : Input}

theorem ahead_suffix (p : Progress) (t : Input) : p.ahead t <:+ t := by
  unfold ahead
  split
  · exact List.dropWhile_suffix _
  · exact List.suffix_rfl
  · exact List.nil_suffix

theorem suffix_of_after? {mark : Text} {u : Input} (h : after? mark (p.ahead t) = some u) :
    u <:+ t :=
  .trans ⟨_, (after?_eq_some_iff.1 h).symm⟩ (ahead_suffix p t)

theorem hasMark_of_startsWith {mark : String} {u : Input} (hs : u <:+ t)
    (h : startsWith mark u = true) : hasMark mark t = true := by
  obtain ⟨v, hv⟩ := Option.isSome_iff_exists.1 h
  refine hasMark_of_isInfix hs.isInfix (hasMark_iff.2 ⟨[], v, ?_⟩)
  exact after?_eq_some_iff.1 hv

theorem isSettled_of_isPlain (hp : p.part ≠ .subset) (h : IsPlain t) : p.IsSettled t where
  comment _ hu := endsBy_comment (h.of_suffix (suffix_of_after? hu)).comment
  tag u _ hu hr := by
    have hs : u <:+ t := (List.suffix_cons _ _).trans (hu ▸ ahead_suffix p t)
    exact endsBy_startTag? (h.of_suffix hs).reference hr
  doctype u _ hu := by
    have hd : hasMark "<!DOCTYPE" t = true :=
      hasMark_of_startsWith (ahead_suffix p t) (Option.isSome_iff_exists.2 ⟨u, hu⟩)
    rw [h.doctype] at hd
    cases hd
  subset _ _ hs := absurd hs hp
  text _ _ := not_hasMark_of_isInfix h.data (List.takeWhile_prefix _).isInfix

theorem part_ne_subset_of_step (hp : p.part ≠ .subset) (h : IsPlain t)
    (hs : p.step true t = some (q, rest)) : q.part ≠ .subset := by
  intro hq
  unfold step at hs
  split at hs
  · cases hq.symm.trans (part_beginningStep hs)
  · rename_i hp
    rcases part_prologStep hp hs with hq' | hq' | ⟨_, hq'⟩ | ⟨-, -, hd⟩
    · cases hq.symm.trans hq'
    · cases hq.symm.trans hq'
    · cases hq.symm.trans hq'
    · have hd := hasMark_of_startsWith (List.dropWhile_suffix _) hd
      rw [h.doctype] at hd
      cases hd
  · rename_i hp'
    exact hp hp'
  · rename_i hp
    rcases part_contentStep hp hs with hq' | hq'
    · cases hq.symm.trans hq'
    · cases hq.symm.trans hq'
  · cases hs

/-- Reading stops in time everywhere in a plain document. -/
theorem isSteady_of_isPlain (h : IsPlain t) : IsSteady {} t := by
  have hall : ∀ b, Relation.ReflTransGen Leads ({}, t) b → b.1.part ≠ .subset ∧ b.2 <:+ t := by
    intro b hc
    induction hc with
    | refl => exact ⟨fun hp => by (cases hp), List.suffix_rfl⟩
    | tail _ hl ih =>
      have hsuf := (step_suffix (fun hs => absurd hs ih.1) hl).1
      exact ⟨part_ne_subset_of_step ih.1 (h.of_suffix ih.2) hl, hsuf.trans ih.2⟩
  intro q rest hc
  obtain ⟨hq, hr⟩ := hall _ hc
  exact isSettled_of_isPlain hq (h.of_suffix hr)

end Progress
end Markup
end DfaTable
