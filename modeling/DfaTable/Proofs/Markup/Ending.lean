import DfaTable.Proofs.Markup.Locality

/-!
# DfaTable.Proofs.Markup.Ending

Readers that a mark ends. Once the mark has come in they stop within what has come in, wherever they
stop.

* `hasMark_iff`, `after?_of_hasMark`, `takeName_of_hasMark`, ...: what does not pass a mark.
* `instruction_of_hasMark`, `sectionData_of_hasMark`, `reference_of_hasMark`: what a mark ends.
-/

namespace DfaTable
namespace Markup

open Text

/-! ## Marks -/

theorem hasMark_iff {mark : String} {t : Input} :
    hasMark mark t = true ↔ ∃ u v, t = u ++ (inputOf mark.toList ++ v) := by
  induction t with
  | nil =>
    rw [hasMark]
    constructor
    · intro h
      exact ⟨[], [], by simp [String.isEmpty_iff.1 h]⟩
    · rintro ⟨u, v, h⟩
      have hm : mark.toList = [] := by
        have := congrArg List.length h
        simp only [List.length_nil, List.length_append, inputOf, List.length_map] at this
        exact List.eq_nil_of_length_eq_zero (by omega)
      exact String.isEmpty_iff.2 (String.toList_eq_nil_iff.1 hm)
  | cons s t ih =>
    rw [hasMark, Bool.or_eq_true, ih, startsWith, Option.isSome_iff_exists]
    constructor
    · rintro (⟨v, h⟩ | ⟨u, v, h⟩)
      · exact ⟨[], v, after?_eq_some_iff.1 h⟩
      · exact ⟨s :: u, v, by rw [h]; rfl⟩
    · rintro ⟨u, v, h⟩
      cases u with
      | nil => exact .inl ⟨v, after?_eq_some_iff.2 h⟩
      | cons x u =>
        cases h
        exact .inr ⟨u, v, rfl⟩

section Mark

variable {mark : String} {m : Char} {more : Text} {a : Input}

theorem length_le_of_hasMark (h : hasMark mark a = true) : mark.toList.length ≤ a.length := by
  obtain ⟨u, v, rfl⟩ := hasMark_iff.1 h
  simp only [List.length_append, inputOf, List.length_map]
  omega

/-- A mark does not begin with another symbol than its first. -/
theorem hasMark_of_cons (hm : mark.toList = m :: more) {s : Symbol} (hs : s ≠ .char m)
    (h : hasMark mark (s :: a) = true) : hasMark mark a = true := by
  rw [hasMark, Bool.or_eq_true] at h
  refine h.resolve_left ?_
  rw [startsWith, hm, after?, if_neg hs]
  decide

theorem not_hasMark_nil (hm : mark.toList = m :: more) : ¬hasMark mark [] = true := by
  intro h
  have := length_le_of_hasMark h
  rw [hm] at this
  simp at this

/-- A text without the first symbol of a mark ends before the mark. -/
theorem after?_of_hasMark (hm : mark.toList = m :: more) {other : Text} (hn : m ∉ other)
    (h : hasMark mark a = true) (b : Input) :
    after? other (a ++ b) = (after? other a).map (· ++ b) ∧
      ∀ r, after? other a = some r → hasMark mark r = true := by
  induction other generalizing a with
  | nil =>
    refine ⟨rfl, fun r hr => ?_⟩
    cases hr
    exact h
  | cons c other ih =>
    rw [List.mem_cons, not_or] at hn
    cases a with
    | nil => exact absurd h (not_hasMark_nil hm)
    | cons s a =>
      rw [List.cons_append, after?, after?]
      split
      · rename_i hs
        refine ih hn.2 (hasMark_of_cons hm ?_ h)
        rw [hs, Ne, Symbol.char.injEq]
        exact Ne.symm hn.1
      · exact ⟨rfl, fun r hr => by cases hr⟩

theorem startsWithSpace_of_hasMark (hm : mark.toList = m :: more) (h : hasMark mark a = true)
    (b : Input) : startsWithSpace (a ++ b) = startsWithSpace a := by
  cases a with
  | nil => exact absurd h (not_hasMark_nil hm)
  | cons s a => rfl

theorem ne_nil_of_hasMark (hm : mark.toList = m :: more) (h : hasMark mark a = true) : a ≠ [] := by
  rintro rfl
  exact not_hasMark_nil hm h

theorem takeChars_of_hasMark (hm : mark.toList = m :: more) {p : Char → Bool} (hp : p m = false)
    (h : hasMark mark a = true) (b : Input) :
    takeChars p (a ++ b) = ((takeChars p a).1, (takeChars p a).2 ++ b) ∧
      hasMark mark (takeChars p a).2 = true := by
  induction a with
  | nil => exact absurd h (not_hasMark_nil hm)
  | cons s a ih =>
    cases s with
    | stray => exact ⟨rfl, h⟩
    | char c =>
      simp only [List.cons_append, takeChars]
      split
      · rename_i hc
        have hne : Symbol.char c ≠ .char m := by
          rintro ⟨⟩
          rw [hp] at hc
          cases hc
        obtain ⟨he, hr⟩ := ih (hasMark_of_cons hm hne h)
        rw [he]
        exact ⟨rfl, hr⟩
      · exact ⟨rfl, h⟩

theorem takeName_of_hasMark (hm : mark.toList = m :: more) (hp : isNameChar m = false)
    (h : hasMark mark a = true) (b : Input) :
    takeName (a ++ b) = ((takeName a).1, (takeName a).2 ++ b) ∧
      hasMark mark (takeName a).2 = true := by
  cases a with
  | nil => exact absurd h (not_hasMark_nil hm)
  | cons s a =>
    unfold takeName
    rw [List.cons_append, List.head?_cons, List.head?_cons]
    split
    · exact takeChars_of_hasMark hm hp h b
    · exact ⟨rfl, h⟩

theorem skipSpaces_of_hasMark (hm : mark.toList = m :: more) (hp : isSpace m = false)
    (h : hasMark mark a = true) (b : Input) :
    skipSpaces (a ++ b) = skipSpaces a ++ b ∧ hasMark mark (skipSpaces a) = true := by
  induction a with
  | nil => exact absurd h (not_hasMark_nil hm)
  | cons s a ih =>
    cases hs : s.holds isSpace with
    | true =>
      have hskip : ∀ u, skipSpaces (s :: u) = skipSpaces u := fun u =>
        List.dropWhile_cons_of_pos hs
      have hne : s ≠ .char m := by
        rintro rfl
        exact absurd hs (by rw [Symbol.holds, hp]; decide)
      rw [List.cons_append, hskip, hskip]
      exact ih (hasMark_of_cons hm hne h)
    | false =>
      have hskip : ∀ u, skipSpaces (s :: u) = s :: u := fun u =>
        List.dropWhile_cons_of_neg (by rw [hs]; decide)
      rw [List.cons_append, hskip, hskip]
      exact ⟨rfl, h⟩

end Mark

/-- What does not stand at the beginning stands further on. -/
theorem hasMark_of_not_startsWith {mark : String} {s : Symbol} {a : Input}
    (h : hasMark mark (s :: a) = true) (hn : startsWith mark (s :: a) = false) :
    hasMark mark a = true := by
  rw [hasMark, hn, Bool.false_or] at h
  exact h

theorem instructionEnd_of_hasMark {a : Input} (h : hasMark "?>" a = true) (isSound : Bool)
    (b : Input) :
    instructionEnd isSound (a ++ b) = (instructionEnd isSound a).extend b := by
  refine (isLocal_instructionEnd isSound).append_eq a b ?_
  generalize ht : a ++ b = t
  fun_induction instructionEnd isSound t generalizing a with
  | case1 isSound t =>
    have hl := length_le_of_hasMark h
    have hlen := congrArg List.length ht
    simp only [List.length_append, List.length_cons] at hlen
    change 2 ≤ a.length at hl
    dsimp only
    omega
  | case2 isSound c t hn hc ih =>
    cases a with
    | nil => exact absurd h (not_hasMark_nil rfl)
    | cons s a =>
      cases ht
      refine ih (hasMark_of_not_startsWith h ?_) rfl
      refine Bool.eq_false_iff.2 fun hs => ?_
      obtain ⟨r, hr⟩ := Option.isSome_iff_exists.1 hs
      have he : .char c :: a = inputOf ['?', '>'] ++ r := after?_eq_some_iff.1 hr
      cases he
      exact hn (r ++ b) rfl rfl
  | case3 => rw [← ht, List.length_append]; omega
  | case4 isSound t ih =>
    cases a with
    | nil => exact absurd h (not_hasMark_nil rfl)
    | cons s a =>
      cases ht
      exact ih (hasMark_of_not_startsWith h rfl) rfl
  | case5 =>
    obtain ⟨rfl, rfl⟩ := List.append_eq_nil_iff.1 ht
    exact absurd h (not_hasMark_nil rfl)

/-- An instruction behind its name. -/
def behindTarget (name : Text) (t : Input) : Reading Unit :=
  if name = [] then { value := (), rest := t, isSound := false }
  else
    instructionEnd (!isReserved name && (startsWithSpace t || startsWith "?>" t)) (skipSpaces t)

theorem instruction_eq (t : Input) :
    instruction t = behindTarget (takeName t).1 (takeName t).2 := rfl

theorem instruction_suffix (t : Input) : (instruction t).rest <:+ t := by
  have hn := takes_takeName.suffix t
  rw [instruction_eq]
  unfold behindTarget
  split
  · exact hn
  · exact ((isLocal_instructionEnd _).suffix _).trans ((List.dropWhile_suffix _).trans hn)

/-- An instruction whose end has come in is read as it is, whatever is behind it. -/
theorem instruction_of_hasMark {a : Input} (h : hasMark "?>" a = true) (b : Input) :
    instruction (a ++ b) = (instruction a).extend b := by
  obtain ⟨hn, h⟩ := takeName_of_hasMark (by rfl) (by decide) h b
  obtain ⟨hs, hr⟩ := skipSpaces_of_hasMark (by rfl) (by decide) h b
  rw [instruction_eq, instruction_eq, hn]
  unfold behindTarget
  split
  · rfl
  · rw [hs]
    rw [startsWith_append_of_length_le (length_le_of_hasMark h),
      startsWithSpace_of_hasMark (by rfl) h, instructionEnd_of_hasMark hr]

/-- A section whose end has come in is read as it is, whatever is behind it. -/
theorem sectionData_of_hasMark {a : Input} (h : hasMark "]]>" a = true) (b : Input) :
    sectionData (a ++ b) = (sectionData a).extend b := by
  refine isLocal_sectionData.append_eq a b ?_
  generalize ht : a ++ b = t
  fun_induction sectionData t generalizing a with
  | case1 t =>
    have hl := length_le_of_hasMark h
    have hlen := congrArg List.length ht
    simp only [List.length_append, List.length_cons] at hlen
    change 3 ≤ a.length at hl
    dsimp only
    omega
  | case2 t ih =>
    rcases a with _ | ⟨s, _ | ⟨s', a⟩⟩
    · exact absurd h (not_hasMark_nil rfl)
    · have hl := length_le_of_hasMark h
      change 3 ≤ 1 at hl
      omega
    · cases ht
      exact ih (hasMark_of_not_startsWith (hasMark_of_not_startsWith h rfl) rfl) rfl
  | case3 c t hn₁ hn₂ hc ih =>
    cases a with
    | nil => exact absurd h (not_hasMark_nil rfl)
    | cons s a =>
      cases ht
      refine ih (hasMark_of_not_startsWith h ?_) rfl
      refine Bool.eq_false_iff.2 fun hs => ?_
      obtain ⟨r, hr⟩ := Option.isSome_iff_exists.1 hs
      have he : .char c :: a = inputOf [']', ']', '>'] ++ r := after?_eq_some_iff.1 hr
      cases he
      exact hn₁ (r ++ b) rfl rfl
  | case4 => rw [← ht, List.length_append]; omega
  | case5 t ih =>
    cases a with
    | nil => exact absurd h (not_hasMark_nil rfl)
    | cons s a =>
      cases ht
      exact ih (hasMark_of_not_startsWith h rfl) rfl
  | case6 =>
    obtain ⟨rfl, rfl⟩ := List.append_eq_nil_iff.1 ht
    exact absurd h (not_hasMark_nil rfl)

theorem takeNumber_of_hasMark {a : Input} (h : hasMark ";" a = true) (base index n : Nat)
    (b : Input) :
    takeNumber base index n (a ++ b) =
      ((takeNumber base index n a).1, (takeNumber base index n a).2 ++ b) := by
  refine (takes_takeNumber base index n).append_eq a b ?_
  generalize ht : a ++ b = t
  fun_induction takeNumber base index n t generalizing a with
  | case1 =>
    obtain ⟨rfl, rfl⟩ := List.append_eq_nil_iff.1 ht
    exact absurd h (not_hasMark_nil rfl)
  | case2 => rw [← ht, List.length_append]; omega
  | case3 index n t =>
    have hl := length_le_of_hasMark h
    have hlen := congrArg List.length ht
    simp only [List.length_append, List.length_cons] at hlen
    change 1 ≤ a.length at hl
    dsimp only
    omega
  | case4 => rw [← ht, List.length_append]; omega
  | case5 => rw [← ht, List.length_append]; omega
  | case6 index n c t hc d hd hi ih =>
    cases a with
    | nil => exact absurd h (not_hasMark_nil rfl)
    | cons s a =>
      cases ht
      exact ih (hasMark_of_cons rfl (fun he => hc (Symbol.char.inj he)) h) rfl

theorem numberReference_of_hasMark {a : Input} (h : hasMark ";" a = true) (base : Nat)
    (b : Input) : numberReference base (a ++ b) = (numberReference base a).extend b := by
  simp only [numberReference, takeNumber_of_hasMark h, Reading.extend]

theorem nameReference_of_hasMark {a : Input} (h : hasMark ";" a = true) (isLax : Bool)
    (b : Input) : nameReference isLax (a ++ b) = (nameReference isLax a).extend b := by
  obtain ⟨hn, h⟩ := takeName_of_hasMark (by rfl) (by decide) h b
  rw [nameReference_eq, nameReference_eq, hn]
  obtain ⟨s, rest, hr⟩ := List.exists_cons_of_ne_nil (ne_nil_of_hasMark rfl h)
  simp only [hr, List.cons_append, behindName]
  split
  · rfl
  · simp only [branch]
    split <;> rfl

/-- A reference whose end has come in is read as it is, whatever is behind it. -/
theorem reference_of_hasMark {a : Input} (h : hasMark ";" a = true) (isLax : Bool) (b : Input) :
    reference isLax (a ++ b) = (reference isLax a).extend b := by
  obtain ⟨s, a, rfl⟩ := List.exists_cons_of_ne_nil (ne_nil_of_hasMark rfl h)
  by_cases hs : s = .char '#'
  · subst hs
    have h₁ := hasMark_of_not_startsWith h rfl
    obtain ⟨s, a, rfl⟩ := List.exists_cons_of_ne_nil (ne_nil_of_hasMark rfl h₁)
    by_cases hx : s = .char 'x'
    · subst hx
      exact numberReference_of_hasMark (hasMark_of_not_startsWith h₁ rfl) 16 b
    · have hr : ∀ u, reference isLax (.char '#' :: s :: u) = numberReference 10 (s :: u) :=
        fun u => reference.eq_2 _ _ fun v hv => hx (List.cons.inj hv).1
      rw [List.cons_append, List.cons_append, hr, hr]
      exact numberReference_of_hasMark h₁ 10 b
  · have hr : ∀ u, reference isLax (s :: u) = nameReference isLax (s :: u) := fun u =>
      reference.eq_3 _ _ (fun v hv => hs (List.cons.inj hv).1) fun v hv => hs (List.cons.inj hv).1
    rw [List.cons_append, hr, hr]
    exact nameReference_of_hasMark h isLax b

end Markup
end DfaTable
