import DfaTable.Markup.Extent
import DfaTable.Proofs.Markup.Feeding
import Mathlib.Data.List.TakeWhile

/-!
# DfaTable.Proofs.Markup.Scanning

The readers that look for a mark, a name or the end of a tag, on an input of which it is known how
it begins.

* `after?_eq_some_iff`: what is behind a mark.
* `takeName_append`: a name is read up to the first character that it cannot hold.
* `hasTagEnd_append`, `hasTagEnd_plain`, `hasTagEnd_quoted`: where a tag ends.
* `begins_or_waits`: an input that is coming in holds a text as a whole, or breaks off in it.
-/

namespace DfaTable
namespace Markup

open Text

/-! ## Marks -/

theorem after?_eq_some_iff {mark : Text} {t rest : Input} :
    after? mark t = some rest ↔ t = inputOf mark ++ rest := by
  induction mark generalizing t with
  | nil => simp [after?]
  | cons m mark ih =>
    cases t with
    | nil => simp [after?]
    | cons s t =>
      simp only [after?]
      split
      · rename_i hs
        rw [ih, inputOf_cons, List.cons_append, hs, List.cons.injEq]
        simp
      · rename_i hs
        simp only [reduceCtorEq, inputOf_cons, List.cons_append, List.cons.injEq, false_iff]
        exact fun h => hs h.1

theorem after?_inputOf (mark : Text) (rest : Input) :
    after? mark (inputOf mark ++ rest) = some rest := after?_eq_some_iff.2 rfl

theorem after?_subset {mark : Text} {t rest : Input} (h : after? mark t = some rest) :
    rest ⊆ t := by
  rw [after?_eq_some_iff.1 h]
  exact fun _ hs => List.mem_append_right _ hs

theorem after?_eq_none_of_notMem {mark : Text} {t : Input} {m : Char} (hm : m ∈ mark)
    (h : .char m ∉ t) : after? mark t = none := by
  cases ha : after? mark t with
  | none => rfl
  | some rest =>
    rw [after?_eq_some_iff.1 ha] at h
    exact absurd (List.mem_append_left _ (List.mem_map_of_mem hm)) h

theorem hasMark_eq_false_of_notMem {mark : String} {t : Input} {m : Char} (hm : m ∈ mark.toList)
    (h : .char m ∉ t) : hasMark mark t = false := by
  induction t with
  | nil =>
    cases he : mark.isEmpty with
    | false => exact he
    | true =>
      rw [String.isEmpty_iff.1 he] at hm
      cases hm
  | cons s t ih =>
    have ha : startsWith mark (s :: t) = false := by
      rw [startsWith, after?_eq_none_of_notMem hm h]
      rfl
    rw [hasMark, ha, ih fun ht => h (List.mem_cons_of_mem _ ht)]
    rfl

/-! ## Blanks and names -/

theorem skipSpaces_of_not_space {c : Char} (h : isSpace c = false) (t : Input) :
    skipSpaces (.char c :: t) = .char c :: t := by
  simp [skipSpaces, Symbol.holds, h]

theorem skipSpaces_space (t : Input) : skipSpaces (.char ' ' :: t) = skipSpaces t := rfl

theorem takeChars_append {p : Char → Bool} {cs : Text} (h : ∀ c ∈ cs, p c = true) {c : Char}
    (hc : p c = false) (rest : Input) :
    takeChars p (inputOf cs ++ .char c :: rest) = (cs, .char c :: rest) := by
  induction cs with
  | nil => simp [takeChars, hc]
  | cons d cs ih =>
    have hd := h d (List.mem_cons_self ..)
    simp [takeChars, hd, ih fun e he => h e (List.mem_cons_of_mem _ he)]

/-- A name without a colon. -/
structure IsPlainName (name : Text) : Prop where
  head : ∃ c more, name = c :: more ∧ isNameStart c = true
  all : ∀ c ∈ name, isNameChar c = true ∧ c ≠ ':'

theorem takeName_append {name : Text} (h : IsPlainName name) {c : Char}
    (hc : isNameChar c = false) (rest : Input) :
    takeName (inputOf name ++ .char c :: rest) = (name, .char c :: rest) := by
  obtain ⟨d, more, rfl, hd⟩ := h.head
  have hs : (inputOf (d :: more) ++ .char c :: rest).head?.any (·.holds isNameStart) = true := hd
  rw [takeName, if_pos hs]
  exact takeChars_append (fun e he => (h.all e he).1) hc rest

theorem splitName_of_isPlainName {name : Text} (h : IsPlainName name) :
    splitName name = (none, name) := by
  have hd : name.dropWhile (· != ':') = [] := by
    rw [List.dropWhile_eq_nil_iff]
    intro c hc
    simpa using (h.all c hc).2
  simp [splitName, cutAt, hd]

/-! ## The end of a tag -/

theorem hasTagEnd_append {quote : Option Char} {t : Input} (h : hasTagEnd quote t = true)
    (u : Input) : hasTagEnd quote (t ++ u) = true := by
  induction t generalizing quote with
  | nil => cases h
  | cons s t ih =>
    cases quote with
    | some q =>
      rw [List.cons_append, hasTagEnd]
      exact ih h
    | none =>
      simp only [hasTagEnd] at h
      simp only [List.cons_append, hasTagEnd]
      split
      · rfl
      · rename_i h1
        rw [if_neg h1] at h
        split
        · rename_i h2
          rw [if_pos h2] at h
          exact ih h
        · rename_i h2
          rw [if_neg h2] at h
          split
          · rename_i h3
            rw [if_pos h3] at h
            exact ih h
          · rename_i h3
            rw [if_neg h3] at h
            exact ih h

/-- Outside quotation marks a tag goes on over all characters but these three. -/
theorem hasTagEnd_plain {v : Text} (h : ∀ c ∈ v, c ≠ '>' ∧ c ≠ '\x22' ∧ c ≠ '\x27') (t : Input) :
    hasTagEnd none (inputOf v ++ t) = hasTagEnd none t := by
  induction v with
  | nil => rfl
  | cons c v ih =>
    obtain ⟨h1, h2, h3⟩ := h c (List.mem_cons_self ..)
    rw [inputOf_cons, List.cons_append, hasTagEnd]
    simp only [Symbol.char.injEq, h1, h2, h3, if_false]
    exact ih fun d hd => h d (List.mem_cons_of_mem _ hd)

theorem hasTagEnd_quoted {v : Text} (h : '\x22' ∉ v) (t : Input) :
    hasTagEnd (some '\x22') (inputOf v ++ .char '\x22' :: t) = hasTagEnd none t := by
  induction v with
  | nil => rfl
  | cons c v ih =>
    have hc : c ≠ '\x22' := fun hc => h (hc ▸ List.mem_cons_self ..)
    rw [inputOf_cons, List.cons_append, hasTagEnd]
    simp only [Symbol.char.injEq, hc, if_false]
    exact ih fun hm => h (List.mem_cons_of_mem _ hm)

/-! ## What has come in -/

/-- An input that is coming in and begins with a text: the text is there, or only a part of it that
is not the whole, and then this is not the last piece. -/
theorem begins_or_waits {isLast : Bool} {w : Text} {t more after : Input}
    (hm : isLast = true → more = []) (h : t ++ more = inputOf w ++ after) :
    (∃ rest, t = inputOf w ++ rest ∧ rest ++ more = after) ∨
      (isLast = false ∧ ∃ v u, u ≠ [] ∧ w = v ++ u ∧ t = inputOf v) := by
  rcases List.append_eq_append_iff.1 h with ⟨u, hw, hu⟩ | ⟨rest, ht, hr⟩
  · cases u with
    | nil =>
      rw [List.append_nil] at hw
      exact .inl ⟨[], by rw [List.append_nil, hw], by rw [hu]; rfl⟩
    | cons s u =>
      have hlast : isLast = false := by
        refine Bool.eq_false_iff.2 fun hl => ?_
        rw [hm hl] at hu
        cases hu
      refine .inr ⟨hlast, ?_⟩
      obtain ⟨v, x, rfl, hv, hx⟩ := List.map_eq_append_iff.1 hw
      refine ⟨v, x, ?_, rfl, hv.symm⟩
      rintro rfl
      cases hx
  · exact .inl ⟨rest, ht, hr.symm⟩

/-- A part of a text that is not the whole has nothing of its last character. -/
theorem prefix_of_append_singleton {α : Type} {front v u : List α} {a : α}
    (h : front ++ [a] = v ++ u) (hu : u ≠ []) : v <+: front := by
  obtain ⟨init, b, rfl⟩ := List.eq_nil_or_concat u |>.resolve_left hu
  rw [List.concat_eq_append, ← List.append_assoc] at h
  exact ⟨init, (List.append_inj' h rfl).1.symm⟩

end Markup
end DfaTable
