import DfaTable.Label.Codes
import Mathlib.Data.List.Basic

/-!
# DfaTable.Proofs.Label.Misuse

When the codes of a classification cannot be told. Only literals, escapes and ranges ask anything of
their texts, and classifying a label always leaves what they ask for.

* `codeOf_eq_error_iff`, `decodeEscape_eq_error_iff`, `rangeCodes_pair_eq_error_iff`: one
  condition for each part that can fail.
* `expand?_eq_error_iff`: together they are the misuses of a classification.
* `expand?_fails_iff`: all of it, with no misuse in what `classify` makes of a label.
-/

namespace DfaTable
namespace Label

/-- What is wrong with a classification. Exclusions are never wrong, and of two wrong bounds only
the first is blamed. -/
inductive Misuses (c : Classified) : Misuse → Prop where
  | literal : c.shape = .literal → c.label.length ≠ 1 →
      Misuses c (.notOneCharacter c.label.length)
  | escape : c.shape = .escape → c.label.length < 2 → Misuses c .noSelector
  | tooFewBounds {texts : List Text} : c.shape = .range → c.bounds = some texts →
      texts.length < 2 → Misuses c (.tooFewBounds texts.length)
  | tooManyBounds {texts : List Text} : c.shape = .range → c.bounds = some texts →
      2 < texts.length → Misuses c .tooManyBounds
  | firstBound {first last : Text} : c.shape = .range → c.bounds = some [first, last] →
      first.length ≠ 1 → Misuses c (.notOneCharacter first.length)
  | lastBound {first last : Text} : c.shape = .range → c.bounds = some [first, last] →
      first.length = 1 → last.length ≠ 1 → Misuses c (.notOneCharacter last.length)

variable {c : Classified} {m : Misuse} {t : Text}

/-! ## The parts that can fail -/

theorem codeOf_eq_error_iff :
    codeOf t = .error m ↔ t.length ≠ 1 ∧ m = .notOneCharacter t.length := by
  match t with
  | [] => simp [codeOf, eq_comm]
  | [c] => simp [codeOf]
  | c :: d :: rest => simp [codeOf, eq_comm]

theorem exists_codeOf (h : t.length = 1) : ∃ code, codeOf t = .ok code := by
  obtain ⟨c, rfl⟩ := List.length_eq_one_iff.1 h
  exact ⟨_, rfl⟩

theorem decodeEscape_eq_error_iff :
    decodeEscape t = .error m ↔ t.length < 2 ∧ m = .noSelector := by
  match t with
  | [] => simp [decodeEscape, eq_comm]
  | [c] => simp [decodeEscape, eq_comm]
  | c :: d :: rest =>
    have hlong : ¬ (c :: d :: rest).length < 2 := by simp
    simp only [hlong, false_and, iff_false]
    exact nofun

theorem rangeCodes_of_length_ne {texts : List Text} (h : texts.length ≠ 2) :
    rangeCodes (some texts) =
      .error (if texts.length < 2 then .tooFewBounds texts.length else .tooManyBounds) := by
  match texts with
  | [] => rfl
  | [first] => rfl
  | [first, last] => exact absurd rfl h
  | first :: second :: third :: rest =>
    have hlong : ¬ (first :: second :: third :: rest).length < 2 := by simp
    rw [rangeCodes, if_neg hlong, if_neg hlong]
    exact nofun

theorem rangeCodes_pair_eq_error_iff {first last : Text} :
    rangeCodes (some [first, last]) = .error m ↔
      first.length ≠ 1 ∧ m = .notOneCharacter first.length ∨
        first.length = 1 ∧ last.length ≠ 1 ∧ m = .notOneCharacter last.length := by
  rw [rangeCodes]
  by_cases hf : first.length = 1
  · obtain ⟨a, ha⟩ := exists_codeOf hf
    rw [ha]
    by_cases hl : last.length = 1
    · obtain ⟨b, hb⟩ := exists_codeOf hl
      simp [hb, hf, hl]
    · rw [codeOf_eq_error_iff.2 ⟨hl, rfl⟩]
      simp [hf, hl, eq_comm]
  · rw [codeOf_eq_error_iff.2 ⟨hf, rfl⟩]
    simp [hf, eq_comm]

/-! ## The codes of a classification -/

theorem expand?_eq_error_iff_codes? : c.expand? = .error m ↔ c.codes? = .error m := by
  rw [Classified.expand?]
  cases c.codes? <;> simp [Except.map]

theorem codes?_eq_error_iff : c.codes? = .error m ↔ Misuses c m := by
  have hmap : ∀ x : Except Misuse Int, x.map ([·]) = .error m ↔ x = .error m := by
    intro x
    cases x <;> simp [Except.map]
  constructor
  · intro h
    unfold Classified.codes? at h
    split at h
    · rename_i hs
      obtain ⟨hl, rfl⟩ := codeOf_eq_error_iff.1 ((hmap _).1 h)
      exact .literal hs hl
    · rename_i hs
      obtain ⟨hl, rfl⟩ := decodeEscape_eq_error_iff.1 ((hmap _).1 h)
      exact .escape hs hl
    · cases h
    · cases h
    · cases h
    · rename_i hs
      cases hb : c.bounds with
      | none =>
        rw [hb] at h
        cases h
      | some texts =>
        rw [hb] at h
        by_cases h2 : texts.length = 2
        · obtain ⟨first, last, rfl⟩ := List.length_eq_two.1 h2
          rcases rangeCodes_pair_eq_error_iff.1 h with ⟨hf, rfl⟩ | ⟨hf, hl, rfl⟩
          · exact .firstBound hs hb hf
          · exact .lastBound hs hb hf hl
        · rw [rangeCodes_of_length_ne h2] at h
          cases h
          split
          · exact .tooFewBounds hs hb (by assumption)
          · exact .tooManyBounds hs hb (by omega)
    · cases h
    · cases h
  · intro h
    unfold Classified.codes?
    cases h with
    | literal hs hl => rw [hs]; exact (hmap _).2 (codeOf_eq_error_iff.2 ⟨hl, rfl⟩)
    | escape hs hl => rw [hs]; exact (hmap _).2 (decodeEscape_eq_error_iff.2 ⟨hl, rfl⟩)
    | tooFewBounds hs hb hl =>
      rw [hs, hb]
      exact (rangeCodes_of_length_ne (by omega)).trans (by rw [if_pos hl])
    | tooManyBounds hs hb hl =>
      rw [hs, hb]
      exact (rangeCodes_of_length_ne (by omega)).trans (by rw [if_neg (by omega)])
    | firstBound hs hb hf =>
      rw [hs, hb]
      exact rangeCodes_pair_eq_error_iff.2 (.inl ⟨hf, rfl⟩)
    | lastBound hs hb hf hl =>
      rw [hs, hb]
      exact rangeCodes_pair_eq_error_iff.2 (.inr ⟨hf, hl, rfl⟩)

theorem expand?_eq_error_iff : c.expand? = .error m ↔ Misuses c m :=
  expand?_eq_error_iff_codes?.trans codes?_eq_error_iff

theorem expand?_eq_ok_iff :
    (∃ codes, c.expand? = .ok { label := c.label, shape := c.shape, codes }) ↔
    ¬ ∃ m, Misuses c m := by
  simp only [← codes?_eq_error_iff, Classified.expand?]
  cases c.codes? <;> simp [Except.map]

/-- The misuses, without saying which one is blamed. -/
theorem exists_misuses_iff : (∃ m, Misuses c m) ↔
    c.shape = .literal ∧ c.label.length ≠ 1 ∨ c.shape = .escape ∧ c.label.length < 2 ∨
      c.shape = .range ∧ ∃ texts, c.bounds = some texts ∧
        (texts.length ≠ 2 ∨ ∃ t ∈ texts, t.length ≠ 1) := by
  constructor
  · rintro ⟨m, h⟩
    cases h with
    | literal hs hl => exact .inl ⟨hs, hl⟩
    | escape hs hl => exact .inr (.inl ⟨hs, hl⟩)
    | tooFewBounds hs hb hl => exact .inr (.inr ⟨hs, _, hb, .inl (by omega)⟩)
    | tooManyBounds hs hb hl => exact .inr (.inr ⟨hs, _, hb, .inl (by omega)⟩)
    | firstBound hs hb hf => exact .inr (.inr ⟨hs, _, hb, .inr ⟨_, by simp, hf⟩⟩)
    | lastBound hs hb hf hl => exact .inr (.inr ⟨hs, _, hb, .inr ⟨_, by simp, hl⟩⟩)
  · rintro (⟨hs, hl⟩ | ⟨hs, hl⟩ | ⟨hs, texts, hb, h⟩)
    · exact ⟨_, .literal hs hl⟩
    · exact ⟨_, .escape hs hl⟩
    · by_cases h2 : texts.length = 2
      · obtain ⟨first, last, rfl⟩ := List.length_eq_two.1 h2
        by_cases hf : first.length = 1
        · have hl : last.length ≠ 1 := by simpa [hf] using h
          exact ⟨_, .lastBound hs hb hf hl⟩
        · exact ⟨_, .firstBound hs hb hf⟩
      · rcases Nat.lt_or_gt_of_ne h2 with h2 | h2
        · exact ⟨_, .tooFewBounds hs hb h2⟩
        · exact ⟨_, .tooManyBounds hs hb h2⟩

/-! ## Labels -/

/-- A classification is misused just where its parts are not what its shape asks for. -/
theorem wellFormed_iff : c.WellFormed ↔ ¬ ∃ m, Misuses c m := by
  constructor
  · rintro h ⟨m, hm⟩
    obtain ⟨x, hx⟩ := expand?_isOk h
    rw [expand?_eq_error_iff.2 hm] at hx
    cases hx
  · intro h
    rw [exists_misuses_iff, not_or, not_or] at h
    obtain ⟨hliteral, hescape, hrange⟩ := h
    unfold Classified.WellFormed
    split
    · rename_i hs
      by_contra hne
      exact hliteral ⟨hs, hne⟩
    · rename_i hs
      by_contra hlt
      exact hescape ⟨hs, by omega⟩
    · rename_i hs
      intro texts hb
      by_cases h2 : texts.length = 2
      · obtain ⟨first, last, rfl⟩ := List.length_eq_two.1 h2
        have hone : ∀ t ∈ [first, last], t.length = 1 := by
          intro t ht
          by_contra hne
          exact hrange ⟨hs, _, hb, .inr ⟨t, ht, hne⟩⟩
        obtain ⟨a, rfl⟩ := List.length_eq_one_iff.1 (hone first (by simp))
        obtain ⟨b, rfl⟩ := List.length_eq_one_iff.1 (hone last (by simp))
        exact ⟨a, b, rfl⟩
      · exact absurd ⟨hs, texts, hb, .inl h2⟩ hrange
    · trivial

theorem expand?_classify (label : Text) : (classify label).expand? = .ok (expand label) := by
  obtain ⟨x, hx⟩ := expand?_isOk (wellFormed_classify label)
  rw [hx, expand_eq hx]

/-- The codes of a classification cannot be told just where a literal is not of one character, an
escape of fewer than two, or the bounds of a range are not two single characters; which of these is
blamed is told by `Misuses`. In all other cases there are codes, whatever the exclusions. Nothing
that `classify` makes of a label is such a case, so every label has codes. -/
theorem expand?_fails_iff :
    (∀ (c : Classified) (m : Misuse), c.expand? = .error m ↔ Misuses c m) ∧
    (∀ c : Classified, (∃ m, c.expand? = .error m) ↔
      c.shape = .literal ∧ c.label.length ≠ 1 ∨ c.shape = .escape ∧ c.label.length < 2 ∨
        c.shape = .range ∧ ∃ texts, c.bounds = some texts ∧
          (texts.length ≠ 2 ∨ ∃ t ∈ texts, t.length ≠ 1)) ∧
    (∀ c : Classified, (∃ codes, c.expand? = .ok { label := c.label, shape := c.shape, codes }) ↔
      ¬ ∃ m, Misuses c m) ∧
    (∀ (c : Classified) (exclusions : Option (List Text)) (m : Misuse),
      { c with exclusions }.expand? = .error m ↔ c.expand? = .error m) ∧
    (∀ label : Text, (¬ ∃ m, Misuses (classify label) m) ∧
      (classify label).expand? = .ok (expand label)) := by
  refine ⟨fun c m => expand?_eq_error_iff, fun c => ?_, fun c => expand?_eq_ok_iff,
    fun c exclusions m => ?_, fun label => ⟨?_, expand?_classify label⟩⟩
  · simp only [expand?_eq_error_iff]
    exact exists_misuses_iff
  · -- No rule of `Misuses` looks at the exclusions.
    rw [expand?_eq_error_iff, expand?_eq_error_iff]
    constructor
    all_goals
      intro h
      cases h with
      | literal hs hl => exact .literal hs hl
      | escape hs hl => exact .escape hs hl
      | tooFewBounds hs hb hl => exact .tooFewBounds hs hb hl
      | tooManyBounds hs hb hl => exact .tooManyBounds hs hb hl
      | firstBound hs hb hf => exact .firstBound hs hb hf
      | lastBound hs hb hf hl => exact .lastBound hs hb hf hl
  · exact wellFormed_iff.1 (wellFormed_classify label)

end Label
end DfaTable
